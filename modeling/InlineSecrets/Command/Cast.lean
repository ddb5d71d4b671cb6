/-
**Children with a plan.**

In a rehearsal no processes are started.  What stands for a child behaves as planned: it exits by
itself after some time or never, and it exits, after some time, when it is asked to terminate, or
ignores that.  A child that is killed exits at once.

Main definitions:

* `InlineSecrets.Command.Behaviour`, `InlineSecrets.Command.Plan` — what a child will do;
* `InlineSecrets.Command.Actor` — a child in a rehearsal;
* `InlineSecrets.Command.Event` — what can be seen of children.
-/

import InlineSecrets.Command.Runner

set_option relaxedAutoImplicit false
set_option autoImplicit false

namespace InlineSecrets

namespace Command

/-- An exit: the status, and the number of seconds after which it happens. -/
structure Exit where
  status : Int
  seconds : Rat := 0
  deriving DecidableEq, Repr

/-- How a child behaves: whether it exits by itself, and what it does when it is asked to terminate,
which may be nothing. -/
structure Behaviour where
  own : Option Exit := none
  onTerminate : Option Exit := some ⟨-15, 0⟩
  deriving DecidableEq, Repr

/-- What starting a child leads to. -/
inductive Plan where
  | refused (fault : StartFault)
  | runs (behaviour : Behaviour)
  deriving DecidableEq, Repr

/-- An exit that is due: at what time and with what status. -/
structure DueExit where
  time : Rat
  status : Int
  deriving DecidableEq, Repr

/-- A number of seconds after a time, as a clock counts. -/
def later (now seconds : Rat) : Rat := (Double.roundRat? (now + seconds)).getD (now + seconds)

/-- An exit from now on. -/
def Exit.dueFrom (e : Exit) (now : Rat) : DueExit := ⟨later now e.seconds, e.status⟩

/-- A child in a rehearsal: how it behaves, and the exit that is due. -/
structure Actor where
  behaviour : Behaviour
  due : Option DueExit := none
  deriving DecidableEq, Repr

/-- The exit status of a child that is killed. -/
def killedStatus : Int := -9

namespace Actor

/-- A child that starts at a time. -/
def begin (now : Rat) (b : Behaviour) : Actor :=
  ⟨b, b.own.map (·.dueFrom now)⟩

/-- A child that has received a signal at a time; what it does when it is killed is not left to
it. -/
def signalled (a : Actor) (now : Rat) : Runner.Signal → Actor
  | .terminate =>
      match a.behaviour.onTerminate with
      | some e => { a with due := some (e.dueFrom now) }
      | none => a
  | .kill => { a with due := none }

end Actor

/-- What can be seen of the children, which are numbered from zero. -/
inductive Event where
  | spawned (argv : List Text) (env : Assoc Text Text)
  | terminated (child : Nat)
  | killed (child : Nat)
  | exited (child : Nat) (status : Int)
  deriving DecidableEq, Repr

/-- The children of a runner in a cast of children of several runners: the number of the runner, and
the numbers that its children have in the cast. -/
structure Company where
  runner : Nat := 0
  members : List Nat := []
  deriving DecidableEq, Repr

namespace Company

variable (c : Company)

/-- The number that a child of the runner has in the cast. -/
def member (child : Nat) : Nat := c.members.getD child 0

/-- The number that a child of the cast has in the runner, if it is one of its children. -/
def childOf? (actor : Nat) : Option Nat := c.members.idxOf? actor

/-- The company after a step, where `next` is the number of the next child in the cast. -/
def afterStep (next : Nat) : Step → Company
  | .start (.ok ()) => { c with members := c.members ++ [next] }
  | _ => c

/-- The events that can be seen in a step of the runner. -/
def eventsIn (r : Runner) (s : Step) : List Event :=
  (match s, r.phase with
    | .start (.ok ()), .starting inputs =>
        [.spawned (inputs.name :: inputs.args) (environmentMap inputs.env)]
    | .exit n status, _ => [.exited (c.member n) status]
    | _, _ => []) ++
  (match r.signal? s with
    | some (.terminate, n) => [.terminated (c.member n)]
    | some (.kill, n) => [.killed (c.member n)]
    | none => [])

/-- The cast after a step of the runner, if the next child to come follows the plan. -/
def castAfter (cast : List Actor) (plan : Plan) (r : Runner) (s : Step) : List Actor :=
  let cast :=
    match s, plan with
    | .start (.ok ()), .runs b => cast ++ [.begin r.now b]
    | .exit n _, _ => cast.modify (c.member n) fun a => { a with due := none }
    | _, _ => cast
  match r.signal? s with
  | some (signal, n) => cast.modify (c.member n) fun a => a.signalled r.now signal
  | none => cast

end Company

end Command

end InlineSecrets
