/-
**Running a command.**

A runner renders the inputs of its command, starts a child with them and waits for one of two
things: that the child exits, or that someone asks for a stop or a restart.  Both come through one
mailbox, which holds a bounded number of messages.  A request that finds it full is dropped, but the
notice of an exit waits until there is room.  A child that has to go is asked to terminate, is given
a time of grace, and is killed when that is over.  With the child, all messages about it are done
away with before another one is started, except that a stop among them cancels a restart.

All this is one transition system.  A step is something that the runner, a child, or another party
does; `step?` says in which states it can happen and what state it leads to, and leaves open which
of the possible steps is taken.

Main definitions:

* `InlineSecrets.Command.Message`, `InlineSecrets.Command.Child` — what is in the mailbox, and
  children;
* `InlineSecrets.Command.Fault`, `InlineSecrets.Command.Outcome` — how a run ends;
* `InlineSecrets.Command.Phase`, `InlineSecrets.Command.Runner` — runners and how far they are;
* `InlineSecrets.Command.Step`, `InlineSecrets.Command.Runner.step?` — what can happen to them;
* `InlineSecrets.Command.Runner.steps?` — several steps, one after the other.
-/

import InlineSecrets.Command.Inputs
import InlineSecrets.Number.Arithmetic
import InlineSecrets.Number.Layout
import InlineSecrets.Text.Quoted
import InlineSecrets.Tool

set_option relaxedAutoImplicit false
set_option autoImplicit false

namespace InlineSecrets

namespace Command

/-! ### Messages -/

/-- What a runner can be asked for. -/
inductive Request where
  | stop
  | restart
  deriving DecidableEq, Repr

/-- The word for a request. -/
def Request.word : Request → String
  | stop => "stop"
  | restart => "restart"

/-- What is put into the mailbox: a request, or the notice that a child has exited. -/
inductive Message where
  | request (r : Request)
  | exited (child : Nat)
  deriving DecidableEq, Repr

/-- The number of messages that the mailbox holds at most. -/
def mailboxCapacity : Nat := 100

/-! ### Children -/

/-- The notice of the exit of a child: nobody watches the child yet, or the notice is still to be
put into the mailbox, or it has been put there. -/
inductive Notice where
  | unwatched
  | awaited
  | delivered
  deriving DecidableEq, Repr

/-- A child: its exit status, once it has exited, and the notice of that. -/
structure Child where
  status : Option Int := none
  notice : Notice := .unwatched
  deriving DecidableEq, Repr

/-- Whether a child has not exited. -/
def Child.isAlive (c : Child) : Bool := c.status.isNone

/-- The exit statuses of a child that went down because it was asked to: zero, the signals by which
it is terminated and killed, and the first of them as a shell reports it, with its number above
128. -/
def cancelledStatuses : List Int := [0, -15, -9, 143]

/-! ### Ways to end -/

/-- The failure to render the inputs of a command with a tool. -/
abbrev RenderFault := RenderFailure (Engine.Failure Cause)

/-- Why a child cannot be started: the system refuses it, or what the child is to be given cannot
be handed to the system. -/
inductive StartFault where
  | absent
  | notExecutable
  | noMemory
  | notPermitted
  | unsupported
  /-- The name, an argument or the environment holds the zero character, at which the system would
  take it to end. -/
  | zeroCharacter
  /-- Some character has no bytes in the encoding of the system, with the report of that. -/
  | unencodable (report : String)
  deriving DecidableEq, Repr

namespace StartFault

/-- The number and the wording of a refusal of the system. -/
def refusal? : StartFault → Option (Nat × String)
  | absent => some (2, "No such file or directory")
  | notExecutable => some (8, "Exec format error")
  | noMemory => some (12, "Cannot allocate memory")
  | notPermitted => some (13, "Permission denied")
  | unsupported => some (38, "Function not implemented")
  | zeroCharacter | unencodable _ => none

/-- Whether the system refuses the child. -/
def isRefusal (f : StartFault) : Bool := f.refusal?.isSome

/-- The wording of the reason for which the child of a name cannot be started. -/
def message (name : Text) (f : StartFault) : String :=
  match f, f.refusal? with
  | _, some (number, wording) =>
      "failed to start " ++ Text.quoted name ++ ": [Errno " ++ toString number ++ "] " ++ wording ++
        ": " ++ Text.quoted name
  | unencodable report, none => report
  | _, none => "embedded null byte"

end StartFault

/-- The kinds of faults of a run: its inputs cannot be rendered; the command fails; its child is not
gone in time; and what is none of these passes through the run as it is. -/
inductive FaultKind where
  | render
  | command
  | cancellation
  | foreign
  deriving DecidableEq, Repr

/-- The ways in which a run fails. -/
inductive Fault where
  | rendering (fault : RenderFault)
  | starting (name : Text) (fault : StartFault)
  /-- The child exited by itself, with a status other than zero. -/
  | failed (name : Text) (status : Int)
  /-- The child exited when it was to go, with a status that does not come from that. -/
  | cancelled (name : Text) (status : Int)
  /-- The child did not exit in time. -/
  | overdue (name : Text) (grace : Double)
  deriving DecidableEq, Repr

namespace Fault

/-- The wording of a fault. -/
def message : Fault → String
  | rendering f => f.message fun e => e.message Cause.message
  | starting name f => f.message name
  | failed name status =>
      "error running command " ++ Text.quoted name ++ ": exit status " ++ toString status
  | cancelled name status =>
      "error from cancelled command " ++ Text.quoted name ++ ": exit status " ++ toString status
  | overdue name grace =>
      "timed out after " ++ String.ofList grace.text ++ "s waiting for " ++ Text.quoted name ++
        " to exit"

/-- The kind of a fault.  Of the faults in starting a child only a refusal of the system is a
failure of the command. -/
def kind : Fault → FaultKind
  | rendering _ => .render
  | starting _ f => if f.isRefusal then .command else .foreign
  | failed _ _ | cancelled _ _ => .command
  | overdue _ _ => .cancellation

/-- The exit status of the child whose exit is the fault. -/
def status? : Fault → Option Int
  | failed _ status | cancelled _ status => some status
  | _ => none

end Fault

/-- How a run ends: the child has finished or was stopped, something failed, or the run was broken
off, because it was interrupted or because it cannot wait as long as it is to. -/
inductive Outcome where
  | finished
  | stopped
  | failed (fault : Fault)
  | interrupted
  deriving DecidableEq, Repr

/-- What follows when a child is gone: the run ends, or the next child is started. -/
inductive Ending where
  | ended (outcome : Outcome)
  | restarting
  deriving DecidableEq, Repr

/-! ### Runners -/

/-- How far a runner is. -/
inductive Phase where
  /-- It has not been run. -/
  | idle
  | rendering
  | starting (inputs : Inputs)
  /-- A child has been started, and is not recorded yet. -/
  | recording (child : Nat) (inputs : Inputs)
  | awaiting (child : Nat)
  /-- The child was asked to terminate because of a request; whether a stop has been seen since, and
  until when its exit is waited for. -/
  | cancelling (child : Nat) (reason : Request) (stopSeen : Bool) (deadline : Option Rat)
  /-- The child was killed. -/
  | reaping (child : Nat)
  /-- The child is done with. -/
  | closing (ending : Ending)
  /-- The mailbox is being emptied; whether a stop has been found in it. -/
  | draining (ending : Ending) (stopPending : Bool)
  | returned (outcome : Outcome)
  deriving DecidableEq, Repr

/-- A runner: the inputs that it is given, the time of grace, the time, the mailbox, the child that
is recorded as running with its inputs, all children so far, and the phase. -/
structure Runner where
  given : Inputs
  grace : Double
  now : Rat := 0
  mailbox : List Message := []
  recorded : Option (Nat × Inputs) := none
  children : List Child := []
  phase : Phase := .idle
  deriving DecidableEq, Repr

/-- The time of grace that is given unless another one is asked for: five seconds. -/
def usualGrace : Double := .ofInt 5

/-- A number of seconds after a time, as the nearest double, since a clock counts in doubles.  The
time never comes when the number is infinite, or is not a number; with a negative infinity it has
come already. -/
def after (now : Rat) (seconds : Double) : Option Rat :=
  match seconds.value with
  | .finite .. => seconds.toRat?.bind fun s => Double.roundRat? (now + s)
  | .infinite negative => if negative then some now else none
  | .notNumber => none

/-- The greatest number of seconds for which anything can be waited for. -/
def longestWait : Rat := 9223372036

/-- Whether nothing can be waited for so long.  A number of seconds that is not one is not too long;
nothing ever compares with it. -/
def isOverlong (seconds : Double) : Bool :=
  match seconds.toRat? with
  | some s => longestWait < s
  | none => seconds.isPositive

/-- What can happen.  The steps of children are to exit and to have that put into the mailbox;
requests, interruptions and the passing of time come from outside; and all others are steps of the
runner.  A wait that cannot be made breaks a run off as an interruption does. -/
inductive Step where
  /-- The runner is run. -/
  | call
  | render (result : Except RenderFault Inputs)
  | start (result : Except StartFault Unit)
  | record
  /-- The next message is taken. -/
  | take
  /-- The time of grace is over. -/
  | expire
  | reap
  | close
  /-- A message is thrown away, or the mailbox is found empty. -/
  | drain
  | exit (child : Nat) (status : Int)
  | post (child : Nat)
  | request (r : Request)
  /-- The run is broken off while it waits. -/
  | interrupt
  | tick (time : Rat)
  deriving Repr

namespace Runner

variable (r : Runner)

/-- Whether a child is recorded as running. -/
def isRunning : Bool := r.recorded.isSome

/-- Whether a child has not exited. -/
def isAlive (child : Nat) : Bool := r.children[child]?.any Child.isAlive

/-- The exit status of a child; zero as long as it has none. -/
def statusOf (child : Nat) : Int := (r.children[child]?.bind Child.status).getD 0

/-- Whether a request is accepted into the mailbox. -/
def accepts : Bool := r.isRunning && r.mailbox.length < mailboxCapacity

/-- Whether a request is dropped because the mailbox is full. -/
def drops : Bool := r.isRunning && !r.accepts

/-- Whether the inputs, rendered now, are others than those of the running child. -/
def hasChanged (rendered : Except RenderFault Inputs) : Except RenderFault Bool :=
  match r.recorded with
  | none => .ok false
  | some (_, inputs) => (fun new => inputs.differsFrom new) <$> rendered

/-! ### Steps -/

/-- Whether the wait for a child that was asked to go cannot be made: there is nothing to take, and
what is left of the time of grace is more than anything can be waited for. -/
def refusesWait : Bool :=
  match r.phase with
  | .cancelling _ _ _ deadline =>
      r.mailbox.isEmpty && isOverlong r.grace && deadline.all fun d => longestWait < d - r.now
  | _ => false

/-- The state after a request: it is in the mailbox, if it was accepted. -/
def requested (q : Request) : Runner :=
  if r.accepts then { r with mailbox := r.mailbox ++ [.request q] } else r

/-- What follows when the child exited by itself. -/
def endingOfExit (status : Int) : Ending :=
  if status = 0 then .ended .finished else .ended (.failed (.failed r.given.name status))

/-- What follows when the child exited because of a request. -/
def endingOfCancel (reason : Request) (stopSeen : Bool) (status : Int) : Ending :=
  if status ∈ cancelledStatuses then
    if stopSeen || reason = .stop then .ended .stopped else .restarting
  else .ended (.failed (.cancelled r.given.name status))

/-- The phase after a message was taken in a phase in which messages are taken. -/
def phaseAfter? (m : Message) : Option Phase :=
  match r.phase, m with
  | .awaiting n, .exited k =>
      some (if k = n then .closing (r.endingOfExit (r.statusOf n)) else .awaiting n)
  | .awaiting n, .request q => some (.cancelling n q false (after r.now r.grace))
  | .cancelling n reason stopSeen deadline, .exited k =>
      some (if k = n then .closing (r.endingOfCancel reason stopSeen (r.statusOf n))
        else .cancelling n reason stopSeen deadline)
  | .cancelling n reason stopSeen deadline, .request q =>
      some (.cancelling n reason (stopSeen || q = .stop) deadline)
  | _, _ => none

/-- The phase behind an emptied mailbox. -/
def phaseAfterDrain : Ending → (stopPending : Bool) → Phase
  | .restarting, true => .returned .stopped
  | .restarting, false => .rendering
  | .ended outcome, _ => .returned outcome

/-- **The state that a step leads to,** if it can happen. -/
def step? : Step → Option Runner
  | .call =>
      match r.phase with
      | .idle | .returned _ => some { r with phase := .rendering }
      | _ => none
  | .render result =>
      match r.phase, result with
      | .rendering, .ok inputs => some { r with phase := .starting inputs }
      | .rendering, .error f => some { r with phase := .returned (.failed (.rendering f)) }
      | _, _ => none
  | .start result =>
      match r.phase, result with
      | .starting inputs, .ok () =>
          some { r with
            children := r.children ++ [{}]
            phase := .recording r.children.length inputs }
      | .starting inputs, .error f =>
          some { r with phase := .returned (.failed (.starting inputs.name f)) }
      | _, _ => none
  | .record =>
      match r.phase with
      | .recording n inputs =>
          some { r with
            recorded := some (n, inputs)
            children := r.children.modify n fun c => { c with notice := .awaited }
            phase := .awaiting n }
      | _ => none
  | .take =>
      match r.mailbox with
      | [] => none
      | m :: rest => (r.phaseAfter? m).map fun phase => { r with mailbox := rest, phase }
  | .expire =>
      match r.phase with
      | .cancelling n _ _ (some deadline) =>
          if r.mailbox = [] ∧ deadline ≤ r.now then some { r with phase := .reaping n } else none
      | _ => none
  | .reap =>
      match r.phase with
      | .reaping n =>
          if r.isAlive n then none
          else some { r with
            phase := .closing (.ended (.failed (.overdue r.given.name r.grace))) }
      | _ => none
  | .close =>
      match r.phase with
      | .closing ending => some { r with recorded := none, phase := .draining ending false }
      | _ => none
  | .drain =>
      match r.phase, r.mailbox with
      | .draining ending stopPending, m :: rest =>
          some { r with
            mailbox := rest
            phase := .draining ending (stopPending || m = .request .stop) }
      | .draining ending stopPending, [] =>
          some { r with phase := phaseAfterDrain ending stopPending }
      | _, _ => none
  | .exit n status =>
      if r.isAlive n then
        some { r with children := r.children.modify n fun c => { c with status := some status } }
      else none
  | .post n =>
      if r.children[n]?.any (fun c => !c.isAlive && c.notice == .awaited) ∧
          r.mailbox.length < mailboxCapacity then
        some { r with
          mailbox := r.mailbox ++ [.exited n]
          children := r.children.modify n fun c => { c with notice := .delivered } }
      else none
  | .request q => some (r.requested q)
  | .interrupt =>
      match r.phase with
      | .awaiting _ | .cancelling .. | .reaping _ =>
          some { r with phase := .closing (.ended .interrupted) }
      | _ => none
  | .tick time => if r.now ≤ time then some { r with now := time } else none

/-- **The state after several steps,** if they can happen one after the other. -/
def steps? : List Step → Runner → Option Runner
  | [], r => some r
  | s :: ss, r => (r.step? s).bind (steps? ss)

/-! ### What a step shows -/

/-- The signals that a runner sends to its child. -/
inductive Signal where
  | terminate
  | kill
  deriving DecidableEq, Repr

/-- The signal that is sent in a step, and the child that it is sent to, unless that has exited. -/
def signal? (s : Step) : Option (Signal × Nat) :=
  match s, r.phase, r.mailbox with
  | .take, .awaiting n, .request _ :: _ => if r.isAlive n then some (.terminate, n) else none
  | .expire, .cancelling n .., _ => if r.isAlive n then some (.kill, n) else none
  | _, _, _ => none

/-- The warning about a request that is dropped. -/
def warning (q : Request) : String :=
  "Dropping " ++ q.word ++ " request for " ++ String.ofList r.given.name ++
    ": too many pending requests"

end Runner

end Command

end InlineSecrets
