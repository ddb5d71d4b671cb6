/-
**Rehearsals.**

In a rehearsal the children behave as planned and time passes only when it is told to; so what a
supervised runner does is determined.  After everything that comes from outside, all parties move
until each of them waits for something.  Where several moves are possible, the notices of exits come
first, then the runner and its caller, and last what happens because a time has come; if it has come
for several, the one that began to wait first goes first.

A caller that does not wait any longer can leave a run behind that has not ended.  The run goes on,
and a new call can be made beside it, of the same runner or of another one.  Calls of one runner
have its mailbox, its children and the record of the running child in common.

Main definitions:

* `InlineSecrets.Command.Alarm` — what happens because a time has come;
* `InlineSecrets.Command.Rehearsal` — rehearsals;
* `InlineSecrets.Command.Rehearsal.settle` — all parties move until they wait;
* `InlineSecrets.Command.Rehearsal.advance` — time passes;
* `InlineSecrets.Command.Rehearsal.call`, `InlineSecrets.Command.Rehearsal.execute` — new calls.
-/

import InlineSecrets.Command.Cast
import InlineSecrets.Command.Supervision

set_option relaxedAutoImplicit false
set_option autoImplicit false

namespace InlineSecrets

namespace Command

/-! ### Alarms -/

/-- The calls of a rehearsal: the latest one, and the earlier ones by their places. -/
abbrev CallName := Option Nat

/-- The parties for which a time can come: a child that exits, and of every call the run and the
caller, which have waited long enough, and the poller. -/
inductive Alarm where
  | exit (actor : Nat) (status : Int)
  | expire (call : CallName)
  | abandon (call : CallName)
  | poll (call : CallName)
  deriving DecidableEq, Repr

/-- An alarm and the time at which it rings. -/
structure SetAlarm where
  time : Rat
  alarm : Alarm
  deriving DecidableEq, Repr

/-- An alarm that rings at a time, if that comes. -/
def SetAlarm.ofDeadline (alarm : Alarm) (deadline : Option Rat) : List SetAlarm :=
  deadline.toList.map fun time => ⟨time, alarm⟩

/-! ### Calls -/

/-- A call: a supervised runner, and which of the children in the cast are its children. -/
structure Call where
  supervision : Supervision
  company : Company
  deriving DecidableEq, Repr

/-- The runner with the mailbox, the children and the record of another run of the same runner. -/
def Runner.sharing (r other : Runner) : Runner :=
  { r with mailbox := other.mailbox, recorded := other.recorded, children := other.children }

namespace Call

variable (c : Call)

/-- The runner. -/
def runner : Runner := c.supervision.runner

/-- The call with what it has in common with another one, which has just moved. -/
def sharing (other : Call) : Call :=
  if c.company.runner = other.company.runner then
    { supervision := { c.supervision with runner := c.runner.sharing other.runner }
      company := other.company }
  else c

/-- Whether nothing can happen in the call any more. -/
def isOver : Bool :=
  match c.runner.phase with
  | .idle => true
  | .returned _ => c.supervision.verdict?.isSome
  | _ => false

/-- The request that is made in a move. -/
def requestIn? : Move → Option Request
  | .run (.request q) => some q
  | .poll rendered =>
      match c.runner.hasChanged rendered with
      | .ok true => some (if c.supervision.polling.onChange = .stop then .stop else .restart)
      | _ => none
  | .receive =>
      match c.supervision.reports with
      | .drifted _ :: _ => some .stop
      | _ => none
  | .interrupt => if c.supervision.caller = .waiting then some .stop else none
  | _ => none

/-- The warnings that a move leads to. -/
def warningsIn (m : Move) : List String :=
  match c.requestIn? m with
  | some q => if c.runner.drops then [c.runner.warning q] else []
  | none => []

/-- The parties of the call that wait for a time. -/
def waiting (name : CallName) : List SetAlarm :=
  (match c.runner.phase with
    | .cancelling _ _ _ deadline => SetAlarm.ofDeadline (.expire name) deadline
    | _ => []) ++
  (match c.supervision.caller with
    | .joining deadline _ => SetAlarm.ofDeadline (.abandon name) deadline
    | _ => []) ++
  (match c.supervision.poller with
    | .asleep wake => SetAlarm.ofDeadline (.poll name) wake
    | _ => [])

/-- The number of polls in a number of seconds. -/
def pollsIn (seconds : Rat) : Nat :=
  match c.supervision.poller, c.supervision.polling.seconds.toRat? with
  | .asleep _, some period => (seconds / period).floor.toNat + 1
  | _, _ => 0

end Call

/-! ### Rehearsals -/

/-- A rehearsal: the latest call, the earlier ones that may not be over, the tool that reveals
secrets and the world of that, the plans for the children to come, the children so far, the alarms
in the order in which they were set, and what has been seen since it was last looked at. -/
structure Rehearsal where
  supervision : Supervision
  company : Company := {}
  earlier : List Call := []
  tool : Option Tool
  world : World
  plans : List Plan := []
  cast : List Actor := []
  alarms : List SetAlarm := []
  events : List Event := []
  warnings : List String := []

namespace Rehearsal

variable (h : Rehearsal)

/-- The latest call. -/
def latest : Call := ⟨h.supervision, h.company⟩

/-- The runner of the latest call. -/
def runner : Runner := h.supervision.runner

/-- The time. -/
def now : Rat := h.runner.now

/-- The names of all calls. -/
def names : List CallName := none :: (List.range h.earlier.length).map some

/-- The call of a name. -/
def call? : CallName → Option Call
  | none => some h.latest
  | some i => h.earlier[i]?

/-- All calls. -/
def calls : List Call := h.latest :: h.earlier

/-- The parties that wait for a time. -/
def waiting : List SetAlarm :=
  (h.cast.zipIdx.filterMap fun (a, n) => a.due.map fun d => ⟨d.time, .exit n d.status⟩) ++
    h.names.flatMap fun name => (h.call? name).elim [] fun c => c.waiting name

/-- The rehearsal in which alarms are set for all parties that wait for a time, new ones last. -/
def withAlarms : Rehearsal :=
  let waiting := h.waiting
  { h with
    alarms := h.alarms.filter waiting.contains ++ waiting.filter fun a => !h.alarms.contains a }

/-- The rehearsal in which a call has moved. -/
def withCall (name : CallName) (c : Call) : Rehearsal :=
  let latest := if name = none then c else h.latest.sharing c
  let earlier := h.earlier.zipIdx.map fun (d, i) => if name = some i then c else d.sharing c
  withAlarms { h with supervision := latest.supervision, company := latest.company, earlier }

/-- What the replacement of secrets does to an entry of the environment. -/
def replacer : Text → World → Except (Engine.Failure Cause) Text × World :=
  match h.tool with
  | some tool => tool.run .decode false
  | none => fun t w => (.ok t, w)

/-- The inputs of a runner rendered now, and the rehearsal after that. -/
def rendered (r : Runner) : Except RenderFault Inputs × Rehearsal :=
  let (result, world) := render h.replacer r.given h.world
  (result, { h with world })

/-- Whether the inputs have changed; they are rendered only when a child is running. -/
def hasChanged : Except RenderFault Bool × Rehearsal :=
  if h.runner.isRunning then
    let (result, h) := h.rendered h.runner
    (h.runner.hasChanged result, h)
  else (.ok false, h)

/-! ### Moves -/

/-- The plan for the next child; without one, it runs until it is told to exit. -/
def nextPlan : Plan := h.plans.head?.getD (.runs {})

/-- The plans that are left after a step. -/
def plansAfter : Step → List Plan
  | .start _ => h.plans.tail
  | _ => h.plans

/-- The alarms that stay set in a step of a call: a run that has taken a message sets its own one
anew. -/
def alarmsKept (name : CallName) : Step → List SetAlarm
  | .take => h.alarms.filter fun a => a.alarm != .expire name
  | _ => h.alarms

/-- The rehearsal in which a step in a call can be seen. -/
def showing (name : CallName) (c : Call) (s : Step) : Rehearsal :=
  { h with
    plans := h.plansAfter s
    alarms := h.alarmsKept name s
    cast := c.company.castAfter h.cast h.nextPlan c.runner s
    events := h.events ++ c.company.eventsIn c.runner s }

/-- The rehearsal after a move in a call, if the move is possible. -/
def move? (m : Move) (name : CallName) : Option Rehearsal := do
  let c ← h.call? name
  let supervision ← c.supervision.move? m
  let after : Rehearsal := { h with warnings := h.warnings ++ c.warningsIn m }
  match m with
  | .run s =>
      let company := c.company.afterStep h.cast.length s
      return (after.showing name c s).withCall name ⟨supervision, company⟩
  | _ => return after.withCall name ⟨supervision, c.company⟩

/-- The rehearsal after a move in a call, or as it was if the move is not possible. -/
def move (m : Move) (name : CallName) : Rehearsal := (h.move? m name).getD h

/-- The rehearsal after an exit of a child, if it has not exited before. -/
def exit? (actor : Nat) (status : Int) : Option Rehearsal :=
  h.names.findSome? fun name => do
    let c ← h.call? name
    h.move? (.run (.exit (← c.company.childOf? actor) status)) name

/-! ### What happens next -/

/-- The notice of an exit that can be delivered. -/
def postNext? : Option Rehearsal :=
  (List.range h.cast.length).firstM fun n => h.names.firstM (h.move? (.run (.post n)))

/-- The next step of a run for which nobody has to wait. -/
def stepNext? (name : CallName) : Option Rehearsal := do
  let c ← h.call? name
  let step? := fun (h : Rehearsal) (s : Step) => h.move? (.run s) name
  match c.runner.phase with
  | .rendering =>
      let (result, h) := h.rendered c.runner
      step? h (.render result)
  | .starting _ =>
      match h.nextPlan with
      | .runs _ => step? h (.start (.ok ()))
      | .refused f => step? h (.start (.error f))
  | .recording .. => step? h .record
  | .awaiting _ | .cancelling .. => step? h .take
  | .reaping _ => step? h .reap
  | .closing _ => step? h .close
  | .draining .. => step? h .drain
  | .idle | .returned _ => none

/-- The rehearsal when the time of grace of a call is over; a child that is killed exits at once. -/
def expire? (name : CallName) : Option Rehearsal := do
  let c ← h.call? name
  let after ← h.move? (.run .expire) name
  match c.runner.signal? .expire with
  | some (_, child) => after.exit? (c.company.member child) killedStatus
  | none => return after

/-- What happens when an alarm rings. -/
def ring? : Alarm → Option Rehearsal
  | .exit n status => h.exit? n status
  | .expire name => h.expire? name
  | .abandon name => h.move? .abandon name
  | .poll name => do
      let c ← h.call? name
      if c.runner.isRunning then
        let (result, h) := h.rendered c.runner
        h.move? (.poll result) name
      else h.move? (.poll (.ok c.runner.given)) name

/-- What happens because a time has come. -/
def alarmNext? : Option Rehearsal :=
  (h.alarms.filter fun a => a.time ≤ h.now).firstM fun a => h.ring? a.alarm

/-- The rehearsal after the next move, if not all parties wait. -/
def next? : Option Rehearsal :=
  h.postNext? <|> h.names.firstM h.stepNext? <|>
    ([Move.report, .receive, .quit, .join].firstM fun m => h.names.firstM (h.move? m)) <|>
    h.alarmNext?

/-- At most `fuel` moves. -/
def settleFor : (fuel : Nat) → Rehearsal → Rehearsal
  | 0, h => h
  | fuel + 1, h =>
      match h.next? with
      | some h => settleFor fuel h
      | none => h

/-- The number of moves after which all parties wait: each message and each child takes part in a
few of them, and without further requests a run starts a child at most three times. -/
def settleBound : Nat :=
  h.calls.foldl (fun n c => n + 200 + 10 * c.runner.mailbox.length) (10 * h.cast.length)

/-- **All parties move until each of them waits for something.** -/
def settle : Rehearsal := settleFor h.settleBound h

/-- All notices of exits are delivered for which there is room; nothing else happens. -/
def deliver : Rehearsal :=
  (List.range h.cast.length).foldl (fun h n => h.names.foldl (move · (.run (.post n))) h) h

/-! ### Time -/

/-- The first time, later than now and not later than `target`, at which an alarm rings. -/
def nextTime? (target : Rat) : Option Rat :=
  ((h.alarms.map SetAlarm.time).filter fun t => h.now < t && t ≤ target).foldl
    (fun first t => some (first.elim t fun u => if t ≤ u then t else u)) none

/-- The rehearsal at a later time. -/
def reach (time : Rat) : Rehearsal := (h.names.foldl (move · (.run (.tick time))) h).settle

/-- Time passes until `target`, with at most `fuel` stops on the way. -/
def advanceTo (target : Rat) : (fuel : Nat) → Rehearsal → Rehearsal
  | 0, h => h.reach target
  | fuel + 1, h =>
      match h.nextTime? target with
      | some time => advanceTo target fuel (h.reach time)
      | none => h.reach target

/-- The number of stops on the way is bounded: a child exits once, and a request is made by a
poll. -/
def stopsIn (seconds : Rat) : Nat :=
  4 * h.calls.foldl (fun n c => n + c.pollsIn seconds + 4) h.cast.length

/-- **Time passes;** what becomes due on the way happens in the order of the times. -/
def advance (seconds : Rat) : Rehearsal :=
  advanceTo (later h.now seconds) (h.stopsIn seconds) h

/-! ### What comes from outside -/

/-- The runner is asked for something several times in a row. -/
def ask (q : Request) (times : Nat) : Rehearsal :=
  (List.replicate times q).foldl (fun h q => h.move (.run (.request q)) none) h

/-- The child that was started last exits, if it has not yet. -/
def exitNewest (status : Int) : Rehearsal := (h.exit? (h.cast.length - 1) status).getD h

/-- The caller is interrupted. -/
def interrupt : Rehearsal := h.move .interrupt none

/-- The rehearsal in which the latest call has become an earlier one, if it is not over. -/
def leavingBehind : Rehearsal :=
  { h with earlier := h.earlier ++ if h.latest.isOver then [] else [h.latest] }

/-- **A new call:** a runner of a company is run directly, or supervised with a plan for polling. -/
def begin (runner : Runner) (company : Company) (polling : Option Polling) : Rehearsal :=
  let fresh := match polling with
    | none => Supervision.direct? runner
    | some p => Supervision.supervised? runner p
  withAlarms { h.leavingBehind with supervision := fresh.getD h.supervision, company }

/-- A new call of the runner of the latest one. -/
def call (polling : Option Polling) : Rehearsal :=
  h.begin { h.runner with phase := .idle } h.company polling

/-- A command is executed, with a runner of its own. -/
def execute (words env : List Text) (polling : Polling) : Except ExecuteFault Rehearsal :=
  (fun runner =>
    h.begin { runner with now := h.now } ⟨h.company.runner + 1, []⟩ (some polling)) <$>
    Runner.executing words env

end Rehearsal

end Command

end InlineSecrets
