/-
**Supervising a runner.**

A supervised runner runs beside two other parties.  The caller waits for the first report: of the
runner, how it has ended, or of the poller, that the inputs could not be rendered again.  The poller
sleeps for a number of seconds, renders the inputs, and asks for a stop or a restart when they have
changed.  When the caller is interrupted, or the poller reports a failure, the caller asks for a
stop and waits for the runner to end, but not for longer than the usual time of grace.

A runner can also be run directly; then there is no poller, and its end is the end of the call.  And
a command can be executed, which makes a runner of its words and supervises that.

Main definitions:

* `InlineSecrets.Command.Report` — what the caller learns, and ends with;
* `InlineSecrets.Command.Supervision` — a runner with its caller and its poller;
* `InlineSecrets.Command.Move`, `InlineSecrets.Command.Supervision.move?` — what can happen to them;
* `InlineSecrets.Command.Supervision.verdict?` — how the call has ended;
* `InlineSecrets.Command.Runner.executing` — the runner of a command that is executed.
-/

import InlineSecrets.Command.Polling
import InlineSecrets.Command.Runner

set_option relaxedAutoImplicit false
set_option autoImplicit false

namespace InlineSecrets

namespace Command

/-- What the caller learns: how the runner has ended, or that the inputs could not be rendered
again. -/
inductive Report where
  | ran (outcome : Outcome)
  | drifted (fault : RenderFault)
  deriving DecidableEq, Repr

/-- The message for inputs that could not be rendered again. -/
def driftMessage (f : RenderFault) : String :=
  "failed to determine if configuration has changed: " ++ (Fault.rendering f).message

/-- The party that renders the inputs again: there is none, or it sleeps until a time, or it has
ended. -/
inductive Poller where
  | absent
  | asleep (wake : Option Rat)
  | ended
  deriving DecidableEq, Repr

/-- The party that waits for the runner. -/
inductive Caller where
  /-- The runner is run directly. -/
  | absent
  | waiting
  /-- The runner was asked to stop, and its end is waited for until a time. -/
  | joining (deadline : Option Rat) (report : Report)
  | returned (report : Report)
  deriving DecidableEq, Repr

/-- A runner with its poller and its caller: the reports that the caller has not taken, whether the
runner has made its report, and whether the poller has been told to end. -/
structure Supervision where
  runner : Runner
  polling : Polling := {}
  poller : Poller := .absent
  caller : Caller := .absent
  reports : List Report := []
  reported : Bool := false
  done : Bool := false
  deriving DecidableEq, Repr

/-- What can happen: a step of the runner, or a step of another party. -/
inductive Move where
  | run (s : Step)
  /-- The poller wakes up and renders the inputs. -/
  | poll (rendered : Except RenderFault Inputs)
  /-- The poller ends because it was told to. -/
  | quit
  /-- The runner reports how it has ended. -/
  | report
  /-- The caller takes the first report. -/
  | receive
  /-- The caller sees the end of the runner. -/
  | join
  /-- The caller does not wait any longer. -/
  | abandon
  | interrupt
  deriving Repr

namespace Supervision

/-- A runner that is run directly. -/
def direct? (r : Runner) : Option Supervision := (r.step? .call).map fun runner => { runner }

/-- Until when a poller sleeps.  One that cannot wait as long as it is to is gone, and does not wake
up again. -/
def wakeAfter (now : Rat) (seconds : Double) : Option Rat :=
  if isOverlong seconds then none else after now seconds

/-- A runner that is supervised, with a poller if the plan asks for one. -/
def supervised? (r : Runner) (polling : Polling) : Option Supervision :=
  (r.step? .call).map fun runner =>
    { runner, polling
      poller := if polling.isEnabled then .asleep (wakeAfter r.now polling.seconds) else .absent
      caller := .waiting }

variable (s : Supervision)

/-- The state in which the runner has been asked for something. -/
def requested (q : Request) : Supervision := { s with runner := s.runner.requested q }

/-- Whether a time has come. -/
def isDue (time : Option Rat) : Bool := time.any fun t => t ≤ s.runner.now

/-- What the poller does about the answer to whether the inputs have changed. -/
def afterPoll (changed : Except RenderFault Bool) : Supervision :=
  let again : Poller := .asleep (wakeAfter s.runner.now s.polling.seconds)
  match changed with
  | .error f => { s with reports := s.reports ++ [.drifted f], poller := .ended }
  | .ok false => { s with poller := again }
  | .ok true =>
      if s.polling.onChange = .stop then { s.requested .stop with poller := .ended }
      else { s.requested .restart with poller := again }

/-- The caller asks for a stop and begins to wait for the end of the runner. -/
def beginJoin (report : Report) : Supervision :=
  { s.requested .stop with caller := .joining (after s.runner.now usualGrace) report }

/-- The state after an interruption. -/
def interrupted? : Option Supervision :=
  match s.caller with
  | .absent => (s.runner.step? .interrupt).map fun runner => { s with runner }
  | .waiting => some (s.beginJoin (.ran .interrupted))
  | .joining _ _ => some { s with caller := .returned (.ran .interrupted), done := true }
  | .returned _ => none

/-- **The state that a move leads to,** if it can happen.  The poller and the runner do not see
interruptions, so a run is broken off only by a wait that cannot be made; and a runner is run
once. -/
def move? : Move → Option Supervision
  | .run .call => none
  | .run .interrupt =>
      if s.runner.refusesWait then (s.runner.step? .interrupt).map fun runner => { s with runner }
      else none
  | .run step => (s.runner.step? step).map fun runner => { s with runner }
  | .poll rendered =>
      match s.poller with
      | .asleep wake =>
          if s.isDue wake && !s.done then some (s.afterPoll (s.runner.hasChanged rendered))
          else none
      | _ => none
  | .quit =>
      match s.poller with
      | .asleep _ => if s.done then some { s with poller := .ended } else none
      | _ => none
  | .report =>
      match s.caller, s.runner.phase with
      | .absent, _ => none
      | _, .returned outcome =>
          if s.reported then none
          else some { s with reports := s.reports ++ [.ran outcome], reported := true }
      | _, _ => none
  | .receive =>
      match s.caller, s.reports with
      | .waiting, .ran outcome :: rest =>
          some { s with caller := .returned (.ran outcome), reports := rest, done := true }
      | .waiting, .drifted f :: rest =>
          some { s.beginJoin (.drifted f) with reports := rest, done := true }
      | _, _ => none
  | .join =>
      match s.caller with
      | .joining _ report =>
          if s.reported then some { s with caller := .returned report, done := true } else none
      | _ => none
  | .abandon =>
      match s.caller with
      | .joining deadline report =>
          if s.isDue deadline then some { s with caller := .returned report, done := true }
          else none
      | _ => none
  | .interrupt => s.interrupted?

/-- The state after several moves, if they can happen one after the other. -/
def moves? : List Move → Supervision → Option Supervision
  | [], s => some s
  | m :: ms, s => (s.move? m).bind (moves? ms)

/-- **How the call has ended,** if it has. -/
def verdict? : Option Report :=
  match s.caller, s.runner.phase with
  | .absent, .returned outcome => some (.ran outcome)
  | .returned report, _ => some report
  | _, _ => none

end Supervision

/-! ### Executing a command -/

/-- Why a command is not executed: there is none. -/
inductive ExecuteFault where
  | noCommand
  deriving DecidableEq, Repr

/-- The wording of a fault. -/
def ExecuteFault.message : ExecuteFault → String
  | noCommand => "execute requires a command to run"

/-- The runner of a command, which is given by its name and its arguments, in an environment. -/
def Runner.executing (words env : List Text) : Except ExecuteFault Runner :=
  match words with
  | [] => .error .noCommand
  | name :: args => .ok { given := ⟨name, args, env⟩, grace := usualGrace }

/-- The exit status of a program that ends as its supervised command does: zero after a clean end,
the status of a child that failed with a positive one, and one after everything else. -/
def Report.exitStatus : Report → Nat
  | .ran .finished | .ran .stopped => 0
  | .ran (.failed f) =>
      match f.status? with
      | some status => if 0 < status then status.toNat else 1
      | none => 1
  | .ran .interrupted | .drifted _ => 1

end Command

end InlineSecrets
