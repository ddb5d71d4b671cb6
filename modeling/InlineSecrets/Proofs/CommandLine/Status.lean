/-
**The exit status of a program that runs a command.**

The status passes through three hands: the runner takes the notice of the exit of its child and the
requests before and behind it, the caller takes the first report, and the program makes a status of
that.  Behind all of them it still says what has become of the last child.  It is zero only when
that has ended well; it is the child's own status when that is positive and the reason for the end;
and it is one when the program has no such status to give.

Main definitions:

* `InlineSecrets.Command.Reason.IsSuccess`, `InlineSecrets.Command.Reason.IsFailure` — ends that are
  successes, and failures without a status of their own;
* `InlineSecrets.CommandLine.Faithful` — **a status that says why the call has ended.**

Main results:

* `InlineSecrets.CommandLine.faithful_of_explains` — this is so for every reason;
* `InlineSecrets.CommandLine.executing_of_read` — the program never asks to execute nothing;
* `InlineSecrets.CommandLine.faithful_of_start` — **the program never reports success for a failed
  run.**
-/

import InlineSecrets.CommandLine.Program
import InlineSecrets.Proofs.Command.Reasons

set_option relaxedAutoImplicit false
set_option autoImplicit false

namespace InlineSecrets

namespace Command

/-- The last child exited with zero, or it was stopped and went as it was asked to. -/
def Reason.IsSuccess : Reason → Prop
  | .course (.exited status) => status = 0
  | .course (.cancelled status stop) => status ∈ cancelledStatuses ∧ stop = true
  | _ => False

/-- The last child exited by itself with this positive status, or with this one when it was to go,
and that is not one that comes from being asked to. -/
def Reason.Gives (status : Int) : Reason → Prop
  | .course (.exited status') => status' = status ∧ 0 < status
  | .course (.cancelled status' _) => status' = status ∧ 0 < status ∧ status ≠ 143
  | _ => False

/-- The last child was killed by a signal and not because it was stopped, or it did not exit in
time; or the inputs could not be rendered, now or again, or the child not be started. -/
def Reason.IsFailure : Reason → Prop
  | .course (.exited status) => status < 0
  | .course (.cancelled status _) => status < 0 ∧ status ∉ cancelledStatuses
  | .course (.unrendered _) | .course (.unstarted _ _) | .course .overdue | .check _ => True
  | _ => False

end Command

namespace CommandLine

open Command

/-- **A status that says why the call has ended.** -/
structure Faithful (reason : Reason) (status : Nat) : Prop where
  success_iff : status = 0 ↔ reason.IsSuccess
  given : ∀ own : Int, reason.Gives own → (status : Int) = own
  failure : reason.IsFailure → status = 1

variable {r : Runner} {report : Report} {reason : Reason} {status : Int}

/-- The status of the program whose child has failed: that of the child, if it is positive. -/
theorem status_of_failed {f : Fault} (h : f.status? = some status) :
    (Ending.ofReport (.ran (.failed f))).status ≠ 0 ∧
      (0 < status → ((Ending.ofReport (.ran (.failed f))).status : Int) = status) ∧
      (status < 0 → (Ending.ofReport (.ran (.failed f))).status = 1) := by
  have heq : (Ending.ofReport (.ran (.failed f))).status =
      if 0 < status then status.toNat else 1 := by
    have hkind : f.kind ≠ .foreign := by
      cases f with
      | failed | cancelled => simp [Fault.kind]
      | rendering | starting | overdue => cases h
    simp only [Ending.ofReport, if_neg hkind, Ending.failure, Ending.status, Report.exitStatus, h]
  rw [heq]
  split <;> omega

/-- **The status says why the call has ended,** for every reason. -/
theorem faithful_of_explains (h : Supervision.Explains r report reason) :
    Faithful reason (Ending.ofReport report).status := by
  cases reason with
  | interruption =>
      cases h
      exact ⟨⟨nofun, nofun⟩, nofun, nofun⟩
  | check f =>
      cases h
      exact ⟨⟨nofun, nofun⟩, nofun, fun _ => rfl⟩
  | course k =>
      obtain ⟨outcome, rfl, hk⟩ := h
      cases k with
      | unrendered f | overdue =>
          cases hk
          exact ⟨⟨nofun, nofun⟩, nofun, fun _ => rfl⟩
      | unstarted name f =>
          cases hk
          have hone : (Ending.ofReport (.ran (.failed (.starting name f)))).status = 1 := by
            simp only [Ending.ofReport]
            split <;> rfl
          rw [hone]
          exact ⟨⟨nofun, nofun⟩, nofun, fun _ => rfl⟩
      | interrupted =>
          cases hk
          exact ⟨⟨nofun, nofun⟩, nofun, nofun⟩
      | exited status =>
          simp only [Course.phase] at hk
          split at hk
          · next hzero =>
              cases hk
              subst hzero
              exact ⟨⟨fun _ => rfl, fun _ => rfl⟩, fun own h => absurd h.1 (ne_of_lt h.2),
                fun h => absurd h (lt_irrefl _)⟩
          · next hstatus =>
              cases hk
              obtain ⟨hne, hpositive, hnegative⟩ :=
                status_of_failed (f := .failed r.given.name status) rfl
              refine ⟨⟨fun h => absurd h hne, fun h => absurd h hstatus⟩, ?_, hnegative⟩
              rintro own ⟨rfl, hown⟩
              exact hpositive hown
      | cancelled status stop =>
          simp only [Course.phase] at hk
          split at hk
          · next hclean =>
              cases stop with
              | false => cases hk
              | true =>
                  cases hk
                  refine ⟨⟨fun _ => ⟨hclean, rfl⟩, fun _ => rfl⟩, ?_,
                    fun h => absurd hclean h.2⟩
                  -- the only positive one of these statuses
                  rintro own ⟨rfl, hown, hne⟩
                  simp only [cancelledStatuses, List.mem_cons, List.not_mem_nil, or_false] at hclean
                  omega
          · next hunclean =>
              cases hk
              obtain ⟨hne, hpositive, hnegative⟩ :=
                status_of_failed (f := .cancelled r.given.name status) rfl
              refine ⟨⟨fun h => absurd h hne, fun h => absurd h.1 hunclean⟩, ?_,
                fun h => hnegative h.1⟩
              rintro own ⟨rfl, hown, -⟩
              exact hpositive hown

/-! ### The program -/

/-- A configuration that fails ends the program with one. -/
theorem status_configEnding (aim : String) (f : Config.Failure) :
    (configEnding aim f).status = 1 := by
  unfold configEnding
  split <;> rfl

theorem reachable_runnerOf (environment : Assoc Text Text) (command : List Text) :
    (runnerOf environment command).Reachable :=
  ⟨runnerOf environment command, [], ⟨rfl, rfl, rfl, rfl⟩, rfl⟩

/-- Options that come first do not ask for a task. -/
theorem demandFirst?_ne_perform (p : Parsed OptionKey) (i : Invocation) :
    demandFirst? p ≠ some (.perform i) := by
  intro h
  obtain ⟨o, -, ho⟩ := List.exists_of_findSome?_eq_some h
  split at ho <;> cases ho

/-- A task is that of a command. -/
theorem exists_task_of_read {words : List Text} {i : Invocation}
    (hread : Demand.read words = .ok (.perform i)) :
    ∃ (name : CommandName) (p : Parsed OptionKey), name.task p = .ok i.task := by
  simp only [Demand.read, bind, Except.bind, pure, Except.pure, throw, throwThe,
    MonadExceptOf.throw] at hread
  repeat' split at hread
  all_goals cases hread
  · next hfirst => exact absurd hfirst (demandFirst?_ne_perform _ _)
  · next hfirst => exact absurd hfirst (demandFirst?_ne_perform _ _)
  · next hfirst => exact absurd hfirst (demandFirst?_ne_perform _ _)
  · next htask => exact ⟨_, _, htask⟩

/-- A command that is to be run has a name. -/
theorem ne_nil_of_task {name : CommandName} {p : Parsed OptionKey} {command : List Text}
    {restart stop : Double} (h : name.task p = .ok (.supervise command restart stop)) :
    command ≠ [] := by
  cases name with
  | keygen =>
      simp only [CommandName.task] at h
      split at h <;> cases h
  | transform action => cases h
  | exec =>
      simp only [CommandName.task, bind, Except.bind, pure, Except.pure, throw, throwThe,
        MonadExceptOf.throw] at h
      repeat' split at h
      all_goals cases h
      next hne _ _ => simpa using hne

/-- **The program never asks to execute nothing.**  The runner that it supervises is that of the
command, with the variables of the environment. -/
theorem executing_of_read {words : List Text} {i : Invocation} {command : List Text}
    {restart stop : Double} (hread : Demand.read words = .ok (.perform i))
    (htask : i.task = .supervise command restart stop) (environment : Assoc Text Text) :
    Runner.executing command (environment.map fun (name, value) => name ++ '=' :: value) =
      .ok (runnerOf environment command) := by
  obtain ⟨name, p, h⟩ := exists_task_of_read hread
  rw [htask] at h
  cases command with
  | nil => exact absurd rfl (ne_nil_of_task h)
  | cons w ws => rfl

/-- **The program never reports success for a failed run.**  When it is to run a command, it ends
with status one if both options for polling are given or the configuration fails.  Otherwise it
supervises a runner of that command.  Whatever the runner, its children, the poller and the user do,
when the call has ended there is a reason for that, and the status of the program says so: it is
zero for a success only, it is the status that the last child gives if that is the reason, and it is
one for every other failure. -/
theorem faithful_of_start (s : Surroundings) (words : List Text) (i : Invocation)
    (command : List Text) (restart stop : Double) (hread : Demand.read words = .ok (.perform i))
    (htask : i.task = .supervise command restart stop) :
    ((restart.isPositive = true ∧ stop.isPositive = true) ∨ (∃ f,
        Config.load s.files i.configurationFile i.variablesFile s.environment s.environment =
          .error f) →
      ∃ e, (start s words).progress = .ended e ∧ e.status = 1) ∧
    (¬(restart.isPositive = true ∧ stop.isPositive = true) → (∃ settings,
        Config.load s.files i.configurationFile i.variablesFile s.environment s.environment =
          .ok settings) →
      ∃ s₀ tool, (start s words).progress = .supervising s₀ tool ∧
        Supervision.supervised? (runnerOf s.environment command) (pollingOf restart stop) =
          some s₀ ∧
        ∀ ms s' report, s₀.moves? ms = some s' → s'.verdict? = some report →
          ∃ reason, s₀.reason? ms s'.runner = some reason ∧
            Faithful reason (Ending.ofReport report).status) := by
  have hstart : start s words = supervise s i command restart stop := by
    simp only [start, hread, htask]
  rw [hstart, supervise]
  constructor
  · intro h
    split
    · exact ⟨_, rfl, rfl⟩
    · next hboth =>
        have hload := h.resolve_left fun h => hboth (Bool.and_eq_true_iff.2 h)
        obtain ⟨f, hf⟩ := hload
        rw [equip, hf]
        exact ⟨_, rfl, status_configEnding _ f⟩
  · rintro hboth ⟨settings, hsettings⟩
    rw [if_neg fun h => hboth (Bool.and_eq_true_iff.1 h), equip, hsettings]
    exact ⟨_, _, rfl, rfl, fun ms s' report hms hv => by
      obtain ⟨reason, hreason, hexplains⟩ :=
        Supervision.exists_reason (reachable_runnerOf _ _) rfl hms hv
      exact ⟨reason, hreason, faithful_of_explains hexplains⟩⟩

/-- Nothing is set, and there are no files. -/
def bare : Surroundings where
  environment := []
  files := []
  input := []
  entropy := ⟨fun _ n => Vector.replicate n 0, 0⟩
  server := {}

/-- A child exits by itself with a status, and the caller learns of that. -/
def untilExited (status : Int) : List Move :=
  [.run (.render (.ok ⟨"sh".toList, [], []⟩)), .run (.start (.ok ())), .run .record,
    .run (.exit 0 status), .run (.post 0), .run .take, .run .close, .run .drain, .report, .receive]

/-- A command that exits with three. -/
theorem faithful_of_start_bare :
    ∃ i, Demand.read ["exec".toList, "sh".toList] = .ok (.perform i) ∧
      i.task = .supervise ["sh".toList] (.zero false) (.zero false) ∧
      ∃ s₀ s' tool report reason,
        (start bare ["exec".toList, "sh".toList]).progress = .supervising s₀ tool ∧
        s₀.moves? (untilExited 3) = some s' ∧ s'.verdict? = some report ∧
        s₀.reason? (untilExited 3) s'.runner = some reason ∧
        Faithful reason (Ending.ofReport report).status ∧
        (Ending.ofReport report).status = 3 := by
  have hread : Demand.read ["exec".toList, "sh".toList] =
      .ok (.perform { task := .supervise ["sh".toList] (.zero false) (.zero false) }) := by rfl
  have hload : ∃ settings, Config.load bare.files none none bare.environment bare.environment =
      .ok settings := ⟨_, rfl⟩
  obtain ⟨s₀, tool, hprogress, h₀, hall⟩ :=
    (faithful_of_start bare _ _ _ _ _ hread rfl).2 (fun h => by cases h.1) hload
  have hrun : ∃ s₀ s', Supervision.supervised? (runnerOf [] ["sh".toList])
      (pollingOf (.zero false) (.zero false)) = some s₀ ∧
      s₀.moves? (untilExited 3) = some s' ∧
      s'.verdict? = some (.ran (.failed (.failed "sh".toList 3))) := ⟨_, _, rfl, rfl, rfl⟩
  obtain ⟨s₀', s', h₀', hmoves, hverdict⟩ := hrun
  obtain rfl : s₀ = s₀' := Option.some.inj (h₀.symm.trans h₀')
  obtain ⟨reason, hreason, hfaithful⟩ := hall _ _ _ hmoves hverdict
  exact ⟨_, hread, rfl, s₀, s', tool, _, reason, hprogress, hmoves, hverdict, hreason, hfaithful,
    rfl⟩

end CommandLine

end InlineSecrets
