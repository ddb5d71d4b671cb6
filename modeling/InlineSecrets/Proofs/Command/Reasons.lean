/-
**Why a supervised call ends.**

Two parties make reports to the caller: the runner, when it has returned, and the poller, when the
inputs cannot be rendered again.  The caller ends with the report that was made first, whatever is
reported behind it, unless it is interrupted.

A report of the runner does not say much about its children.  But to the runner the moves of a
supervised run are steps of one run, and the chronicle of that tells the course of the last child.
So for every call that has ended there is a reason: an interruption, a failed check, or what has
become of the last child.

Main definitions:

* `InlineSecrets.Command.Supervision.runnerSteps` — the steps of the runner along the moves;
* `InlineSecrets.Command.Supervision.made` — the reports that are made along the moves;
* `InlineSecrets.Command.Reason`, `InlineSecrets.Command.Supervision.reason?` — **why a call ends.**

Main results:

* `InlineSecrets.Command.Supervision.steps?_runnerSteps` — these are the steps of one run;
* `InlineSecrets.Command.Supervision.isVerdict_of_moves?` — **a call ends with the report that was
  made first, or it was interrupted;**
* `InlineSecrets.Command.Supervision.exists_reason` — there is a reason for every end of a call.
-/

import InlineSecrets.Proofs.Command.Drift
import InlineSecrets.Proofs.Command.Outcomes

set_option relaxedAutoImplicit false
set_option autoImplicit false

namespace InlineSecrets

namespace Command

/-- **Why a supervised call ends:** because of what has become of the last child, because the inputs
could not be rendered again, or because it was interrupted. -/
inductive Reason where
  | course (k : Course)
  | check (fault : RenderFault)
  | interruption
  deriving DecidableEq, Repr

/-- Whether a move is an interruption. -/
def Move.isInterrupt : Move → Bool
  | .interrupt => true
  | _ => false

namespace Supervision

variable {s s₀ s' : Supervision} {m : Move} {ms past : List Move} {reports : List Report}
  {report : Report}

/-! ### The steps of the runner -/

/-- What the poller asks for because of the answer to whether the inputs have changed. -/
def pollStep? (s : Supervision) : Except RenderFault Bool → Option Step
  | .ok true => some (.request (if s.polling.onChange = .stop then .stop else .restart))
  | _ => none

/-- The step of the runner that a move is, if it is one. -/
def runnerStep? (s : Supervision) : Move → Option Step
  | .run step => some step
  | .poll rendered => s.pollStep? (s.runner.hasChanged rendered)
  | .receive =>
      match s.reports with
      | .drifted _ :: _ => some (.request .stop)
      | _ => none
  | .interrupt =>
      match s.caller with
      | .absent => some .interrupt
      | .waiting => some (.request .stop)
      | _ => none
  | _ => none

/-- **The steps of the runner along the moves.** -/
def runnerSteps : List Move → Supervision → List Step
  | [], _ => []
  | m :: ms, s => (s.runnerStep? m).toList ++ (s.move? m).elim [] (runnerSteps ms)

theorem afterPoll_runner (s : Supervision) (changed : Except RenderFault Bool) :
    .call ∉ (s.pollStep? changed).toList ∧
      s.runner.steps? (s.pollStep? changed).toList = some (s.afterPoll changed).runner := by
  unfold afterPoll
  cases changed with
  | error f => exact ⟨List.not_mem_nil, rfl⟩
  | ok b =>
      cases b with
      | false => exact ⟨List.not_mem_nil, rfl⟩
      | true =>
          refine ⟨by simp [pollStep?], ?_⟩
          unfold pollStep?
          dsimp only
          split <;> rfl

/-- To the runner a move is this step, or nothing. -/
theorem Effect.runner_eq (h : Effect s m s') :
    .call ∉ (s.runnerStep? m).toList ∧
      s.runner.steps? (s.runnerStep? m).toList = some s'.runner := by
  have hrequest : Step.call ∉ [Step.request .stop] ∧
      s.runner.steps? [.request .stop] = some (s.runner.requested .stop) := ⟨by simp, rfl⟩
  have hnothing : Step.call ∉ ([] : List Step) ∧ s.runner.steps? [] = some s.runner :=
    ⟨List.not_mem_nil, rfl⟩
  cases h with
  | @run step r' hcall hinterrupt h =>
      refine ⟨by simpa [runnerStep?] using hcall.symm, ?_⟩
      exact Runner.steps?_cons_eq_some_iff.2 ⟨r', h, rfl⟩
  | poll => exact s.afterPoll_runner _
  | receiveEnd _ hreports =>
      simp only [runnerStep?, hreports]
      exact hnothing
  | receiveDrift _ hreports =>
      simp only [runnerStep?, hreports]
      exact hrequest
  | @interruptRun r' hc h =>
      simp only [runnerStep?, hc]
      exact ⟨by simp, Runner.steps?_cons_eq_some_iff.2 ⟨r', h, rfl⟩⟩
  | interruptWait hc =>
      simp only [runnerStep?, hc]
      exact hrequest
  | interruptJoin hc =>
      simp only [runnerStep?, hc]
      exact hnothing
  | quit | report | join | abandon => exact hnothing

/-- **To the runner the moves of a supervised run are the steps of one run.** -/
theorem steps?_runnerSteps (hms : s.moves? ms = some s') :
    .call ∉ runnerSteps ms s ∧ s.runner.steps? (runnerSteps ms s) = some s'.runner := by
  induction ms generalizing s with
  | nil =>
      cases hms
      exact ⟨List.not_mem_nil, rfl⟩
  | cons m ms ih =>
      obtain ⟨s₁, hm, hms⟩ := moves?_cons_eq_some_iff.1 hms
      obtain ⟨hcall, hstep⟩ := hm.runner_eq
      obtain ⟨hcalls, hsteps⟩ := ih hms
      rw [runnerSteps, move?_eq_some_iff.2 hm, Option.elim_some]
      refine ⟨fun h => (List.mem_append.1 h).elim hcall hcalls, ?_⟩
      rw [Runner.steps?_append, hstep, Option.bind_some, hsteps]

/-! ### The reports -/

/-- What the poller reports because of the answer to whether the inputs have changed. -/
def pollReport? : Except RenderFault Bool → Option Report
  | .error f => some (.drifted f)
  | .ok _ => none

/-- The report that is made in a move, if there is one. -/
def report? (s : Supervision) : Move → Option Report
  | .poll rendered => pollReport? (s.runner.hasChanged rendered)
  | .report =>
      match s.runner.phase with
      | .returned outcome => some (.ran outcome)
      | _ => none
  | _ => none

/-- **The reports that are made along the moves,** from the first one on. -/
def made : List Move → Supervision → List Report
  | [], _ => []
  | m :: ms, s => (s.report? m).toList ++ (s.move? m).elim [] (made ms)

theorem afterPoll_reports (s : Supervision) (changed : Except RenderFault Bool) :
    (s.afterPoll changed).reports = s.reports ++ (pollReport? changed).toList := by
  unfold afterPoll
  cases changed with
  | error f => rfl
  | ok b =>
      rw [pollReport?, Option.toList_none, List.append_nil]
      cases b with
      | false => rfl
      | true =>
          dsimp only
          split <;> rfl

/-- A call with these moves and reports ends like that: it was interrupted, or this is the report
that was made first. -/
def IsVerdict (past : List Move) (reports : List Report) (report : Report) : Prop :=
  if past.any Move.isInterrupt then report = .ran .interrupted else reports.head? = some report

/-- Behind these moves and reports it is settled what a supervised call ends with, or nothing has
reached the caller. -/
def Settles (past : List Move) (reports : List Report) (s : Supervision) : Prop :=
  match s.caller with
  | .absent => False
  | .waiting => past.any Move.isInterrupt = false ∧ s.reports = reports
  | .joining _ report | .returned report => IsVerdict past reports report

/-- **What is settled stays settled,** unless there is an interruption. -/
theorem IsVerdict.append (h : IsVerdict past reports report) (hm : m.isInterrupt = false)
    (later : List Report) : IsVerdict (past ++ [m]) (reports ++ later) report := by
  have hany : (past ++ [m]).any Move.isInterrupt = past.any Move.isInterrupt := by simp [hm]
  unfold IsVerdict at h ⊢
  rw [hany]
  split at h
  · next hinterrupted => rwa [if_pos hinterrupted]
  · next hinterrupted => rw [if_neg hinterrupted, List.head?_append, h, Option.some_or]

theorem isVerdict_interrupted (past : List Move) (reports : List Report) :
    IsVerdict (past ++ [.interrupt]) reports (.ran .interrupted) := by
  have hany : (past ++ [Move.interrupt]).any Move.isInterrupt = true := by
    rw [List.any_append]
    exact Bool.or_true _
  exact (if_pos hany).mpr rfl

theorem Settles.effect (hs : s.Settles past reports) (h : Effect s m s') :
    s'.Settles (past ++ [m]) (reports ++ (s.report? m).toList) := by
  -- moves after which the caller is where it was
  have hkeep : m.isInterrupt = false → s'.caller = s.caller →
      s'.reports = s.reports ++ (s.report? m).toList →
      s'.Settles (past ++ [m]) (reports ++ (s.report? m).toList) := by
    intro hm hcaller hreports
    unfold Settles at hs ⊢
    rw [hcaller]
    cases hc : s.caller with
    | absent => rwa [hc] at hs
    | waiting =>
        simp only [hc] at hs ⊢
        exact ⟨by simp [hs.1, hm], by rw [hreports, hs.2]⟩
    | joining deadline report | returned report =>
        simp only [hc] at hs ⊢
        exact hs.append hm _
  cases h with
  | run | quit => exact hkeep rfl rfl (List.append_nil _).symm
  | poll => exact hkeep rfl (s.afterPoll_cases _).2.1 (s.afterPoll_reports _)
  | report _ hp => exact hkeep rfl rfl (by simp only [report?, hp]; rfl)
  | @receiveEnd outcome rest hc hreports =>
      simp only [Settles, hc] at hs
      have hfirst : IsVerdict past reports (.ran outcome) := by
        rw [IsVerdict, hs.1, ← hs.2, hreports]
        exact List.head?_cons
      exact hfirst.append rfl _
  | @receiveDrift f rest hc hreports =>
      simp only [Settles, hc] at hs
      have hfirst : IsVerdict past reports (.drifted f) := by
        rw [IsVerdict, hs.1, ← hs.2, hreports]
        exact List.head?_cons
      exact hfirst.append rfl _
  | join hc | abandon hc =>
      simp only [Settles, hc] at hs
      exact hs.append rfl _
  | interruptWait hc | interruptJoin hc => exact isVerdict_interrupted _ _
  | interruptRun hc => simp [Settles, hc] at hs

theorem Settles.moves (hs : s.Settles past reports) (hms : s.moves? ms = some s') :
    s'.Settles (past ++ ms) (reports ++ made ms s) := by
  induction ms generalizing s past reports with
  | nil =>
      cases hms
      simpa [made] using hs
  | cons m ms ih =>
      obtain ⟨s₁, hm, hms⟩ := moves?_cons_eq_some_iff.1 hms
      have h := ih (hs.effect hm) hms
      rw [List.append_assoc, List.append_assoc] at h
      rw [made, move?_eq_some_iff.2 hm, Option.elim_some]
      exact h

/-- **A call ends with the report that was made first,** or it was interrupted. -/
theorem isVerdict_of_moves? (hc : s₀.caller = .waiting) (hreports : s₀.reports = [])
    (hms : s₀.moves? ms = some s) (hv : s.verdict? = some report) :
    IsVerdict ms (made ms s₀) report := by
  have hs₀ : s₀.Settles [] [] := by
    rw [Settles, hc]
    exact ⟨rfl, hreports⟩
  have hs := hs₀.moves hms
  unfold Settles at hs
  unfold verdict? at hv
  split at hv
  · next hc' _ => simp [hc'] at hs
  · next report' hc' =>
      cases hv
      simpa [hc'] using hs
  · cases hv

/-- **The runner reports what it has returned.** -/
theorem phase_of_mem_made {outcome : Outcome} (hs : s.caller ≠ .absent)
    (hms : s.moves? ms = some s') (h : .ran outcome ∈ made ms s) :
    s'.runner.phase = .returned outcome := by
  induction ms generalizing s with
  | nil => cases h
  | cons m ms ih =>
      obtain ⟨s₁, hm, hms'⟩ := moves?_cons_eq_some_iff.1 hms
      rw [made, move?_eq_some_iff.2 hm, Option.elim_some] at h
      rcases List.mem_append.1 h with h | h
      · have hp : s.runner.phase = .returned outcome := by
          rw [Option.mem_toList] at h
          cases m with
          | poll rendered =>
              simp only [report?] at h
              cases hchanged : s.runner.hasChanged rendered <;> rw [hchanged] at h <;> cases h
          | report =>
              simp only [report?] at h
              split at h
              · next hp => cases h; exact hp
              · cases h
          | _ => cases h
        refine invariant_of_runner (P := fun r => r.phase = .returned outcome) ?_ hs hms hp
        exact fun r step r' hcall hp h => h.phase_of_returned hcall hp
      · exact ih (hm.caller_ne_absent hs) hms' h

/-! ### Reasons -/

/-- **The reason for the end of a call** that began with a supervised runner, and after these moves
has the runner `r`. -/
def reason? (s₀ : Supervision) (ms : List Move) (r : Runner) : Option Reason :=
  if ms.any Move.isInterrupt then some .interruption
  else
    match made ms s₀ with
    | .drifted f :: _ => some (.check f)
    | .ran _ :: _ => ((Chronicle.along {} s₀.runner (runnerSteps ms s₀)).course? r).map .course
    | [] => none

/-- What a call ends with for a reason. -/
def Explains (r : Runner) (report : Report) : Reason → Prop
  | .course k => ∃ outcome, report = .ran outcome ∧ k.phase r = .returned outcome
  | .check f => report = .drifted f
  | .interruption => report = .ran .interrupted

/-- **There is a reason for every end of a call,** and the call ends with what follows from that. -/
theorem exists_reason {r : Runner} {polling : Polling} (hr : r.Reachable)
    (h₀ : supervised? r polling = some s₀) (hms : s₀.moves? ms = some s)
    (hv : s.verdict? = some report) :
    ∃ reason, s₀.reason? ms s.runner = some reason ∧ Explains s.runner report reason := by
  obtain ⟨r₀, hcall, rfl⟩ := Option.map_eq_some_iff.1 h₀
  have hverdict := isVerdict_of_moves? rfl rfl hms hv
  unfold IsVerdict at hverdict
  unfold reason?
  split at hverdict
  · next hinterrupted =>
      rw [if_pos hinterrupted]
      exact ⟨.interruption, rfl, hverdict⟩
  · next hinterrupted =>
      rw [if_neg hinterrupted]
      generalize hmade : made ms _ = reports at hverdict
      cases reports with
      | nil => cases hverdict
      | cons first rest =>
          obtain rfl := Option.some.inj hverdict
          cases first with
          | drifted f => exact ⟨.check f, rfl, rfl⟩
          | ran outcome =>
              have hp : s.runner.phase = .returned outcome :=
                phase_of_mem_made Caller.noConfusion hms (hmade ▸ List.mem_cons_self)
              have htells : Chronicle.Tells {} r₀ r₀.phase := by
                cases Runner.step?_eq_some_iff.1 hcall with
                | call => exact .rendering rfl
              obtain ⟨hno, hsteps⟩ := steps?_runnerSteps hms
              obtain ⟨k, hk, hphase, -⟩ :=
                (Runner.tells_along (hr.step hcall) hno hsteps htells).exists_course
                  (Or.inl ⟨outcome, hp⟩)
              exact ⟨.course k, by simp only [hk, Option.map_some], outcome, rfl,
                hphase.symm.trans hp⟩

end Supervision

end Command

end InlineSecrets
