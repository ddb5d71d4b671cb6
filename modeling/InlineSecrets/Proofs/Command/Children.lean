/-
**At most one child, and none left behind.**

The only child that can be alive is the one that the phase names: it is started when there is none,
and it is let go when its exit has been noticed, or it was seen to be dead after it was killed.
Notices of exits are to be trusted, since they are put into the mailbox after the exit.

An interruption is the exception: then the run ends and leaves its child alone.  So what is said
here about all children that a runner has ever had is said of a life without interruptions.  Of the
children of one run it holds in any life, but that none is left when this run was interrupted.

Main definitions:

* `InlineSecrets.Command.Phase.child?` — the child that a phase is about;
* `InlineSecrets.Command.Runner.Tends` — **a runner loses sight of no child;**
* `InlineSecrets.Command.Runner.Tidy` — what that means for someone who looks at the children.

Main results:

* `InlineSecrets.Command.Runner.Tends.transition` — no step loses sight of a child;
* `InlineSecrets.Command.Runner.tidy_of_steps` — **at most one child is alive, and none when the run
  has returned.**
-/

import InlineSecrets.Proofs.Command.Transition

set_option relaxedAutoImplicit false
set_option autoImplicit false

namespace InlineSecrets

namespace Command

/-! ### Phases -/

/-- Whether a run ends because it was interrupted. -/
def Ending.isInterrupted : Ending → Bool
  | ended .interrupted => true
  | _ => false

namespace Phase

/-- The child that a phase is about, and that may be alive in it. -/
def child? : Phase → Option Nat
  | recording n _ | awaiting n | cancelling n .. | reaping n => some n
  | _ => none

/-- Whether the run was interrupted. -/
def isInterrupted : Phase → Bool
  | closing ending | draining ending _ => ending.isInterrupted
  | returned outcome => (Ending.ended outcome).isInterrupted
  | _ => false

/-- Whether a child may be alive in a phase. -/
def Allows (p : Phase) (i : Nat) : Prop := p.child? = some i ∨ p.isInterrupted = true

/-- No child may be alive behind a run that was not interrupted. -/
theorem not_allows_returned {outcome : Outcome} (h : outcome ≠ .interrupted) (i : Nat) :
    ¬(returned outcome).Allows i := by
  rintro (hi | hi)
  · cases hi
  · cases outcome with
    | interrupted => exact h rfl
    | finished | stopped | failed => cases hi

@[simp] theorem isInterrupted_phaseAfterDrain (ending : Ending) (stopPending : Bool) :
    (Runner.phaseAfterDrain ending stopPending).isInterrupted = ending.isInterrupted := by
  cases ending with
  | ended => rfl
  | restarting => cases stopPending <;> rfl

end Phase

namespace Runner

variable {r r' : Runner} {s : Step} {ss : List Step} {base : Nat}

/-! ### What every step preserves -/

/-- **A runner loses sight of no child** from number `base` on: only one of them can be alive, and
the phase names it; and what the mailbox says about exits is true. -/
structure Tends (base : Nat) (r : Runner) : Prop where
  unique : ∀ {i j}, base ≤ i → base ≤ j → r.isAlive i = true → r.isAlive j = true → i = j
  allows : ∀ {i}, base ≤ i → r.isAlive i = true → r.phase.Allows i
  hasExited : ∀ {n}, .exited n ∈ r.mailbox → r.HasExited n

/-- Notices of exits stay true. -/
theorem Transition.hasExited (h : Transition r s r')
    (hr : ∀ {n}, .exited n ∈ r.mailbox → r.HasExited n) {n : Nat} (hn : .exited n ∈ r'.mailbox) :
    r'.HasExited n := by
  rcases h.mem_mailbox hn with hn | ⟨q, hq, -⟩ | ⟨k, hk, -, hexited⟩
  · exact (hr hn).transition h
  · cases hq
  · cases hk
    exact hexited.transition h

/-- A child that stays alive is not lost sight of. -/
theorem Transition.allows (h : Transition r s r')
    (hs : s = .call → r.phase ≠ .returned .interrupted)
    (hr : ∀ {n}, .exited n ∈ r.mailbox → r.HasExited n) {i : Nat} (hi : r.isAlive i = true)
    (hallows : r.phase.Allows i) : r'.phase.Allows i := by
  have hexited : ∀ {n}, .exited n ∈ r.mailbox → ¬(some n = some i ∨ false = true) := by
    rintro n hn (h | h)
    · cases h
      exact Bool.false_ne_true ((hr hn).2.symm.trans hi)
    · cases h
  cases h with
  | takeStale | exit | post | accept | ignore | tick => exact hallows
  | interrupt => exact Or.inr rfl
  | record hp | takeRequest hp | takeFurther hp | expire hp =>
      rw [hp] at hallows
      exact hallows
  | takeExit hp hbox | takeCancelled hp hbox =>
      -- the notice says that the child has exited
      rw [hp] at hallows
      rw [hbox] at hexited
      exact absurd hallows (hexited List.mem_cons_self)
  | reap hp hn =>
      rw [hp] at hallows
      rcases hallows with h | h
      · cases h
        exact absurd hi (Bool.eq_false_iff.1 hn)
      · cases h
  | call hp =>
      -- no child is alive, unless the run before was interrupted
      rcases hp with hp | ⟨outcome, hp⟩
      · rw [hp] at hallows
        rcases hallows with h | h <;> cases h
      · have hne := hs rfl
        rw [hp] at hallows hne
        exact absurd hallows (Phase.not_allows_returned (fun h => hne (congrArg _ h)) i)
  | render hp | renderFault hp | start hp | startFault hp =>
      rw [hp] at hallows
      rcases hallows with h | h <;> cases h
  | close hp | drain hp =>
      rw [hp] at hallows
      exact hallows
  | drained hp =>
      rw [hp] at hallows
      rcases hallows with h | h
      · cases h
      · exact Or.inr ((Phase.isInterrupted_phaseAfterDrain _ _).trans h)

/-- A child is started only when none is alive. -/
theorem Tends.isAlive_eq_false (hr : Tends base r) {inputs : Inputs}
    (hp : r.phase = .starting inputs) {i : Nat} (hi : base ≤ i) : r.isAlive i = false := by
  refine Bool.eq_false_iff.2 fun hlive => ?_
  have hallows := hr.allows hi hlive
  rw [hp] at hallows
  rcases hallows with h | h <;> cases h

/-- **No step loses sight of a child,** unless the runner is run again after an interruption. -/
theorem Tends.transition (hr : Tends base r) (h : Transition r s r')
    (hs : s = .call → r.phase ≠ .returned .interrupted) : Tends base r' where
  hasExited := h.hasExited hr.hasExited
  allows {i} hi hlive := by
    rcases h.isAlive hlive with hlive | ⟨rfl, rfl⟩
    · exact h.allows hs hr.hasExited hlive (hr.allows hi hlive)
    · cases h
      exact Or.inl rfl
  unique {i j} hi hj hlivei hlivej := by
    -- a child that is started is the only one
    have hstart : ∀ {k}, base ≤ k → s = .start (.ok ()) → r.isAlive k = false := by
      rintro k hk rfl
      cases h with
      | start hp => exact hr.isAlive_eq_false hp hk
    rcases h.isAlive hlivei with hlivei | ⟨rfl, rfl⟩ <;> rcases h.isAlive hlivej with hlivej | hj'
    · exact hr.unique hi hj hlivei hlivej
    · exact absurd hlivei (Bool.eq_false_iff.1 (hstart hi hj'.1))
    · exact absurd hlivej (Bool.eq_false_iff.1 (hstart hj rfl))
    · exact hj'.2.symm

/-! ### Runs -/

theorem isAlive_eq_false_of_length_le {i : Nat} (h : r.children.length ≤ i) :
    r.isAlive i = false := by
  rw [isAlive, List.getElem?_eq_none h, Option.any_none]

theorem tends_of_isNew (h : IsNew r) : Tends 0 r where
  unique {i j} _ _ hi _ := by
    rw [isAlive_eq_false_of_length_le (by simp [h.children_eq])] at hi
    cases hi
  allows {i} _ hi := by
    rw [isAlive_eq_false_of_length_le (by simp [h.children_eq])] at hi
    cases hi
  hasExited hn := by
    rw [h.mailbox_eq] at hn
    cases hn

/-- The children of a run are those that come behind the ones that there were when it began. -/
theorem Reachable.tends (h : Reachable r) : Tends r.children.length r where
  unique hi _ hlive _ := by
    rw [isAlive_eq_false_of_length_le hi] at hlive
    cases hlive
  allows hi hlive := by
    rw [isAlive_eq_false_of_length_le hi] at hlive
    cases hlive
  hasExited := by
    refine h.invariant (P := fun r => ∀ {n}, .exited n ∈ r.mailbox → r.HasExited n) ?_ ?_
    · intro r hr
      exact (tends_of_isNew hr).hasExited
    · intro r s r' hr hs
      exact hs.hasExited hr

/-- **At most one child is alive,** of those from number `base` on; none is when another one is
started, and none when a run has returned that was not interrupted.  Then no child and no inputs are
recorded. -/
structure Tidy (base : Nat) (r : Runner) : Prop where
  alive_unique : ∀ i j, base ≤ i → base ≤ j → r.isAlive i = true → r.isAlive j = true → i = j
  start : ∀ r', r.step? (.start (.ok ())) = some r' → ∀ i, base ≤ i → r.isAlive i = false
  returned : ∀ outcome, r.phase = .returned outcome →
    r.isRunning = false ∧ r.recorded = none ∧
      (outcome ≠ .interrupted → ∀ i, base ≤ i → r.isAlive i = false)

theorem Tends.tidy (h : Tends base r) (hr : r.Reachable) : Tidy base r where
  alive_unique _ _ hi hj hlivei hlivej := h.unique hi hj hlivei hlivej
  start r' hr' i hi := by
    cases step?_eq_some_iff.1 hr' with
    | start hp => exact h.isAlive_eq_false hp hi
  returned outcome hp := by
    have hrunning : r.isRunning = false := by rw [hr.isRunning_eq, hp]; rfl
    refine ⟨hrunning, Option.isNone_iff_eq_none.1 (by simpa [isRunning] using hrunning), ?_⟩
    intro hne i hi
    refine Bool.eq_false_iff.2 fun hlive => ?_
    have hallows := h.allows hi hlive
    rw [hp] at hallows
    exact Phase.not_allows_returned hne i hallows

/-- Only an interruption interrupts. -/
theorem Transition.isInterrupted_eq_false (h : Transition r s r') (hs : s ≠ .interrupt)
    (hr : r.phase.isInterrupted = false) : r'.phase.isInterrupted = false := by
  cases h with
  | interrupt => exact absurd rfl hs
  | takeStale | exit | post | accept | ignore | tick => exact hr
  | takeExit =>
      simp only [endingOfExit]
      split <;> rfl
  | takeCancelled =>
      simp only [endingOfCancel]
      split
      · split <;> rfl
      · rfl
  | close hp | drain hp =>
      rw [hp] at hr
      exact hr
  | drained hp =>
      rw [hp] at hr
      exact (Phase.isInterrupted_phaseAfterDrain _ _).trans hr
  | _ => rfl

/-- Without interruptions, no child of any run is lost sight of. -/
theorem tends_of_steps? (hr : Tends 0 r) (hp : r.phase.isInterrupted = false)
    (hss : r.steps? ss = some r') (hno : .interrupt ∉ ss) :
    Tends 0 r' ∧ r'.phase.isInterrupted = false := by
  refine invariant_of_steps? (P := fun r => Tends 0 r ∧ r.phase.isInterrupted = false) ?_ hss
    ⟨hr, hp⟩
  rintro r s r' hs ⟨hr, hp⟩ h
  refine ⟨hr.transition h fun _ heq => ?_, h.isInterrupted_eq_false ?_ hp⟩
  · rw [heq] at hp
    cases hp
  · rintro rfl
    exact hno hs

/-- No child of a run is lost sight of, as long as the runner is not run again. -/
theorem tends_of_call (hr : r.Reachable) (hcall : r.step? .call = some r')
    {r₂ : Runner} (hno : .call ∉ ss) (hss : r'.steps? ss = some r₂) :
    Tends r.children.length r₂ := by
  have hrun : r'.children.length = r.children.length :=
    (transition_of_step? hcall).length_children Step.noConfusion
  have hr' : Tends r.children.length r' := by
    rw [← hrun]
    exact (hr.step hcall).tends
  refine invariant_of_steps? (fun r s r' hs hr h => hr.transition h ?_) hss hr'
  rintro rfl
  exact absurd hs hno

/-- **At most one child, and none left behind.**  In a life without interruptions this holds of all
children that a runner has ever had; in any life, of the children of each run. -/
theorem tidy_of_steps {r₀ : Runner} (h₀ : IsNew r₀) (hss : r₀.steps? ss = some r) :
    (.interrupt ∉ ss → Tidy 0 r ∧ r.phase ≠ .returned .interrupted) ∧
    ∀ r₁ ss' r₂, r.step? .call = some r₁ → .call ∉ ss' → r₁.steps? ss' = some r₂ →
      Tidy r.children.length r₂ := by
  have hr : r.Reachable := ⟨r₀, ss, h₀, hss⟩
  constructor
  · intro hno
    obtain ⟨htends, hp⟩ :=
      tends_of_steps? (tends_of_isNew h₀) (by rw [h₀.phase_eq]; rfl) hss hno
    refine ⟨htends.tidy hr, fun heq => ?_⟩
    rw [heq] at hp
    cases hp
  · intro r₁ ss' r₂ hcall hno hss'
    exact (tends_of_call hr hcall hno hss').tidy ((hr.step hcall).steps hss')

/-- A runner that has been run some number of times, with a child for each that exited with zero. -/
def finished (runs : Nat) : Runner where
  given := ⟨"sh".toList, [], []⟩
  grace := usualGrace
  children := List.replicate runs ⟨some 0, .delivered⟩
  phase := if runs = 0 then .idle else .returned .finished

/-- The steps of a run, behind its call, in which child `n` exits by itself. -/
def untilFinished (n : Nat) : List Step :=
  [.render (.ok (finished n).given), .start (.ok ()), .record, .exit n 0, .post n, .take, .close,
    .drain]

theorem tidy_of_steps_finished :
    IsNew (finished 0) ∧ (finished 0).steps? (.call :: untilFinished 0) = some (finished 1) ∧
    Tidy 0 (finished 1) ∧ Tidy 1 (finished 2) := by
  have hnew : IsNew (finished 0) := ⟨rfl, rfl, rfl, rfl⟩
  have hss : (finished 0).steps? (.call :: untilFinished 0) = some (finished 1) := by decide
  have hss' : Runner.steps? (untilFinished 1) { finished 1 with phase := .rendering } =
      some (finished 2) := by decide
  obtain ⟨hlife, hrun⟩ := tidy_of_steps hnew hss
  refine ⟨hnew, hss, (hlife ?_).1, hrun _ _ _ rfl ?_ hss'⟩
  · simp [untilFinished]
  · simp [untilFinished]

end Runner

end Command

end InlineSecrets
