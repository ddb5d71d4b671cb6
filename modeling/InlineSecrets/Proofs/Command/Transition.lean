/-
**The transitions of a runner.**

What a step does is said here once, case by case: when it can happen, and what it changes.  All that
is proved about runs of a command goes through these cases, and through a few facts about what a
step can do to the mailbox and to the children.

Main definitions:

* `InlineSecrets.Command.Runner.Transition` — **the cases of a step**;
* `InlineSecrets.Command.Runner.Reachable` — the states that a new runner can come to;
* `InlineSecrets.Command.Phase.isSupervising` — the phases in which a child is recorded.

Main results:

* `InlineSecrets.Command.Runner.step?_eq_some_iff` — these are the cases;
* `InlineSecrets.Command.Runner.invariant_of_steps?` — **what every step preserves, every run
  preserves**;
* `InlineSecrets.Command.Runner.Reachable.isRunning_eq` — a child is recorded in the phases in which
  it is supervised, and in no others.
-/

import InlineSecrets.Command.Runner

set_option relaxedAutoImplicit false
set_option autoImplicit false

namespace InlineSecrets

namespace Command

namespace Runner

/-! ### The cases of a step -/

/-- **What a step does.** -/
inductive Transition (r : Runner) : Step → Runner → Prop where
  | call (h : r.phase = .idle ∨ ∃ outcome, r.phase = .returned outcome) :
      Transition r .call { r with phase := .rendering }
  | render {inputs : Inputs} (h : r.phase = .rendering) :
      Transition r (.render (.ok inputs)) { r with phase := .starting inputs }
  | renderFault {f : RenderFault} (h : r.phase = .rendering) :
      Transition r (.render (.error f)) { r with phase := .returned (.failed (.rendering f)) }
  | start {inputs : Inputs} (h : r.phase = .starting inputs) :
      Transition r (.start (.ok ())) { r with
        children := r.children ++ [{}]
        phase := .recording r.children.length inputs }
  | startFault {inputs : Inputs} {f : StartFault} (h : r.phase = .starting inputs) :
      Transition r (.start (.error f))
        { r with phase := .returned (.failed (.starting inputs.name f)) }
  | record {n : Nat} {inputs : Inputs} (h : r.phase = .recording n inputs) :
      Transition r .record { r with
        recorded := some (n, inputs)
        children := r.children.modify n fun c => { c with notice := .awaited }
        phase := .awaiting n }
  | takeExit {n : Nat} {rest : List Message} (h : r.phase = .awaiting n)
      (hm : r.mailbox = .exited n :: rest) :
      Transition r .take { r with
        mailbox := rest
        phase := .closing (r.endingOfExit (r.statusOf n)) }
  /-- The notice of the exit of an earlier child. -/
  | takeStale {n k : Nat} {rest : List Message}
      (h : r.phase = .awaiting n ∨ ∃ q seen deadline, r.phase = .cancelling n q seen deadline)
      (hk : k ≠ n) (hm : r.mailbox = .exited k :: rest) :
      Transition r .take { r with mailbox := rest }
  | takeRequest {n : Nat} {q : Request} {rest : List Message} (h : r.phase = .awaiting n)
      (hm : r.mailbox = .request q :: rest) :
      Transition r .take { r with
        mailbox := rest
        phase := .cancelling n q false (after r.now r.grace) }
  | takeCancelled {n : Nat} {q : Request} {seen : Bool} {deadline : Option Rat}
      {rest : List Message} (h : r.phase = .cancelling n q seen deadline)
      (hm : r.mailbox = .exited n :: rest) :
      Transition r .take { r with
        mailbox := rest
        phase := .closing (r.endingOfCancel q seen (r.statusOf n)) }
  | takeFurther {n : Nat} {q q' : Request} {seen : Bool} {deadline : Option Rat}
      {rest : List Message} (h : r.phase = .cancelling n q seen deadline)
      (hm : r.mailbox = .request q' :: rest) :
      Transition r .take { r with
        mailbox := rest
        phase := .cancelling n q (seen || q' = .stop) deadline }
  | expire {n : Nat} {q : Request} {seen : Bool} {deadline : Rat}
      (h : r.phase = .cancelling n q seen (some deadline)) (hm : r.mailbox = [])
      (hnow : deadline ≤ r.now) :
      Transition r .expire { r with phase := .reaping n }
  | reap {n : Nat} (h : r.phase = .reaping n) (hn : r.isAlive n = false) :
      Transition r .reap { r with
        phase := .closing (.ended (.failed (.overdue r.given.name r.grace))) }
  | close {ending : Ending} (h : r.phase = .closing ending) :
      Transition r .close { r with recorded := none, phase := .draining ending false }
  | drain {ending : Ending} {stopPending : Bool} {m : Message} {rest : List Message}
      (h : r.phase = .draining ending stopPending) (hm : r.mailbox = m :: rest) :
      Transition r .drain { r with
        mailbox := rest
        phase := .draining ending (stopPending || m = .request .stop) }
  | drained {ending : Ending} {stopPending : Bool} (h : r.phase = .draining ending stopPending)
      (hm : r.mailbox = []) :
      Transition r .drain { r with phase := phaseAfterDrain ending stopPending }
  | exit {n : Nat} {status : Int} (hn : r.isAlive n = true) :
      Transition r (.exit n status) { r with
        children := r.children.modify n fun c => { c with status := some status } }
  | post {n : Nat} {c : Child} (hc : r.children[n]? = some c) (hn : c.isAlive = false)
      (hnotice : c.notice = .awaited) (hroom : r.mailbox.length < mailboxCapacity) :
      Transition r (.post n) { r with
        mailbox := r.mailbox ++ [.exited n]
        children := r.children.modify n fun c => { c with notice := .delivered } }
  | accept {q : Request} (h : r.accepts = true) :
      Transition r (.request q) { r with mailbox := r.mailbox ++ [.request q] }
  /-- A request that is not accepted. -/
  | ignore {q : Request} (h : r.accepts = false) : Transition r (.request q) r
  | interrupt (h : (∃ n, r.phase = .awaiting n) ∨
        (∃ n q seen deadline, r.phase = .cancelling n q seen deadline) ∨
        ∃ n, r.phase = .reaping n) :
      Transition r .interrupt { r with phase := .closing (.ended .interrupted) }
  | tick {time : Rat} (h : r.now ≤ time) : Transition r (.tick time) { r with now := time }

variable {r r' : Runner} {s : Step} {ss : List Step}

/-- The cases of taking a message. -/
theorem transition_take {m : Message} {rest : List Message} {phase : Phase}
    (hm : r.mailbox = m :: rest) (h : r.phaseAfter? m = some phase) :
    Transition r .take { r with mailbox := rest, phase } := by
  unfold phaseAfter? at h
  split at h
  · next n k hp =>
      by_cases hk : k = n
      · subst hk
        rw [if_pos rfl] at h
        cases h
        exact .takeExit hp hm
      · rw [if_neg hk] at h
        cases h
        rw [← hp]
        exact .takeStale (Or.inl hp) hk hm
  · next n q hp =>
      cases h
      exact .takeRequest hp hm
  · next n q seen deadline k hp =>
      by_cases hk : k = n
      · subst hk
        rw [if_pos rfl] at h
        cases h
        exact .takeCancelled hp hm
      · rw [if_neg hk] at h
        cases h
        rw [← hp]
        exact .takeStale (Or.inr ⟨q, seen, deadline, hp⟩) hk hm
  · next n q seen deadline q' hp =>
      cases h
      exact .takeFurther hp hm
  · cases h

theorem transition_of_step? (h : r.step? s = some r') : Transition r s r' := by
  cases s with
  | call =>
      simp only [step?] at h
      split at h
      · next hp => cases h; exact .call (Or.inl hp)
      · next outcome hp => cases h; exact .call (Or.inr ⟨outcome, hp⟩)
      · cases h
  | render result =>
      simp only [step?] at h
      split at h
      · next inputs hp => cases h; exact .render hp
      · next f hp => cases h; exact .renderFault hp
      · cases h
  | start result =>
      simp only [step?] at h
      split at h
      · next inputs hp => cases h; exact .start hp
      · next inputs f hp => cases h; exact .startFault hp
      · cases h
  | record =>
      simp only [step?] at h
      split at h
      · next n inputs hp => cases h; exact .record hp
      · cases h
  | take =>
      simp only [step?] at h
      split at h
      · cases h
      · next m rest hm =>
          obtain ⟨phase, hphase, rfl⟩ := Option.map_eq_some_iff.1 h
          exact transition_take hm hphase
  | expire =>
      simp only [step?] at h
      split at h
      · next n q seen deadline hp =>
          obtain ⟨⟨hm, hnow⟩, h⟩ := Option.ite_none_right_eq_some.1 h
          cases h
          exact .expire hp hm hnow
      · cases h
  | reap =>
      simp only [step?] at h
      split at h
      · next n hp =>
          obtain ⟨hn, h⟩ := Option.ite_none_left_eq_some.1 h
          cases h
          exact .reap hp (Bool.eq_false_iff.2 hn)
      · cases h
  | close =>
      simp only [step?] at h
      split at h
      · next ending hp => cases h; exact .close hp
      · cases h
  | drain =>
      simp only [step?] at h
      split at h
      · next ending stopPending m rest hp hm => cases h; exact .drain hp hm
      · next ending stopPending hp hm => cases h; exact .drained hp hm
      · cases h
  | exit n status =>
      obtain ⟨hn, h⟩ := Option.ite_none_right_eq_some.1 h
      cases h
      exact .exit hn
  | post n =>
      obtain ⟨⟨hn, hroom⟩, h⟩ := Option.ite_none_right_eq_some.1 h
      cases h
      obtain ⟨c, hc, hn⟩ := (Option.any_eq_true _ _).1 hn
      obtain ⟨hn, hnotice⟩ := Bool.and_eq_true_iff.1 hn
      exact .post hc (by simpa using hn) (eq_of_beq hnotice) hroom
  | request q =>
      cases h
      unfold requested
      split
      · next hacc => exact .accept hacc
      · next hacc => exact .ignore (Bool.eq_false_iff.2 hacc)
  | interrupt =>
      simp only [step?] at h
      split at h
      · next n hp => cases h; exact .interrupt (Or.inl ⟨n, hp⟩)
      · next n q seen deadline hp =>
          cases h
          exact .interrupt (Or.inr (Or.inl ⟨n, q, seen, deadline, hp⟩))
      · next n hp => cases h; exact .interrupt (Or.inr (Or.inr ⟨n, hp⟩))
      · cases h
  | tick time =>
      obtain ⟨hnow, h⟩ := Option.ite_none_right_eq_some.1 h
      cases h
      exact .tick hnow

/-- **These are the cases of a step.** -/
theorem step?_eq_some_iff : r.step? s = some r' ↔ Transition r s r' := by
  refine ⟨transition_of_step?, fun h => ?_⟩
  cases h with
  | call h => rcases h with h | ⟨outcome, h⟩ <;> simp [step?, h]
  | takeStale h hk hm =>
      rcases h with h | ⟨q, seen, deadline, h⟩ <;> simp [step?, phaseAfter?, h, hk, hm]
  | takeExit h hm | takeRequest h hm | takeCancelled h hm | takeFurther h hm =>
      simp [step?, phaseAfter?, h, hm]
  | accept h | ignore h => simp [step?, requested, h]
  | interrupt h =>
      rcases h with ⟨n, h⟩ | ⟨n, q, seen, deadline, h⟩ | ⟨n, h⟩ <;> simp [step?, h]
  | _ => simp [step?, *]

/-! ### The children -/

theorem isAlive_eq_true_iff {i : Nat} :
    r.isAlive i = true ↔ ∃ c, r.children[i]? = some c ∧ c.isAlive = true :=
  Option.any_eq_true _ _

/-- A change of a child that brings no exited child back to life. -/
theorem isAlive_of_modify {f : Child → Child} {n i : Nat}
    (hr : r'.children = r.children.modify n f)
    (hf : ∀ c, (f c).isAlive = true → c.isAlive = true) (h : r'.isAlive i = true) :
    r.isAlive i = true := by
  obtain ⟨c', hc', hlive⟩ := isAlive_eq_true_iff.1 h
  rw [hr, List.getElem?_modify] at hc'
  obtain ⟨c, hc, rfl⟩ := Option.map_eq_some_iff.1 hc'
  refine isAlive_eq_true_iff.2 ⟨c, hc, ?_⟩
  split at hlive
  · exact hf c hlive
  · exact hlive

/-- **A living child was alive before, or is the one that was started.** -/
theorem Transition.isAlive (h : Transition r s r') {i : Nat} (hi : r'.isAlive i = true) :
    r.isAlive i = true ∨ s = .start (.ok ()) ∧ i = r.children.length := by
  cases h with
  | start =>
      obtain ⟨c, hc, hlive⟩ := isAlive_eq_true_iff.1 hi
      rcases Nat.lt_trichotomy i r.children.length with hlt | rfl | hlt
      · rw [List.getElem?_append_left hlt] at hc
        exact Or.inl (isAlive_eq_true_iff.2 ⟨c, hc, hlive⟩)
      · exact Or.inr ⟨rfl, rfl⟩
      · rw [List.getElem?_eq_none (by simpa using Nat.succ_le_of_lt hlt)] at hc
        cases hc
  | record | post =>
      refine Or.inl (isAlive_of_modify rfl ?_ hi)
      exact fun _ hc => hc
  | exit =>
      refine Or.inl (isAlive_of_modify rfl ?_ hi)
      intro c hc
      cases hc
  | _ => exact Or.inl hi

/-- Only a start adds a child. -/
theorem Transition.length_children (h : Transition r s r') (hs : s ≠ .start (.ok ())) :
    r'.children.length = r.children.length := by
  cases h with
  | start => exact absurd rfl hs
  | record | exit | post => exact List.length_modify _ _ _
  | _ => rfl

theorem Transition.length_children_le (h : Transition r s r') :
    r.children.length ≤ r'.children.length := by
  cases h with
  | start => simp
  | record | exit | post => exact Nat.le_of_eq (List.length_modify _ _ _).symm
  | _ => exact Nat.le_refl _

/-- A child was started and has exited. -/
def HasExited (r : Runner) (n : Nat) : Prop := n < r.children.length ∧ r.isAlive n = false

/-- A child that has exited does not come back. -/
theorem HasExited.transition {n : Nat} (hn : r.HasExited n) (h : Transition r s r') :
    r'.HasExited n := by
  refine ⟨Nat.lt_of_lt_of_le hn.1 h.length_children_le, Bool.eq_false_iff.2 fun hlive => ?_⟩
  rcases h.isAlive hlive with hlive | ⟨-, rfl⟩
  · exact Bool.false_ne_true (hn.2.symm.trans hlive)
  · exact Nat.lt_irrefl _ hn.1

/-! ### The mailbox -/

/-- A message in the mailbox was there before, or is a request that was accepted, or the notice of a
child that has exited. -/
theorem Transition.mem_mailbox (h : Transition r s r') {m : Message} (hm : m ∈ r'.mailbox) :
    m ∈ r.mailbox ∨ (∃ q, m = .request q ∧ s = .request q ∧ r.accepts = true) ∨
      ∃ n, m = .exited n ∧ s = .post n ∧ r.HasExited n := by
  cases h with
  | takeExit _ hbox | takeStale _ _ hbox | takeRequest _ hbox | takeCancelled _ hbox
    | takeFurther _ hbox | drain _ hbox =>
      rw [hbox]
      exact Or.inl (List.mem_cons_of_mem _ hm)
  | @accept q hacc =>
      rcases List.mem_append.1 hm with hm | hm
      · exact Or.inl hm
      · exact Or.inr (Or.inl ⟨q, List.mem_singleton.1 hm, rfl, hacc⟩)
  | @post n c hc hn =>
      rcases List.mem_append.1 hm with hm | hm
      · exact Or.inl hm
      · obtain ⟨hlt, -⟩ := List.getElem?_eq_some_iff.1 hc
        refine Or.inr (Or.inr ⟨n, List.mem_singleton.1 hm, rfl, hlt, ?_⟩)
        rw [Runner.isAlive, hc, Option.any_some, hn]
  | _ => exact Or.inl hm

/-! ### Runs -/

/-- A runner that has not been run. -/
structure IsNew (r : Runner) : Prop where
  mailbox_eq : r.mailbox = []
  recorded_eq : r.recorded = none
  children_eq : r.children = []
  phase_eq : r.phase = .idle

/-- The states that a new runner can come to. -/
def Reachable (r : Runner) : Prop := ∃ r₀ ss, IsNew r₀ ∧ r₀.steps? ss = some r

theorem steps?_cons_eq_some_iff :
    r.steps? (s :: ss) = some r' ↔ ∃ r₁, Transition r s r₁ ∧ r₁.steps? ss = some r' := by
  rw [steps?, Option.bind_eq_some_iff]
  simp only [step?_eq_some_iff]

theorem steps?_append (ss₁ ss₂ : List Step) (r : Runner) :
    r.steps? (ss₁ ++ ss₂) = (r.steps? ss₁).bind (·.steps? ss₂) := by
  induction ss₁ generalizing r with
  | nil => rfl
  | cons s ss₁ ih =>
      rw [List.cons_append, steps?, steps?, Option.bind_assoc]
      exact congrArg _ (funext fun r => ih r)

theorem Reachable.steps (h : Reachable r) (hss : r.steps? ss = some r') : Reachable r' := by
  obtain ⟨r₀, ss₀, h₀, hss₀⟩ := h
  refine ⟨r₀, ss₀ ++ ss, h₀, ?_⟩
  rw [steps?_append, hss₀, Option.bind_some, hss]

theorem Reachable.step (h : Reachable r) (hs : r.step? s = some r') : Reachable r' := by
  have hss : r.steps? [s] = some r' := by
    rw [steps?, hs]
    rfl
  exact h.steps hss

/-- **What every step preserves, every run preserves.** -/
theorem invariant_of_steps? {P : Runner → Prop}
    (hstep : ∀ r s r', s ∈ ss → P r → Transition r s r' → P r') (h : r.steps? ss = some r')
    (hr : P r) : P r' := by
  induction ss generalizing r with
  | nil =>
      cases h
      exact hr
  | cons s ss ih =>
      obtain ⟨r₁, hs, hss⟩ := steps?_cons_eq_some_iff.1 h
      refine ih (fun r s r' hs => hstep r s r' (List.mem_cons_of_mem _ hs)) hss ?_
      exact hstep r s r₁ List.mem_cons_self hr hs

/-- What holds of new runners and is preserved by every step holds of every reachable one. -/
theorem Reachable.invariant {P : Runner → Prop} (hnew : ∀ r, IsNew r → P r)
    (hstep : ∀ r s r', P r → Transition r s r' → P r') (h : Reachable r) : P r := by
  obtain ⟨r₀, ss, h₀, hss⟩ := h
  exact invariant_of_steps? (fun r s r' _ => hstep r s r') hss (hnew r₀ h₀)

end Runner

/-! ### The recorded child -/

/-- The phases in which a child is supervised. -/
def Phase.isSupervising : Phase → Bool
  | awaiting _ | cancelling .. | reaping _ | closing _ => true
  | _ => false

namespace Runner

variable {r : Runner}

/-- **A child is recorded in the phases in which it is supervised,** and in no others. -/
theorem Reachable.isRunning_eq (h : Reachable r) : r.isRunning = r.phase.isSupervising := by
  refine h.invariant (P := fun r => r.isRunning = r.phase.isSupervising) ?_ ?_
  · intro r hr
    rw [isRunning, hr.recorded_eq, hr.phase_eq]
    rfl
  · intro r s r' hr h
    unfold isRunning at hr ⊢
    cases h with
    | call h => rcases h with h | ⟨outcome, h⟩ <;> rw [hr, h] <;> rfl
    | interrupt h =>
        rcases h with ⟨n, h⟩ | ⟨n, q, seen, deadline, h⟩ | ⟨n, h⟩ <;> rw [hr, h] <;> rfl
    | @drained ending stopPending h =>
        rw [hr, h]
        cases ending <;> cases stopPending <;> rfl
    | record | close => rfl
    | takeStale | exit | post | accept | ignore | tick => exact hr
    | render h | renderFault h | start h | startFault h | takeExit h | takeRequest h
      | takeCancelled h | takeFurther h | expire h | reap h | drain h => rw [hr, h]; rfl

end Runner

end Command

end InlineSecrets
