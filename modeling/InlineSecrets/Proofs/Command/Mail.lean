/-
**The mail of a child.**

When a child is recorded as running, nobody has been able to ask for anything since the mailbox was
emptied behind the child before it.  What has come in since are notices of exits, and these are of
earlier children: the new one is not watched yet.

Main definitions:

* `InlineSecrets.Command.Phase.isReceiving` — the phases in which requests can be in the mailbox;
* `InlineSecrets.Command.Runner.Orderly` — **what is in the mailbox, and which child it is about.**

Main results:

* `InlineSecrets.Command.Runner.Reachable.orderly` — this holds of every state that a runner comes
  to;
* `InlineSecrets.Command.Runner.Orderly.mailbox_of_recording` — **a child starts without requests,
  and without a notice of its own.**
-/

import InlineSecrets.Proofs.Command.Children

set_option relaxedAutoImplicit false
set_option autoImplicit false

namespace InlineSecrets

namespace Command

/-- The phases in which requests can be in the mailbox: a child is recorded, or the mailbox is being
emptied. -/
def Phase.isReceiving : Phase → Bool
  | awaiting _ | cancelling .. | reaping _ | closing _ | draining .. => true
  | _ => false

theorem Phase.isReceiving_of_isSupervising {p : Phase} (h : p.isSupervising = true) :
    p.isReceiving = true := by
  cases p with
  | awaiting | cancelling | reaping | closing => rfl
  | idle | rendering | starting | recording | draining | returned => cases h

namespace Runner

variable {r r' : Runner} {s : Step} {ss : List Step}

/-! ### Notices of exits -/

/-- The notice of a child's exit. -/
def noticeOf? (r : Runner) (n : Nat) : Option Notice := r.children[n]?.map Child.notice

theorem noticeOf?_eq_some_iff {n : Nat} {notice : Notice} :
    r.noticeOf? n = some notice ↔ ∃ c, r.children[n]? = some c ∧ c.notice = notice :=
  Option.map_eq_some_iff

theorem noticeOf?_eq_none {n : Nat} (h : r.children.length ≤ n) : r.noticeOf? n = none := by
  rw [noticeOf?, List.getElem?_eq_none h, Option.map_none]

theorem lt_length_of_noticeOf? {n : Nat} {notice : Notice} (h : r.noticeOf? n = some notice) :
    n < r.children.length := by
  refine Nat.lt_of_not_le fun hle => ?_
  rw [noticeOf?_eq_none hle] at h
  cases h

/-- A change of one child leaves the notices of the others as they are. -/
theorem noticeOf?_of_modify {f : Child → Child} {k n : Nat}
    (hr : r'.children = r.children.modify k f) (hk : k ≠ n ∨ ∀ c, (f c).notice = c.notice) :
    r'.noticeOf? n = r.noticeOf? n := by
  rw [noticeOf?, noticeOf?, hr, List.getElem?_modify]
  cases r.children[n]? with
  | none => rfl
  | some c =>
      by_cases hkn : k = n
      · rcases hk with hk | hk
        · exact absurd hkn hk
        · simp [hkn, hk]
      · simp [hkn]

/-- The notice of a child changes when the child is recorded and when the notice is put into the
mailbox, and not otherwise. -/
theorem Transition.noticeOf? (h : Transition r s r') {n : Nat} (hn : n < r.children.length)
    (hrecord : ∀ inputs, r.phase = .recording n inputs → s ≠ .record) (hpost : s ≠ .post n) :
    r'.noticeOf? n = r.noticeOf? n := by
  cases h with
  | start => rw [Runner.noticeOf?, Runner.noticeOf?, List.getElem?_append_left hn]
  | @record k inputs hp =>
      refine noticeOf?_of_modify rfl (Or.inl ?_)
      rintro rfl
      exact hrecord inputs hp rfl
  | exit => exact noticeOf?_of_modify rfl (Or.inr fun _ => rfl)
  | @post k =>
      refine noticeOf?_of_modify rfl (Or.inl ?_)
      rintro rfl
      exact hpost rfl
  | _ => rfl

/-! ### What every step preserves -/

/-- **What is in the mailbox, and which child it is about.**  The child that a phase is about is the
last one, and so is the one that is recorded; nobody watches a child that is not recorded yet; the
notices in the mailbox have been put there; and there are requests only where they can be. -/
structure Orderly (r : Runner) : Prop where
  child : ∀ {n}, r.phase.child? = some n → n + 1 = r.children.length
  recorded : ∀ {n inputs}, r.recorded = some (n, inputs) → n + 1 = r.children.length
  unwatched : ∀ {n inputs}, r.phase = .recording n inputs → r.noticeOf? n = some .unwatched
  delivered : ∀ {k}, .exited k ∈ r.mailbox → r.noticeOf? k = some .delivered
  request : r.phase.isReceiving = false → ∀ q, .request q ∉ r.mailbox

/-- A phase stays with its child, and a child that is started is the last one. -/
theorem Transition.child (h : Transition r s r')
    (hr : ∀ {n}, r.phase.child? = some n → n + 1 = r.children.length) {n : Nat}
    (hn : r'.phase.child? = some n) : n + 1 = r'.children.length := by
  cases h with
  | start =>
      cases hn
      simp
  | record hp =>
      rw [hp] at hr
      exact (hr hn).trans (List.length_modify _ _ _).symm
  | takeRequest hp | takeFurther hp | expire hp =>
      rw [hp] at hr
      exact hr hn
  | exit | post => exact (hr hn).trans (List.length_modify _ _ _).symm
  | takeStale | accept | ignore | tick => exact hr hn
  | @drained ending stopPending =>
      cases ending with
      | ended => cases hn
      | restarting => cases stopPending <;> cases hn
  | call | render | renderFault | startFault | takeExit | takeCancelled | reap | close | drain
    | interrupt => cases hn

/-- No child is started while one is recorded. -/
theorem Transition.recorded (h : Transition r s r') (hrun : r.isRunning = r.phase.isSupervising)
    (hchild : ∀ {n}, r.phase.child? = some n → n + 1 = r.children.length)
    (hr : ∀ {n inputs}, r.recorded = some (n, inputs) → n + 1 = r.children.length)
    {n : Nat} {inputs : Inputs} (hn : r'.recorded = some (n, inputs)) :
    n + 1 = r'.children.length := by
  cases h with
  | start hp =>
      have hsome : r.isRunning = true := Option.isSome_iff_exists.2 ⟨_, hn⟩
      rw [hrun, hp] at hsome
      cases hsome
  | record hp =>
      cases hn
      rw [hp] at hchild
      exact (hchild rfl).trans (List.length_modify _ _ _).symm
  | exit | post => exact (hr hn).trans (List.length_modify _ _ _).symm
  | close => cases hn
  | _ => exact hr hn

/-- Nobody watches a child that was just started. -/
theorem Transition.unwatched (h : Transition r s r')
    (hchild : ∀ {n}, r.phase.child? = some n → n + 1 = r.children.length)
    (hr : ∀ {n inputs}, r.phase = .recording n inputs → r.noticeOf? n = some .unwatched)
    {n : Nat} {inputs : Inputs} (hp' : r'.phase = .recording n inputs) :
    r'.noticeOf? n = some .unwatched := by
  -- the child was there, and the step was neither its recording nor the posting of its notice
  have hsame : r.phase = .recording n inputs → s ≠ .record → r'.noticeOf? n = some .unwatched := by
    intro hp hs
    have hlast : n + 1 = r.children.length := hchild (by rw [hp]; rfl)
    rw [h.noticeOf? (by omega) (fun _ _ => hs), hr hp]
    rintro rfl
    cases h with
    | post hc _ hnotice =>
        have hunwatched := hr hp
        rw [Runner.noticeOf?, hc, Option.map_some, hnotice] at hunwatched
        cases hunwatched
  cases h with
  | start =>
      cases hp'
      simp [Runner.noticeOf?]
  | takeStale | exit | post | accept | ignore | tick => exact hsame hp' Step.noConfusion
  | @drained ending stopPending =>
      cases ending with
      | ended => cases hp'
      | restarting => cases stopPending <;> cases hp'
  | call | render | renderFault | startFault | record | takeExit | takeRequest | takeCancelled
    | takeFurther | expire | reap | close | drain | interrupt => cases hp'

/-- A notice in the mailbox has been put there, and stays delivered. -/
theorem Transition.delivered (h : Transition r s r')
    (hunwatched : ∀ {n inputs}, r.phase = .recording n inputs → r.noticeOf? n = some .unwatched)
    (hr : ∀ {k}, .exited k ∈ r.mailbox → r.noticeOf? k = some .delivered) {k : Nat}
    (hk : .exited k ∈ r'.mailbox) : r'.noticeOf? k = some .delivered := by
  have hposted : s = .post k → r'.noticeOf? k = some .delivered := by
    rintro rfl
    cases h with
    | post hc => simp [Runner.noticeOf?, hc]
  by_cases hs : s = .post k
  · exact hposted hs
  · rcases h.mem_mailbox hk with hm | ⟨q, hq, -⟩ | ⟨i, hi, hs', -⟩
    · rw [h.noticeOf? (lt_length_of_noticeOf? (hr hm)) ?_ hs, hr hm]
      intro inputs hp _
      have hnotice := (hr hm).symm.trans (hunwatched hp)
      cases hnotice
    · cases hq
    · cases hi
      exact absurd hs' hs

/-- Requests get into the mailbox only where they can be, and it is empty when this is over. -/
theorem Transition.not_mem_request (h : Transition r s r')
    (hrun : r.isRunning = r.phase.isSupervising)
    (hr : r.phase.isReceiving = false → ∀ q, .request q ∉ r.mailbox)
    (hp' : r'.phase.isReceiving = false) (q : Request) : .request q ∉ r'.mailbox := by
  intro hm
  cases h with
  | call hp =>
      rcases hp with hp | ⟨outcome, hp⟩ <;> rw [hp] at hr <;> exact hr rfl q hm
  | render hp | renderFault hp | start hp | startFault hp =>
      rw [hp] at hr
      exact hr rfl q hm
  | takeStale hp _ hbox =>
      rcases hp with hp | ⟨_, _, _, hp⟩ <;> rw [hp] at hp' <;> cases hp'
  | post =>
      refine hr hp' q ((List.mem_append.1 hm).resolve_right ?_)
      simp
  | exit | ignore | tick => exact hr hp' q hm
  | accept hacc =>
      have hsupervising := (Bool.and_eq_true_iff.1 hacc).1
      rw [hrun] at hsupervising
      rw [Phase.isReceiving_of_isSupervising hsupervising] at hp'
      cases hp'
  | drained _ hbox =>
      rw [hbox] at hm
      cases hm
  | record | takeExit | takeRequest | takeCancelled | takeFurther | expire | reap | close | drain
    | interrupt => cases hp'

/-- **The mailbox stays in order.** -/
theorem Orderly.transition (hr : Orderly r) (hrun : r.isRunning = r.phase.isSupervising)
    (h : Transition r s r') : Orderly r' where
  child := h.child hr.child
  recorded := h.recorded hrun hr.child hr.recorded
  unwatched := h.unwatched hr.child hr.unwatched
  delivered := h.delivered hr.unwatched hr.delivered
  request := h.not_mem_request hrun hr.request

theorem orderly_of_isNew (h : IsNew r) : Orderly r where
  child hn := by
    rw [h.phase_eq] at hn
    cases hn
  recorded hn := by
    rw [h.recorded_eq] at hn
    cases hn
  unwatched hp := by
    rw [h.phase_eq] at hp
    cases hp
  delivered hk := by
    rw [h.mailbox_eq] at hk
    cases hk
  request _ q hq := by
    rw [h.mailbox_eq] at hq
    cases hq

theorem Reachable.orderly (h : Reachable r) : Orderly r := by
  have hboth : r.Reachable ∧ Orderly r := by
    refine h.invariant (P := fun r => r.Reachable ∧ Orderly r) ?_ ?_
    · intro r hr
      exact ⟨⟨r, [], hr, rfl⟩, orderly_of_isNew hr⟩
    · rintro r s r' ⟨hreach, hr⟩ hs
      exact ⟨hreach.step (step?_eq_some_iff.2 hs), hr.transition hreach.isRunning_eq hs⟩
  exact hboth.2

/-! ### When a child is recorded -/

/-- **A child starts without requests, and without a notice of its own:** what is in the mailbox
are notices of the exits of earlier children. -/
theorem Orderly.mailbox_of_recording (hr : Orderly r) {n : Nat} {inputs : Inputs}
    (hp : r.phase = .recording n inputs) {m : Message} (hm : m ∈ r.mailbox) :
    ∃ k < n, m = .exited k := by
  cases m with
  | request q => exact absurd hm (hr.request (by rw [hp]; rfl) q)
  | exited k =>
      have hdelivered := hr.delivered hm
      have hlt := lt_length_of_noticeOf? hdelivered
      have hlast : n + 1 = r.children.length := hr.child (by rw [hp]; rfl)
      have hne : k ≠ n := by
        rintro rfl
        rw [hr.unwatched hp] at hdelivered
        cases hdelivered
      exact ⟨k, by omega, rfl⟩

end Runner

end Command

end InlineSecrets
