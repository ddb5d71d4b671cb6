/-
**Restarts coalesce.**

A child is followed by another one only when a restart was accepted while it was recorded, and then
by one only: the requests that were accepted for it are done away with before the next child is
recorded.  So a run starts at most one child more than there are children for which a restart was
accepted, however many requests that were.

Main definitions:

* `InlineSecrets.Command.Runner.asked` — the children for which restarts were accepted;
* `InlineSecrets.Command.Runner.Repeats` — another child will follow, if no stop comes in between;
* `InlineSecrets.Command.Runner.Accounted` — **every child that has a successor was asked to
  restart;**
* `InlineSecrets.Command.Runner.Isolated` — what children have to do with each other.

Main results:

* `InlineSecrets.Command.Runner.Accounted.steps` — a run accounts for its children;
* `InlineSecrets.Command.Runner.isolated_of_reachable` — **children are isolated from each other,
  and restarts coalesce.**
-/

import InlineSecrets.Proofs.Command.Isolation
import InlineSecrets.Proofs.Command.Stopping
import Mathlib.Data.List.Dedup
import Mathlib.Data.List.Perm.Subperm

set_option relaxedAutoImplicit false
set_option autoImplicit false

namespace InlineSecrets

namespace Command

namespace Runner

/-! ### Accepted restarts -/

/-- The child for which a restart is accepted in a step. -/
def asked? (r : Runner) : Step → Option Nat
  | .request .restart => if r.accepts then r.recorded.map Prod.fst else none
  | _ => none

/-- The children for which restarts are accepted in some steps, with one entry for each of these
requests. -/
def asked : Runner → List Step → List Nat
  | _, [] => []
  | r, s :: ss => (r.asked? s).toList ++ (r.step? s).elim [] fun r => asked r ss

/-- Another child will follow, if no stop comes in between; in front of a start, when there has been
a child from number `base` on. -/
def Repeats (base : Nat) (r : Runner) : Prop :=
  match r.phase with
  | .rendering | .starting _ => base < r.children.length
  | .awaiting _ => .request .restart ∈ r.mailbox
  | .cancelling _ reason _ _ => reason = .restart
  | .closing .restarting | .draining .restarting _ => True
  | .idle | .recording _ _ | .reaping _ | .closing (.ended _) | .draining (.ended _) _
    | .returned _ => False

variable {r r' : Runner} {s : Step} {ss : List Step} {base : Nat} {known : List Nat}

/-! ### What leads to another child -/

/-- Whether another child will follow depends on the phase and on whether a restart is in the
mailbox. -/
theorem Repeats.of_phase_eq (h : r'.Repeats base) (hp : r'.phase = r.phase)
    (hlen : r'.children.length = r.children.length)
    (hm : .request .restart ∈ r'.mailbox → .request .restart ∈ r.mailbox) : r.Repeats base := by
  unfold Repeats at h ⊢
  rw [hp] at h
  cases hr : r.phase with
  | rendering | starting =>
      rw [hr, hlen] at h
      exact h
  | awaiting =>
      rw [hr] at h
      exact hm h
  | cancelling | idle | recording | reaping | returned =>
      rw [hr] at h
      exact h
  | closing ending | draining ending =>
      rw [hr] at h
      cases ending <;> exact h

/-- Behind the end of a child, only a restart leads to another one. -/
theorem Repeats.ending_eq {ending : Ending} (h : r.Repeats base) (hp : r.phase = .closing ending) :
    ending = .restarting := by
  unfold Repeats at h
  rw [hp] at h
  cases ending with
  | ended => exact h.elim
  | restarting => rfl

/-- The number of the child for which a restart is accepted. -/
theorem Orderly.exists_asked? (hr : Orderly r) (hacc : r.accepts = true) :
    ∃ n, r.asked? (.request .restart) = some n ∧ n + 1 = r.children.length := by
  obtain ⟨⟨n, inputs⟩, hrec⟩ := Option.isSome_iff_exists.1 (Bool.and_eq_true_iff.1 hacc).1
  refine ⟨n, ?_, hr.recorded hrec⟩
  rw [asked?, if_pos hacc, hrec]
  rfl

/-- **Only an accepted restart leads to another child.** -/
theorem Transition.repeats (h : Transition r s r') (hr : Orderly r) (hcall : s ≠ .call)
    (hstart : s ≠ .start (.ok ())) (h' : r'.Repeats base) :
    r.Repeats base ∨ ∃ n, r.asked? s = some n ∧ n + 1 = r.children.length := by
  have hlen := h.length_children hstart
  cases h with
  | call => exact absurd rfl hcall
  | start => exact absurd rfl hstart
  | renderFault | startFault | expire | reap | interrupt => exact h'.elim
  | render hp =>
      refine Or.inl ?_
      unfold Repeats
      rw [hp]
      exact h'
  | record hp =>
      -- the mailbox of a child that is recorded holds no requests
      obtain ⟨k, -, hk⟩ := hr.mailbox_of_recording hp h'
      cases hk
  | takeExit => exact absurd (h'.ending_eq rfl) (endingOfExit_ne_restarting _)
  | takeStale hp hk hm =>
      refine Or.inl (h'.of_phase_eq rfl rfl fun hmem => ?_)
      rw [hm]
      exact List.mem_cons_of_mem _ hmem
  | takeRequest hp hm =>
      refine Or.inl ?_
      obtain rfl := h'
      unfold Repeats
      rw [hp, hm]
      exact List.mem_cons_self
  | @takeCancelled n q stopSeen deadline rest hp hm =>
      refine Or.inl ?_
      have hreason := (not_stop_of_endingOfCancel (h'.ending_eq rfl)).2
      unfold Repeats
      rw [hp]
      cases q with
      | stop => exact absurd rfl hreason
      | restart => rfl
  | takeFurther hp =>
      refine Or.inl ?_
      unfold Repeats
      rw [hp]
      exact h'
  | @close ending hp | @drain ending _ _ _ hp =>
      refine Or.inl ?_
      unfold Repeats
      rw [hp]
      cases ending <;> exact h'
  | @drained ending stopPending hp =>
      refine Or.inl ?_
      unfold Repeats
      rw [hp]
      cases ending with
      | ended => exact h'
      | restarting => trivial
  | exit | ignore | tick => exact Or.inl (h'.of_phase_eq rfl hlen fun hm => hm)
  | post =>
      refine Or.inl (h'.of_phase_eq rfl hlen fun hm => ?_)
      simpa using hm
  | @accept q hacc =>
      cases q with
      | stop =>
          refine Or.inl (h'.of_phase_eq rfl hlen fun hm => ?_)
          simpa using hm
      | restart => exact Or.inr (hr.exists_asked? hacc)

/-! ### Accounting for children -/

/-- **Every child that has a successor was asked to restart,** and so was the last one, if another
one will follow; all that from number `base` on. -/
structure Accounted (base : Nat) (known : List Nat) (r : Runner) : Prop where
  followed : ∀ k, base ≤ k → k + 1 < r.children.length → k ∈ known
  last : r.Repeats base → ∀ k, base ≤ k → k + 1 = r.children.length → k ∈ known

theorem Accounted.transition (hk : Accounted base known r) (hr : Orderly r) (hcall : s ≠ .call)
    (h : Transition r s r') : Accounted base (known ++ (r.asked? s).toList) r' := by
  by_cases hstart : s = .start (.ok ())
  · subst hstart
    cases h with
    | start hp =>
        constructor
        · -- the child that was the last one has a successor now
          intro k hbase hlt
          simp only [List.length_append, List.length_singleton] at hlt
          refine List.mem_append_left _ ?_
          rcases Nat.lt_or_ge (k + 1) r.children.length with hlt' | hge
          · exact hk.followed k hbase hlt'
          · refine hk.last ?_ k hbase (by omega)
            unfold Repeats
            rw [hp]
            show base < r.children.length
            omega
        · intro h'
          exact h'.elim
  · have hlen := h.length_children hstart
    constructor
    · intro k hbase hlt
      rw [hlen] at hlt
      exact List.mem_append_left _ (hk.followed k hbase hlt)
    · intro h' k hbase hlast
      rw [hlen] at hlast
      rcases h.repeats hr hcall hstart h' with hrep | ⟨n, hn, hlast'⟩
      · exact List.mem_append_left _ (hk.last hrep k hbase hlast)
      · obtain rfl : k = n := by omega
        rw [hn]
        simp

/-- **A run accounts for its children.** -/
theorem Accounted.steps (hk : Accounted base known r) (hr : r.Reachable) (hcall : .call ∉ ss)
    (hss : r.steps? ss = some r') : Accounted base (known ++ r.asked ss) r' := by
  induction ss generalizing r known with
  | nil =>
      cases hss
      simpa [asked] using hk
  | cons s ss ih =>
      obtain ⟨r₁, hs, hss⟩ := steps?_cons_eq_some_iff.1 hss
      obtain ⟨hne, hcall⟩ := not_or.1 (mt List.mem_cons.2 hcall)
      have hstep := step?_eq_some_iff.2 hs
      have hrest := ih (hk.transition hr.orderly (Ne.symm hne) hs) (hr.step hstep) hcall hss
      rw [asked, hstep, Option.elim_some, ← List.append_assoc]
      exact hrest

/-- When a run begins, there is nothing to account for. -/
theorem accounted_of_call (h : r.step? .call = some r') : Accounted r.children.length [] r' := by
  have htrans := transition_of_step? h
  have hlen : r'.children.length = r.children.length := htrans.length_children Step.noConfusion
  constructor
  · intro k hbase hlt
    omega
  · intro _ k hbase hlast
    omega

/-- Numbers in a row that are all in a list are no more than its different entries. -/
theorem le_length_dedup {l : List Nat} {a n : Nat} (h : ∀ k, a ≤ k → k + 1 < n → k ∈ l) :
    n ≤ a + 1 + l.dedup.length := by
  have hsub : List.range' a (n - 1 - a) ⊆ l.dedup := by
    intro k hk
    rw [List.mem_range'_1] at hk
    exact List.mem_dedup.2 (h k hk.1 (by omega))
  have hle := ((List.nodup_range' 1).subperm hsub).length_le
  rw [List.length_range'] at hle
  omega

/-! ### Children and each other -/

/-- **What children have to do with each other.** -/
structure Isolated (r : Runner) : Prop where
  /-- When a child is recorded, the mailbox holds no requests, and no notices but those of earlier
  children. -/
  mail : ∀ n inputs r', r.phase = .recording n inputs → r.step? .record = some r' →
    ∀ m ∈ r'.mailbox, ∃ k < n, m = .exited k
  /-- From then on, up to the next start, what the child sees of a run is a run of a runner that has
  never had another child, in steps that are its own or accepted requests; so the phase that the
  supervision ends in is determined by these. -/
  alone : ∀ n inputs r' ss r'', r.phase = .recording n inputs → r.step? .record = some r' →
    .start (.ok ()) ∉ ss → r'.steps? ss = some r'' →
    (solo r.given r.grace r.now inputs (r.children[n]?.bind Child.status)).steps? (r'.seen n ss) =
      some (r''.alone n)
  /-- The notice of another child ends nothing. -/
  stale : ∀ n inputs k rest r', r.recorded = some (n, inputs) → r.mailbox = .exited k :: rest →
    k ≠ n → r.step? .take = some r' → r'.phase = r.phase
  /-- A child of a run has a successor only when a restart was accepted for it, so there is at most
  one child more than children for which a restart was accepted, and than accepted restarts. -/
  coalesces : ∀ r' ss r'', r.step? .call = some r' → .call ∉ ss → r'.steps? ss = some r'' →
    (∀ k, r.children.length ≤ k → k + 1 < r''.children.length → k ∈ r'.asked ss) ∧
      r''.children.length ≤ r.children.length + 1 + (r'.asked ss).dedup.length ∧
      r''.children.length ≤ r.children.length + 1 + (r'.asked ss).length

/-- The notice of another child than the recorded one ends nothing. -/
theorem Transition.phase_of_stale (h : Transition r .take r') (hr : Orderly r) {n k : Nat}
    {inputs : Inputs} {rest : List Message} (hrec : r.recorded = some (n, inputs))
    (hm : r.mailbox = .exited k :: rest) (hk : k ≠ n) : r'.phase = r.phase := by
  -- the child that the phase is about is the recorded one
  have hchild : ∀ i, r.phase.child? = some i → i = n := by
    intro i hi
    have hi' := hr.child hi
    have hn' := hr.recorded hrec
    omega
  cases h with
  | takeStale => rfl
  | @takeExit i _ hp hm' | @takeCancelled i _ _ _ _ hp hm' =>
      rw [hm] at hm'
      cases hm'
      exact absurd (hchild k (by rw [hp]; rfl)) hk
  | takeRequest _ hm' | takeFurther _ hm' =>
      rw [hm] at hm'
      cases hm'

/-- **Children are isolated from each other, and restarts coalesce.** -/
theorem isolated_of_reachable (hr : r.Reachable) : Isolated r where
  mail n inputs r' hp h m hm := by
    refine hr.orderly.mailbox_of_recording hp ?_
    cases transition_of_step? h with
    | record => exact hm
  alone n inputs r' ss r'' hp h hstart hss := by
    have hrec := transition_of_step? h
    rw [← hr.orderly.alone_of_record hp hrec]
    refine steps?_alone (fun k hk => ?_) hss hstart
    cases hrec with
    | record hp' =>
        rw [hp] at hp'
        cases hp'
        cases hk
        rfl
  stale n inputs k rest r' hrec hm hk h :=
    (transition_of_step? h).phase_of_stale hr.orderly hrec hm hk
  coalesces r' ss r'' hcall hno hss := by
    have hacc := (accounted_of_call hcall).steps (hr.step hcall) hno hss
    rw [List.nil_append] at hacc
    have hle := le_length_dedup hacc.followed
    have hdedup := (List.dedup_sublist (r'.asked ss)).length_le
    exact ⟨hacc.followed, hle, by omega⟩

/-- A runner whose first run was interrupted, so that the notice of its child came in afterwards. -/
def interruptedOnce : Runner where
  given := ⟨"sh".toList, [], []⟩
  grace := usualGrace
  mailbox := [.exited 0]
  children := [⟨some 0, .delivered⟩]
  phase := .returned .interrupted

theorem reachable_interruptedOnce : interruptedOnce.Reachable :=
  ⟨⟨interruptedOnce.given, usualGrace, 0, [], none, [], .idle⟩,
    [.call, .render (.ok interruptedOnce.given), .start (.ok ()), .record, .interrupt, .close,
      .drain, .exit 0 0, .post 0],
    ⟨rfl, rfl, rfl, rfl⟩, by decide⟩

/-- This runner in its second run, in front of the recording of a child. -/
def recordingAgain : Runner :=
  { interruptedOnce with
    children := [⟨some 0, .delivered⟩, {}]
    phase := .recording 1 interruptedOnce.given }

/-- The steps from there on up to the end of the child: two restarts are accepted. -/
def untilRestarting : List Step :=
  [.request .restart, .request .restart, .take, .take, .exit 1 (-15), .post 1, .take, .take, .close,
    .drain]

/-- The steps of the second run up to the start of its second child. -/
def untilRestarted : List Step :=
  [.render (.ok interruptedOnce.given), .start (.ok ()), .record] ++ untilRestarting ++
    [.render (.ok interruptedOnce.given), .start (.ok ())]

theorem isolated_of_reachable_interruptedOnce :
    interruptedOnce.Reachable ∧ recordingAgain.Reachable ∧
    (∃ r₁ r₂, recordingAgain.step? .record = some r₁ ∧ r₁.steps? untilRestarting = some r₂ ∧
      (∀ m ∈ r₁.mailbox, ∃ k < 1, m = .exited k) ∧
      (solo recordingAgain.given recordingAgain.grace recordingAgain.now interruptedOnce.given
        none).steps? (r₁.seen 1 untilRestarting) = some (r₂.alone 1)) ∧
    ∃ r₁ r₂, interruptedOnce.step? .call = some r₁ ∧ r₁.steps? untilRestarted = some r₂ ∧
      r₁.asked untilRestarted = [1, 1] ∧ r₂.children.length ≤ 1 + 1 + [1, 1].dedup.length := by
  have hsteps : interruptedOnce.steps?
      [.call, .render (.ok interruptedOnce.given), .start (.ok ())] = some recordingAgain := by
    decide
  have hagain : recordingAgain.Reachable := reachable_interruptedOnce.steps hsteps
  refine ⟨reachable_interruptedOnce, hagain, ?_, ?_⟩
  · have hsome : ((recordingAgain.step? .record).bind (steps? untilRestarting)).isSome = true := rfl
    obtain ⟨r₂, hr₂⟩ := Option.isSome_iff_exists.1 hsome
    obtain ⟨r₁, hr₁, hss⟩ := Option.bind_eq_some_iff.1 hr₂
    have hisolated := isolated_of_reachable hagain
    refine ⟨r₁, r₂, hr₁, hss, hisolated.mail 1 _ r₁ rfl hr₁, ?_⟩
    have hno : .start (.ok ()) ∉ untilRestarting := by simp [untilRestarting]
    exact hisolated.alone 1 _ r₁ untilRestarting r₂ rfl hr₁ hno hss
  · have hsome :
        (steps? untilRestarted { interruptedOnce with phase := .rendering }).isSome = true :=
      rfl
    obtain ⟨r₂, hr₂⟩ := Option.isSome_iff_exists.1 hsome
    have hasked : asked { interruptedOnce with phase := .rendering } untilRestarted = [1, 1] := by
      decide +kernel
    have hcoalesces := (isolated_of_reachable reachable_interruptedOnce).coalesces _ _ r₂ rfl
      (by simp [untilRestarted, untilRestarting]) hr₂
    rw [hasked] at hcoalesces
    exact ⟨_, r₂, rfl, hr₂, hasked, hcoalesces.2.1⟩

end Runner

end Command

end InlineSecrets
