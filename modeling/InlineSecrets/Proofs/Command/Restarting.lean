/-
**One change, one restart.**

A poller that finds other inputs than those of the running child asks for a restart, and it goes on
asking as long as that child is recorded: while the child is on its way out, every further look
finds the same change.  All these requests are done away with before the next child is recorded, and
that one is started with the inputs as they are by then.  So when the inputs change once, there are
two children at most, and when they do not change there is one.

Nothing is assumed about times: how long children take to go, how often the poller looks, and how
many looks there are while a child is being cancelled, is left to the moves of the run.

Main definitions:

* `InlineSecrets.Command.Move.Sees` — moves in a time in which the inputs do not change;
* `InlineSecrets.Command.Runner.RunsOn` — all inputs that a runner is at work with are the same;
* `InlineSecrets.Command.Runner.Settled` — **no other child will follow;**
* `InlineSecrets.Command.Runner.Overtaken` — a second child would be started with other inputs.

Main results:

* `InlineSecrets.Command.Supervision.settled_of_moves?` — while the inputs do not change, a settled
  runner stays settled;
* `InlineSecrets.Command.Supervision.length_children_le_of_change` — **one change of the inputs
  causes at most one restart.**
-/

import InlineSecrets.Proofs.Command.Coalescing
import InlineSecrets.Proofs.Command.Drift

set_option relaxedAutoImplicit false
set_option autoImplicit false

namespace InlineSecrets

namespace Command

/-! ### Times without a change -/

/-- A move in a time in which the inputs are `inputs`, whenever they can be rendered, and in which
nobody but the poller asks for a restart. -/
def Move.Sees (inputs : Inputs) : Move → Prop
  | .run (.render (.ok i)) | .poll (.ok i) => i = inputs
  | .run (.request .restart) => False
  | _ => True

/-- The inputs of a child that is about to be started or recorded. -/
def Phase.inputs? : Phase → Option Inputs
  | starting inputs | recording _ inputs => some inputs
  | _ => none

theorem Inputs.differsFrom_self (a : Inputs) : a.differsFrom a = false := by
  simp [Inputs.differsFrom]

namespace Runner

variable {r r' : Runner} {s : Step} {a b : Inputs} {base : Nat}

/-! ### One kind of inputs -/

/-- All inputs that a runner is at work with are the same: those of the child that is about to be
started or recorded, and those of the child that is recorded. -/
structure RunsOn (a : Inputs) (r : Runner) : Prop where
  phase : ∀ i, r.phase.inputs? = some i → i = a
  recorded : ∀ n i, r.recorded = some (n, i) → i = a

/-- The inputs of a child come from rendering. -/
theorem Transition.inputs? (h : Transition r s r') {i : Inputs} (hi : r'.phase.inputs? = some i) :
    r.phase.inputs? = some i ∨ s = .render (.ok i) := by
  cases h with
  | render =>
      cases hi
      exact Or.inr rfl
  | start hp =>
      rw [hp]
      exact Or.inl hi
  | takeStale | exit | post | accept | ignore | tick => exact Or.inl hi
  | @drained ending stopPending => cases ending <;> cases stopPending <;> cases hi
  | call | renderFault | startFault | record | takeExit | takeRequest | takeCancelled | takeFurther
    | expire | reap | close | drain | interrupt => cases hi

theorem RunsOn.transition (hr : r.RunsOn a) (h : Transition r s r')
    (hs : ∀ i, s = .render (.ok i) → i = a) : r'.RunsOn a where
  phase i hi := by
    rcases h.inputs? hi with hi | hi
    · exact hr.phase i hi
    · exact hs i hi
  recorded n i hi := by
    cases h with
    | record hp =>
        cases hi
        exact hr.phase i (by rw [hp]; rfl)
    | close => cases hi
    | _ => exact hr.recorded n i hi

/-- **Inputs that have not changed are not found to have changed.** -/
theorem RunsOn.hasChanged_ne (hr : r.RunsOn a) {rendered : Except RenderFault Inputs}
    (h : ∀ i, rendered = .ok i → i = a) : r.hasChanged rendered ≠ .ok true := by
  unfold hasChanged
  split
  · exact fun h => by cases h
  · next n i hrecorded =>
      obtain rfl := hr.recorded n i hrecorded
      cases rendered with
      | error f => exact fun h => by cases h
      | ok j =>
          obtain rfl := h j rfl
          simp [Functor.map, Except.map, Inputs.differsFrom_self]

/-! ### Settled runners -/

/-- **No other child will follow** the first one from number `base` on, and all inputs are the
same. -/
structure Settled (a : Inputs) (base : Nat) (r : Runner) : Prop where
  runsOn : r.RunsOn a
  last : ¬r.Repeats base
  length_le : r.children.length ≤ base + 1

theorem Settled.transition (hr : r.Settled a base) (horderly : Orderly r) (h : Transition r s r')
    (hcall : s ≠ .call) (hrestart : s ≠ .request .restart)
    (hs : ∀ i, s = .render (.ok i) → i = a) : r'.Settled a base := by
  have hruns := hr.runsOn.transition h hs
  by_cases hstart : s = .start (.ok ())
  · subst hstart
    cases h with
    | start hp =>
        -- the child that is started is the first one
        have hfirst : ¬base < r.children.length := by
          have hlast := hr.last
          unfold Repeats at hlast
          rwa [hp] at hlast
        refine ⟨hruns, fun h => h, ?_⟩
        simp only [List.length_append, List.length_singleton]
        omega
  · refine ⟨hruns, fun h' => ?_, ?_⟩
    · rcases h.repeats horderly hcall hstart h' with h' | ⟨n, hn, -⟩
      · exact hr.last h'
      · unfold asked? at hn
        split at hn
        · exact hrestart rfl
        · cases hn
    · rw [h.length_children hstart]
      exact hr.length_le

/-! ### Runners whose inputs were overtaken -/

/-- There is at most one child from number `base` on, and a second one would be started with the
inputs `b`. -/
structure Overtaken (b : Inputs) (base : Nat) (r : Runner) : Prop where
  length_le : r.children.length ≤ base + 1
  next : ∀ i, r.phase = .starting i → base < r.children.length → i = b

theorem Settled.overtaken (hr : r.Settled a base) (b : Inputs) : r.Overtaken b base where
  length_le := hr.length_le
  next i hp hlt := by
    have hlast := hr.last
    unfold Repeats at hlast
    rw [hp] at hlast
    exact absurd hlt hlast

/-- A request adds no child, and does not start one. -/
theorem Overtaken.requested (hr : r.Overtaken b base) (q : Request) :
    (r.requested q).Overtaken b base := by
  unfold Runner.requested
  split
  · exact ⟨hr.length_le, hr.next⟩
  · exact hr

/-- **The second child is the last one.** -/
theorem Overtaken.transition (hr : r.Overtaken b base) (hrun : r.isRunning = r.phase.isSupervising)
    (h : Transition r s r') (hs : ∀ i, s = .render (.ok i) → i = b) :
    r'.Overtaken b base ∨ r'.Settled b (base + 1) := by
  by_cases hstart : s = .start (.ok ())
  · subst hstart
    cases h with
    | @start i hp =>
        rcases Nat.lt_or_ge base r.children.length with hlt | hge
        · obtain rfl := hr.next i hp hlt
          have hnone : r.recorded = none := by
            rw [hp] at hrun
            exact Option.not_isSome_iff_eq_none.1 (Bool.eq_false_iff.1 hrun)
          refine Or.inr ⟨⟨fun j hj => ?_, fun n j hj => ?_⟩, fun h => h, ?_⟩
          · cases hj
            rfl
          · rw [hnone] at hj
            cases hj
          · simpa using hr.length_le
        · refine Or.inl ⟨?_, fun j hj => ?_⟩
          · simpa using hge
          · cases hj
  · have hlen := h.length_children hstart
    refine Or.inl ⟨hlen ▸ hr.length_le, fun i hp hlt => ?_⟩
    rw [hlen] at hlt
    cases h with
    | render =>
        cases hp
        exact hs i rfl
    | takeStale | exit | post | accept | ignore | tick => exact hr.next i hp hlt
    | start => exact absurd rfl hstart
    | @drained ending stopPending => cases ending <;> cases stopPending <;> cases hp
    | call | renderFault | startFault | record | takeExit | takeRequest | takeCancelled
      | takeFurther | expire | reap | close | drain | interrupt => cases hp

end Runner

namespace Supervision

variable {s s' s₀ : Supervision} {m : Move} {ms ms₁ ms₂ : List Move} {a b : Inputs}
  {base first : Nat}

/-! ### Runs in a time without a change -/

theorem afterPoll_runner_of_ne {changed : Except RenderFault Bool} (h : changed ≠ .ok true) :
    (s.afterPoll changed).runner = s.runner := by
  unfold afterPoll
  split
  · rfl
  · rfl
  · exact absurd rfl h

/-- **While the inputs do not change, a settled runner stays settled.** -/
theorem settled_of_effect (hs : s.Attended first) (hr : s.runner.Settled a base)
    (hm : m.Sees a) (h : Effect s m s') : s'.runner.Settled a base := by
  have horderly := hs.reachable.orderly
  have hstop : (s.runner.requested .stop).Settled a base :=
    hr.transition horderly (Runner.step?_eq_some_iff.1 rfl : Runner.Transition _ (.request .stop) _)
      Step.noConfusion (by simp) (fun _ => Step.noConfusion)
  cases h with
  | @run step r' hcall _ h =>
      refine hr.transition horderly h hcall ?_ ?_
      · rintro rfl
        exact hm
      · rintro i rfl
        exact hm
  | @poll wake rendered =>
      have hsame : ∀ i, rendered = .ok i → i = a := by
        rintro i rfl
        exact hm
      rw [afterPoll_runner_of_ne (hr.runsOn.hasChanged_ne hsame)]
      exact hr
  | receiveDrift | interruptWait => exact hstop
  | interruptRun habsent => exact absurd habsent hs.caller_ne
  | quit | report | receiveEnd | join | abandon | interruptJoin => exact hr

theorem settled_of_moves? (hs : s.Attended first) (hr : s.runner.Settled a base)
    (hsees : ∀ m ∈ ms, m.Sees a) (hms : s.moves? ms = some s') :
    s'.Attended first ∧ s'.runner.Settled a base := by
  refine invariant_of_mem_moves? (P := fun s => s.Attended first ∧ s.runner.Settled a base) ?_ hms
    ⟨hs, hr⟩
  rintro s m s' hm ⟨hs, hr⟩ h
  exact ⟨hs.effect h, settled_of_effect hs hr (hsees m hm) h⟩

/-! ### Runs behind a change -/

/-- Behind a change, the second child is the last one. -/
theorem overtaken_of_effect (hs : s.Attended first) (hr : s.runner.Overtaken b base)
    (hm : m.Sees b) (h : Effect s m s') :
    s'.runner.Overtaken b base ∨ s'.runner.Settled b (base + 1) := by
  cases h with
  | @run step r' _ _ h =>
      refine hr.transition hs.reachable.isRunning_eq h ?_
      rintro i rfl
      exact hm
  | @poll wake rendered =>
      refine Or.inl ?_
      rcases (s.afterPoll_cases (s.runner.hasChanged rendered)).1 with heq | ⟨q, heq⟩
      · rw [heq]
        exact hr
      · rw [heq]
        exact hr.requested q
  | receiveDrift | interruptWait => exact Or.inl (hr.requested .stop)
  | interruptRun habsent => exact absurd habsent hs.caller_ne
  | quit | report | receiveEnd | join | abandon | interruptJoin => exact Or.inl hr

theorem length_children_le_of_overtaken (hs : s.Attended first) (hr : s.runner.Overtaken b base)
    (hsees : ∀ m ∈ ms, m.Sees b) (hms : s.moves? ms = some s') :
    s'.runner.children.length ≤ base + 2 := by
  have hboth : s'.Attended first ∧
      (s'.runner.Overtaken b base ∨ s'.runner.Settled b (base + 1)) := by
    refine invariant_of_mem_moves? (P := fun s => s.Attended first ∧
      (s.runner.Overtaken b base ∨ s.runner.Settled b (base + 1))) ?_ hms ⟨hs, Or.inl hr⟩
    rintro s m s' hm ⟨hs, hr | hr⟩ h
    · exact ⟨hs.effect h, overtaken_of_effect hs hr (hsees m hm) h⟩
    · exact ⟨hs.effect h, Or.inr (settled_of_effect hs hr (hsees m hm) h)⟩
  rcases hboth.2 with hr | hr
  · exact Nat.le_succ_of_le hr.length_le
  · exact hr.length_le

/-! ### Runs with one change -/

/-- A supervised run begins settled, whatever its inputs are. -/
theorem settled_of_supervised? {r : Runner} {polling : Polling} (hr : r.Reachable)
    (h₀ : supervised? r polling = some s₀) (a : Inputs) :
    s₀.Attended r.children.length ∧ s₀.runner.Settled a r.children.length := by
  have hnil : s₀.moves? [] = some s₀ := rfl
  have hs : s₀.Attended r.children.length := attended_of_moves? hr h₀ hnil
  obtain ⟨r₀, hcall, rfl⟩ := Option.map_eq_some_iff.1 h₀
  refine ⟨hs, ?_⟩
  have hnone : r₀.recorded = none := by
    have hrun := hs.reachable.isRunning_eq
    cases Runner.step?_eq_some_iff.1 hcall
    exact Option.not_isSome_iff_eq_none.1 (Bool.eq_false_iff.1 hrun)
  cases Runner.step?_eq_some_iff.1 hcall with
  | call =>
      refine ⟨⟨fun i hi => ?_, fun n i hi => ?_⟩, Nat.lt_irrefl _, Nat.le_succ _⟩
      · cases hi
      · rw [hnone] at hi
        cases hi

/-- **One change of the inputs causes at most one restart.**  In every supervised run in which the
inputs are rendered as `a` up to some move and as `b` from then on, and nobody but the poller asks
for restarts, at most two children are started; and when `a` and `b` are the same, at most one,
which is never asked to make way for another one. -/
theorem length_children_le_of_change {r : Runner} {polling : Polling} (hr : r.Reachable)
    (h₀ : supervised? r polling = some s₀) (h₁ : ∀ m ∈ ms₁, m.Sees a)
    (h₂ : ∀ m ∈ ms₂, m.Sees b) (hms : s₀.moves? (ms₁ ++ ms₂) = some s) :
    s.runner.children.length ≤ r.children.length + 2 ∧
      (a = b → s.runner.children.length ≤ r.children.length + 1 ∧
        ¬s.runner.Repeats r.children.length) := by
  obtain ⟨hs₀, hsettled⟩ := settled_of_supervised? hr h₀ a
  constructor
  · rw [moves?_append] at hms
    obtain ⟨s₁, hms₁, hms₂⟩ := Option.bind_eq_some_iff.1 hms
    obtain ⟨hs₁, hsettled₁⟩ := settled_of_moves? hs₀ hsettled h₁ hms₁
    exact length_children_le_of_overtaken hs₁ (hsettled₁.overtaken b) h₂ hms₂
  · rintro rfl
    have hall : ∀ m ∈ ms₁ ++ ms₂, m.Sees a := fun m hm =>
      (List.mem_append.1 hm).elim (h₁ m) (h₂ m)
    have hr' := (settled_of_moves? hs₀ hsettled hall hms).2
    exact ⟨hr'.length_le, hr'.last⟩

/-- A child is started, and the first look finds no change. -/
def untilChanged : List Move :=
  [.run (.render (.ok (revealed 'v'))), .run (.start (.ok ())), .run .record, .run (.tick 1),
    .poll (.ok (revealed 'v'))]

/-- The inputs change, and are looked at three times before the child is gone; the next one is left
alone. -/
def behindChange : List Move :=
  [.run (.tick 2), .poll (.ok (revealed 'w')), .run .take, .run (.tick 3),
    .poll (.ok (revealed 'w')), .run (.tick 4), .poll (.ok (revealed 'w')), .run .take,
    .run (.exit 0 (-15)), .run (.post 0), .run .take, .run .take, .run .close, .run .drain,
    .run (.render (.ok (revealed 'w'))), .run (.start (.ok ())), .run .record, .run (.tick 5),
    .poll (.ok (revealed 'w'))]

theorem length_children_le_of_change_cancelling :
    (newRunner usualGrace).Reachable ∧ (∀ m ∈ untilChanged, m.Sees (revealed 'v')) ∧
    (∀ m ∈ behindChange, m.Sees (revealed 'w')) ∧
    ∃ s₀ s, supervised? (newRunner usualGrace) ⟨.restart, .ofInt 1⟩ = some s₀ ∧
      s₀.moves? (untilChanged ++ behindChange) = some s ∧ s.runner.children.length = 2 ∧
      s.runner.mailbox = [] ∧ s.runner.children.length ≤ 0 + 2 := by
  have hreachable := reachable_newRunner usualGrace
  have h₁ : ∀ m ∈ untilChanged, m.Sees (revealed 'v') := by simp [untilChanged, Move.Sees]
  have h₂ : ∀ m ∈ behindChange, m.Sees (revealed 'w') := by simp [behindChange, Move.Sees]
  have hsome : (((supervised? (newRunner usualGrace) ⟨.restart, .ofInt 1⟩).bind
      (moves? (untilChanged ++ behindChange))).any fun s =>
        s.runner.children.length = 2 ∧ s.runner.mailbox = []) = true := by decide +kernel
  obtain ⟨s₀, s, h₀, hms, hs⟩ := exists_run_of_any hsome
  obtain ⟨hlen, hmailbox⟩ := of_decide_eq_true hs
  exact ⟨hreachable, h₁, h₂, s₀, s, h₀, hms, hlen, hmailbox,
    (length_children_le_of_change hreachable h₀ h₁ h₂ hms).1⟩

end Supervision

end Command

end InlineSecrets
