/-
**A stop that was accepted is not lost.**

A request for a stop may be found in several places: by the runner as it waits, while it waits for a
child that was asked to terminate, in the mailbox when this is emptied, or not at all, when the run
ends in another way.  What these places have in common is that no other child will be started: that
is a property of the phase and the mailbox alone, an accepted stop brings it about, and no step of
the same run undoes it.

Main definitions:

* `InlineSecrets.Command.Runner.IsStopping` — **no other child will be started.**

Main results:

* `InlineSecrets.Command.Runner.IsStopping.transition` — this lasts until the runner is run again;
* `InlineSecrets.Command.Runner.isStopping_of_accepts` — an accepted stop brings it about;
* `InlineSecrets.Command.Runner.not_start_of_stop` — **after it, the run starts no child.**
-/

import InlineSecrets.Proofs.Command.Transition

set_option relaxedAutoImplicit false
set_option autoImplicit false

namespace InlineSecrets

namespace Command

namespace Runner

variable {r r' : Runner} {s : Step} {ss : List Step}

/-- **No other child will be started.**  As long as a restart is possible at all, a stop is in the
mailbox or has been seen; and the run is not in front of a start. -/
def IsStopping (r : Runner) : Prop :=
  match r.phase with
  | .idle | .rendering | .starting _ | .recording _ _ => False
  | .awaiting _ | .closing .restarting => .request .stop ∈ r.mailbox
  | .cancelling _ reason stopSeen _ =>
      reason = .stop ∨ stopSeen = true ∨ .request .stop ∈ r.mailbox
  | .draining .restarting stopPending => stopPending = true ∨ .request .stop ∈ r.mailbox
  | .reaping _ | .closing (.ended _) | .draining (.ended _) _ | .returned _ => True

/-- An accepted stop is in the mailbox, and a request is accepted only where that is enough. -/
theorem isStopping_of_accepts (hr : r.Reachable) (h : r.accepts = true) :
    IsStopping { r with mailbox := r.mailbox ++ [.request .stop] } := by
  have hrunning : r.phase.isSupervising = true := by
    rw [← hr.isRunning_eq]
    exact (Bool.and_eq_true_iff.1 h).1
  have hmem : .request .stop ∈ r.mailbox ++ [.request .stop] := by simp
  unfold IsStopping
  cases hp : r.phase with
  | idle | rendering | starting | recording | draining | returned =>
      rw [hp] at hrunning
      cases hrunning
  | awaiting => exact hmem
  | cancelling => exact Or.inr (Or.inr hmem)
  | reaping => trivial
  | closing ending =>
      cases ending with
      | ended => trivial
      | restarting => exact hmem

/-- More messages in the same phase do not matter. -/
theorem IsStopping.of_phase_eq (hr : r.IsStopping) (hp : r'.phase = r.phase)
    (hm : .request .stop ∈ r.mailbox → .request .stop ∈ r'.mailbox) : r'.IsStopping := by
  unfold IsStopping at hr ⊢
  rw [hp]
  cases h : r.phase with
  | idle | rendering | starting | recording =>
      rw [h] at hr
      exact hr.elim
  | reaping | returned => trivial
  | awaiting =>
      rw [h] at hr
      exact hm hr
  | cancelling =>
      rw [h] at hr
      exact hr.imp_right (Or.imp_right hm)
  | closing ending | draining ending =>
      rw [h] at hr
      cases ending with
      | ended => trivial
      | restarting => first | exact hm hr | exact hr.imp_right hm

/-- In front of the end of a run, only a restart is to be feared. -/
theorem isStopping_of_closing {ending : Ending} (hp : r.phase = .closing ending)
    (h : ending = .restarting → .request .stop ∈ r.mailbox) : r.IsStopping := by
  unfold IsStopping
  rw [hp]
  cases ending with
  | ended => trivial
  | restarting => exact h rfl

theorem endingOfExit_ne_restarting (status : Int) : r.endingOfExit status ≠ .restarting := by
  unfold endingOfExit
  split <;> exact Ending.noConfusion

/-- A child that was asked to terminate is followed by another one only when no stop was seen. -/
theorem not_stop_of_endingOfCancel {reason : Request} {stopSeen : Bool} {status : Int}
    (h : r.endingOfCancel reason stopSeen status = .restarting) :
    stopSeen = false ∧ reason ≠ .stop := by
  unfold endingOfCancel at h
  split at h
  · split at h
    · cases h
    · next hno => simpa using hno
  · cases h

/-- Nothing is started. -/
theorem IsStopping.ne_start (hr : r.IsStopping) (h : Transition r s r')
    (result : Except StartFault Unit) : s ≠ .start result := by
  rintro rfl
  unfold IsStopping at hr
  cases h with
  | start hp | startFault hp =>
      rw [hp] at hr
      exact hr

/-- **This lasts until the runner is run again.** -/
theorem IsStopping.transition (hr : r.IsStopping) (hs : s ≠ .call) (h : Transition r s r') :
    r'.IsStopping := by
  cases h with
  | exit | post | accept | ignore | tick =>
      refine hr.of_phase_eq rfl fun hm => ?_
      first | exact hm | exact List.mem_append_left _ hm
  | takeStale _ _ hbox =>
      refine hr.of_phase_eq rfl fun hm => ?_
      rw [hbox] at hm
      simpa using hm
  | takeExit => exact isStopping_of_closing rfl fun h => absurd h (endingOfExit_ne_restarting _)
  | reap | interrupt => exact isStopping_of_closing rfl fun h => by cases h
  | call => exact absurd rfl hs
  | render hp | renderFault hp | start hp | startFault hp | record hp =>
      unfold IsStopping at hr
      rw [hp] at hr
      exact hr.elim
  | takeRequest hp hbox =>
      -- the message taken is the stop, or the stop is behind it
      unfold IsStopping at hr ⊢
      rw [hp, hbox] at hr
      rcases List.mem_cons.1 hr with h | h
      · cases h
        exact Or.inl rfl
      · exact Or.inr (Or.inr h)
  | takeCancelled hp hbox =>
      unfold IsStopping at hr
      rw [hp, hbox] at hr
      refine isStopping_of_closing rfl fun h => ?_
      obtain ⟨hseen, hreason⟩ := not_stop_of_endingOfCancel h
      rcases hr with h | h | h
      · exact absurd h hreason
      · rw [hseen] at h
        cases h
      · simpa using h
  | takeFurther hp hbox =>
      unfold IsStopping at hr ⊢
      rw [hp, hbox] at hr
      rcases hr with h | h | h
      · exact Or.inl h
      · exact Or.inr (Or.inl (by rw [h, Bool.true_or]))
      · rcases List.mem_cons.1 h with h | h
        · cases h
          exact Or.inr (Or.inl (Bool.or_true _))
        · exact Or.inr (Or.inr h)
  | expire => trivial
  | @close ending hp =>
      unfold IsStopping at hr ⊢
      rw [hp] at hr
      cases ending with
      | ended => trivial
      | restarting => exact Or.inr hr
  | @drain ending stopPending m rest hp hbox =>
      unfold IsStopping at hr ⊢
      rw [hp, hbox] at hr
      cases ending with
      | ended => trivial
      | restarting =>
          rcases hr with h | h
          · exact Or.inl (by rw [h, Bool.true_or])
          · rcases List.mem_cons.1 h with rfl | h
            · exact Or.inl (Bool.or_true _)
            · exact Or.inr h
  | @drained ending stopPending hp hbox =>
      unfold IsStopping at hr ⊢
      rw [hp, hbox] at hr
      cases ending with
      | ended => trivial
      | restarting =>
          rcases hr with rfl | h
          · trivial
          · cases h

/-! ### Runs -/

/-- A run in which no other child will be started adds none. -/
theorem IsStopping.steps (hr : r.IsStopping) (hcall : .call ∉ ss) (hss : r.steps? ss = some r') :
    r'.children.length = r.children.length ∧ ∀ result, .start result ∉ ss := by
  induction ss generalizing r with
  | nil =>
      cases hss
      exact ⟨rfl, fun _ => List.not_mem_nil⟩
  | cons s ss ih =>
      obtain ⟨r₁, hs, hss⟩ := steps?_cons_eq_some_iff.1 hss
      obtain ⟨hs', hcall⟩ := not_or.1 (mt List.mem_cons.2 hcall)
      have hstart := hr.ne_start hs
      obtain ⟨hlen, hno⟩ := ih (hr.transition (Ne.symm hs') hs) hcall hss
      refine ⟨hlen.trans (hs.length_children (hstart _)), fun result h => ?_⟩
      rcases List.mem_cons.1 h with h | h
      · exact hstart result h.symm
      · exact hno result h

/-- **A stop that was accepted is not lost.**  Whatever a runner has done before, and whatever else
is asked of it before and after: when it accepts a stop, no child is started until it is run
again. -/
theorem not_start_of_stop (hr : r.Reachable) (hacc : r.accepts = true) (hcall : .call ∉ ss)
    (hss : r.steps? (.request .stop :: ss) = some r') :
    r'.children.length = r.children.length ∧ ∀ result, .start result ∉ ss := by
  obtain ⟨r₁, hs, hss⟩ := steps?_cons_eq_some_iff.1 hss
  cases hs with
  | accept => exact (isStopping_of_accepts hr hacc).steps hcall hss
  | ignore h =>
      rw [hacc] at h
      cases h

/-- A runner with a child, that was asked for a restart. -/
def askedToRestart : Runner where
  given := ⟨"sh".toList, [], []⟩
  grace := usualGrace
  mailbox := [.request .restart]
  recorded := some (0, ⟨"sh".toList, [], []⟩)
  children := [⟨none, .awaited⟩]
  phase := .awaiting 0

theorem reachable_askedToRestart : askedToRestart.Reachable :=
  ⟨⟨askedToRestart.given, usualGrace, 0, [], none, [], .idle⟩,
    [.call, .render (.ok askedToRestart.given), .start (.ok ()), .record, .request .restart],
    ⟨rfl, rfl, rfl, rfl⟩, by decide⟩

/-- The steps after a stop, up to the end of the run. -/
def untilStopped : List Step :=
  [.take, .exit 0 (-15), .post 0, .take, .take, .close, .drain]

theorem not_start_of_stop_askedToRestart :
    askedToRestart.Reachable ∧ askedToRestart.accepts = true ∧ .call ∉ untilStopped ∧
    ∃ r', askedToRestart.steps? (.request .stop :: untilStopped) = some r' ∧
      r'.children.length = 1 ∧ ∀ result, .start result ∉ untilStopped := by
  have hcall : .call ∉ untilStopped := by simp [untilStopped]
  have hsome : (askedToRestart.steps? (.request .stop :: untilStopped)).isSome = true := rfl
  obtain ⟨r', hr'⟩ := Option.isSome_iff_exists.1 hsome
  exact ⟨reachable_askedToRestart, rfl, hcall, r', hr',
    not_start_of_stop reachable_askedToRestart rfl hcall hr'⟩

end Runner

end Command

end InlineSecrets
