/-
**The moves of a supervised runner.**

What a move does is said here once, case by case, as it is for the steps of a runner alone.  To the
runner a move is a step or nothing: it is not run a second time, and an interruption goes to the
caller, so only a wait that cannot be made breaks the run off.  Whatever the steps of one run
preserve, the moves of a supervised run preserve, too.

Main definitions:

* `InlineSecrets.Command.Supervision.Effect` — **the cases of a move**;
* `InlineSecrets.Command.Supervision.Attended` — a supervised run, none of whose children is lost
  sight of.

Main results:

* `InlineSecrets.Command.Supervision.move?_eq_some_iff` — these are the cases;
* `InlineSecrets.Command.Supervision.Effect.transition` — what a move is to the runner;
* `InlineSecrets.Command.Supervision.attended_of_moves?` — **every supervised run is attended.**
-/

import InlineSecrets.Command.Supervision
import InlineSecrets.Proofs.Command.Children

set_option relaxedAutoImplicit false
set_option autoImplicit false

namespace InlineSecrets

namespace Command

namespace Supervision

/-! ### The cases of a move -/

/-- **What a move does.** -/
inductive Effect (s : Supervision) : Move → Supervision → Prop where
  | run {step : Step} {r' : Runner} (hcall : step ≠ .call)
      (hrefused : step = .interrupt → s.runner.refusesWait = true)
      (h : Runner.Transition s.runner step r') : Effect s (.run step) { s with runner := r' }
  | poll {wake : Option Rat} {rendered : Except RenderFault Inputs} (h : s.poller = .asleep wake)
      (hdue : s.isDue wake = true) (hdone : s.done = false) :
      Effect s (.poll rendered) (s.afterPoll (s.runner.hasChanged rendered))
  | quit {wake : Option Rat} (h : s.poller = .asleep wake) (hdone : s.done = true) :
      Effect s .quit { s with poller := .ended }
  | report {outcome : Outcome} (hc : s.caller ≠ .absent) (h : s.runner.phase = .returned outcome)
      (hr : s.reported = false) :
      Effect s .report { s with reports := s.reports ++ [.ran outcome], reported := true }
  | receiveEnd {outcome : Outcome} {rest : List Report} (hc : s.caller = .waiting)
      (h : s.reports = .ran outcome :: rest) :
      Effect s .receive { s with
        caller := .returned (.ran outcome), reports := rest, done := true }
  | receiveDrift {f : RenderFault} {rest : List Report} (hc : s.caller = .waiting)
      (h : s.reports = .drifted f :: rest) :
      Effect s .receive { s.beginJoin (.drifted f) with reports := rest, done := true }
  | join {deadline : Option Rat} {report : Report} (hc : s.caller = .joining deadline report)
      (hr : s.reported = true) :
      Effect s .join { s with caller := .returned report, done := true }
  | abandon {deadline : Option Rat} {report : Report} (hc : s.caller = .joining deadline report)
      (hdue : s.isDue deadline = true) :
      Effect s .abandon { s with caller := .returned report, done := true }
  /-- A runner that is run directly is interrupted itself. -/
  | interruptRun {r' : Runner} (hc : s.caller = .absent)
      (h : Runner.Transition s.runner .interrupt r') : Effect s .interrupt { s with runner := r' }
  | interruptWait (hc : s.caller = .waiting) :
      Effect s .interrupt (s.beginJoin (.ran .interrupted))
  | interruptJoin {deadline : Option Rat} {report : Report}
      (hc : s.caller = .joining deadline report) :
      Effect s .interrupt { s with caller := .returned (.ran .interrupted), done := true }

variable {s s' : Supervision} {m : Move} {ms : List Move}

theorem effect_of_move? (h : s.move? m = some s') : Effect s m s' := by
  cases m with
  | run step =>
      cases step with
      | call => cases h
      | interrupt =>
          simp only [move?] at h
          obtain ⟨hrefused, h⟩ := Option.ite_none_right_eq_some.1 h
          obtain ⟨r', hr', rfl⟩ := Option.map_eq_some_iff.1 h
          exact .run Step.noConfusion (fun _ => hrefused) (Runner.step?_eq_some_iff.1 hr')
      | _ =>
          simp only [move?] at h
          obtain ⟨r', hr', rfl⟩ := Option.map_eq_some_iff.1 h
          exact .run Step.noConfusion nofun (Runner.step?_eq_some_iff.1 hr')
  | poll rendered =>
      simp only [move?] at h
      split at h
      · next wake hp =>
          obtain ⟨hdue, h⟩ := Option.ite_none_right_eq_some.1 h
          obtain ⟨hdue, hdone⟩ := Bool.and_eq_true_iff.1 hdue
          cases h
          exact .poll hp hdue (by simpa using hdone)
      · cases h
  | quit =>
      simp only [move?] at h
      split at h
      · next wake hp =>
          obtain ⟨hdone, h⟩ := Option.ite_none_right_eq_some.1 h
          cases h
          exact .quit hp hdone
      · cases h
  | report =>
      simp only [move?] at h
      split at h
      · cases h
      · next outcome hp hc =>
          obtain ⟨hr, h⟩ := Option.ite_none_left_eq_some.1 h
          cases h
          exact .report hc hp (Bool.eq_false_iff.2 hr)
      · cases h
  | receive =>
      simp only [move?] at h
      split at h
      · next outcome rest hc hreports => cases h; exact .receiveEnd hc hreports
      · next f rest hc hreports => cases h; exact .receiveDrift hc hreports
      · cases h
  | join =>
      simp only [move?] at h
      split at h
      · next deadline report hc =>
          obtain ⟨hr, h⟩ := Option.ite_none_right_eq_some.1 h
          cases h
          exact .join hc hr
      · cases h
  | abandon =>
      simp only [move?] at h
      split at h
      · next deadline report hc =>
          obtain ⟨hdue, h⟩ := Option.ite_none_right_eq_some.1 h
          cases h
          exact .abandon hc hdue
      · cases h
  | interrupt =>
      simp only [move?, interrupted?] at h
      split at h
      · next hc =>
          obtain ⟨r', hr', rfl⟩ := Option.map_eq_some_iff.1 h
          exact .interruptRun hc (Runner.step?_eq_some_iff.1 hr')
      · next hc => cases h; exact .interruptWait hc
      · next deadline report hc => cases h; exact .interruptJoin hc
      · cases h

/-- **These are the cases of a move.** -/
theorem move?_eq_some_iff : s.move? m = some s' ↔ Effect s m s' := by
  refine ⟨effect_of_move?, fun h => ?_⟩
  cases h with
  | @run step r' hcall hrefused h =>
      have hstep := Runner.step?_eq_some_iff.2 h
      cases step with
      | call => exact absurd rfl hcall
      | interrupt => simp only [move?, hrefused rfl, if_true, hstep, Option.map_some]
      | _ => simp only [move?, hstep, Option.map_some]
  | report hc h hr =>
      cases hcaller : s.caller with
      | absent => exact absurd hcaller hc
      | _ => simp [move?, hcaller, h, hr]
  | interruptRun hc h => simp [move?, interrupted?, hc, Runner.step?_eq_some_iff.2 h]
  | interruptWait hc | interruptJoin hc => simp [move?, interrupted?, hc]
  | poll h hdue hdone => simp [move?, h, hdue, hdone]
  | quit h hdone => simp [move?, h, hdone]
  | receiveEnd hc h | receiveDrift hc h | join hc h | abandon hc h => simp [move?, hc, h]

theorem moves?_cons_eq_some_iff :
    s.moves? (m :: ms) = some s' ↔ ∃ s₁, Effect s m s₁ ∧ s₁.moves? ms = some s' := by
  rw [moves?, Option.bind_eq_some_iff]
  simp only [move?_eq_some_iff]

theorem moves?_append (ms₁ ms₂ : List Move) (s : Supervision) :
    s.moves? (ms₁ ++ ms₂) = (s.moves? ms₁).bind (·.moves? ms₂) := by
  induction ms₁ generalizing s with
  | nil => rfl
  | cons m ms₁ ih =>
      rw [List.cons_append, moves?, moves?, Option.bind_assoc]
      exact congrArg _ (funext fun s => ih s)

/-- **What every move of a run preserves, the run preserves.** -/
theorem invariant_of_mem_moves? {P : Supervision → Prop}
    (hmove : ∀ s m s', m ∈ ms → P s → Effect s m s' → P s') (h : s.moves? ms = some s')
    (hs : P s) : P s' := by
  induction ms generalizing s with
  | nil =>
      cases h
      exact hs
  | cons m ms ih =>
      obtain ⟨s₁, hm, hms⟩ := moves?_cons_eq_some_iff.1 h
      refine ih (fun s m s' hm => hmove s m s' (List.mem_cons_of_mem _ hm)) hms ?_
      exact hmove s m s₁ List.mem_cons_self hs hm

/-- What every move preserves, every run preserves. -/
theorem invariant_of_moves? {P : Supervision → Prop}
    (hmove : ∀ s m s', P s → Effect s m s' → P s') (h : s.moves? ms = some s') (hs : P s) :
    P s' := invariant_of_mem_moves? (fun s m s' _ => hmove s m s') h hs

/-! ### What a move is to the runner -/

/-- The poller may ask for something, and leaves the caller alone. -/
theorem afterPoll_cases (s : Supervision) (changed : Except RenderFault Bool) :
    ((s.afterPoll changed).runner = s.runner ∨
      ∃ q, (s.afterPoll changed).runner = s.runner.requested q) ∧
      (s.afterPoll changed).caller = s.caller ∧ (s.afterPoll changed).reported = s.reported := by
  unfold afterPoll
  cases changed with
  | error f => exact ⟨Or.inl rfl, rfl, rfl⟩
  | ok b =>
      cases b with
      | false => exact ⟨Or.inl rfl, rfl, rfl⟩
      | true =>
          dsimp only
          split
          · exact ⟨Or.inr ⟨.stop, rfl⟩, rfl, rfl⟩
          · exact ⟨Or.inr ⟨.restart, rfl⟩, rfl, rfl⟩

/-- **To the runner a move is nothing, or a step of the same run;** only a wait that cannot be made
breaks that off. -/
theorem Effect.transition (h : Effect s m s') (hc : s.caller ≠ .absent) :
    s'.runner = s.runner ∨ ∃ step, step ≠ .call ∧
      (step = .interrupt → s.runner.refusesWait = true) ∧
      Runner.Transition s.runner step s'.runner := by
  have hrequest : ∀ q, ∃ step, step ≠ .call ∧
      (step = .interrupt → s.runner.refusesWait = true) ∧
      Runner.Transition s.runner step (s.runner.requested q) := fun q =>
    ⟨.request q, Step.noConfusion, nofun, Runner.step?_eq_some_iff.1 rfl⟩
  cases h with
  | @run step r' hcall hrefused h => exact Or.inr ⟨step, hcall, hrefused, h⟩
  | @poll wake rendered =>
      rcases (s.afterPoll_cases (s.runner.hasChanged rendered)).1 with heq | ⟨q, heq⟩
      · exact Or.inl heq
      · rw [heq]
        exact Or.inr (hrequest q)
  | receiveDrift | interruptWait => exact Or.inr (hrequest .stop)
  | interruptRun habsent => exact absurd habsent hc
  | quit | report | receiveEnd | join | abandon | interruptJoin => exact Or.inl rfl

/-- A supervised runner stays supervised. -/
theorem Effect.caller_ne_absent (h : Effect s m s') (hc : s.caller ≠ .absent) :
    s'.caller ≠ .absent := by
  cases h with
  | poll =>
      rw [(s.afterPoll_cases _).2.1]
      exact hc
  | run | quit | report | interruptRun => exact hc
  | receiveEnd | receiveDrift | join | abandon | interruptWait | interruptJoin =>
      exact Caller.noConfusion

end Supervision

/-! ### Attended runs -/

/-- The time of grace of a runner does not change. -/
theorem Runner.Transition.grace_eq {r r' : Runner} {step : Step}
    (h : Runner.Transition r step r') : r'.grace = r.grace := by
  cases h <;> rfl

/-- A wait that cannot be made is one for a time of grace that is too long. -/
theorem Runner.isOverlong_of_refusesWait {r : Runner} (h : r.refusesWait = true) :
    isOverlong r.grace = true := by
  unfold refusesWait at h
  split at h
  · rw [Bool.and_eq_true, Bool.and_eq_true] at h
    exact h.1.2
  · cases h

/-- A run that has returned has returned for good, unless the runner is run again. -/
theorem Runner.Transition.phase_of_returned {r r' : Runner} {step : Step} {outcome : Outcome}
    (h : Runner.Transition r step r') (hstep : step ≠ .call) (hp : r.phase = .returned outcome) :
    r'.phase = .returned outcome := by
  cases h with
  | call => exact absurd rfl hstep
  | exit | post | accept | ignore | tick => exact hp
  | takeStale h =>
      rcases h with h | ⟨q, seen, deadline, h⟩ <;> rw [hp] at h <;> cases h
  | interrupt h =>
      rcases h with ⟨n, h⟩ | ⟨n, q, seen, deadline, h⟩ | ⟨n, h⟩ <;> rw [hp] at h <;> cases h
  | render h | renderFault h | start h | startFault h | record h | takeExit h | takeRequest h
    | takeCancelled h | takeFurther h | expire h | reap h | close h | drain h | drained h =>
      rw [hp] at h
      cases h

namespace Supervision

variable {s s' : Supervision} {m : Move} {ms : List Move} {base : Nat}

/-- **A supervised run, none of whose children is lost sight of;** they are those from number `base`
on.  It is broken off only when its time of grace is too long, and reports its end only when it has
returned. -/
structure Attended (base : Nat) (s : Supervision) : Prop where
  caller_ne : s.caller ≠ .absent
  reachable : s.runner.Reachable
  tends : Runner.Tends base s.runner
  overlong : s.runner.phase.isInterrupted = true → isOverlong s.runner.grace = true
  returned : s.reported = true → ∃ outcome, s.runner.phase = .returned outcome

theorem Attended.effect (hs : s.Attended base) (h : Effect s m s') : s'.Attended base := by
  obtain ⟨hc, hreach, htends, hoverlong, hreturned⟩ := hs
  have hreported : s'.reported = true → ∃ outcome, s.runner.phase = .returned outcome := by
    intro hr
    cases h with
    | @report outcome _ h => exact ⟨outcome, h⟩
    | poll =>
        rw [(s.afterPoll_cases _).2.2] at hr
        exact hreturned hr
    | _ => exact hreturned hr
  have hc' := h.caller_ne_absent hc
  rcases h.transition hc with heq | ⟨step, hcall, hrefused, hstep⟩
  · refine ⟨hc', ?_, ?_, ?_, ?_⟩ <;> rw [heq] <;> assumption
  · refine ⟨hc', hreach.step (Runner.step?_eq_some_iff.2 hstep),
      htends.transition hstep fun h => absurd h hcall, fun hp => ?_, fun hr => ?_⟩
    · rw [hstep.grace_eq]
      by_cases hinterrupt : step = .interrupt
      · exact Runner.isOverlong_of_refusesWait (hrefused hinterrupt)
      · refine hoverlong (Bool.not_eq_false _ ▸ fun h => ?_)
        rw [hstep.isInterrupted_eq_false hinterrupt h] at hp
        cases hp
    · obtain ⟨outcome, hp⟩ := hreported hr
      exact ⟨outcome, hstep.phase_of_returned hcall hp⟩

/-- **Every supervised run is attended.** -/
theorem attended_of_moves? {r : Runner} {polling : Polling} {s₀ : Supervision} (hr : r.Reachable)
    (h₀ : supervised? r polling = some s₀) (hms : s₀.moves? ms = some s) :
    s.Attended r.children.length := by
  obtain ⟨r₀, hcall, rfl⟩ := Option.map_eq_some_iff.1 h₀
  refine invariant_of_moves? (fun s m s' hs h => hs.effect h) hms
    ⟨Caller.noConfusion, hr.step hcall, ?_, ?_, Bool.noConfusion⟩
  · exact Runner.tends_of_call hr hcall List.not_mem_nil rfl
  · cases Runner.step?_eq_some_iff.1 hcall
    exact nofun

end Supervision

end Command

end InlineSecrets
