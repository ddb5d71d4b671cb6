/-
**When the inputs cannot be rendered again.**

A caller that learns that the inputs could not be rendered again asks the runner for a stop, and
waits for its end before the call ends with that failure.  It does not wait for longer than the
usual time of grace, whatever the runner's own time of grace is.

So nothing is left running when the caller has seen the end of the run, unless that was broken off
because its time of grace is too long to be waited for.  This is so when the stop was accepted, the
runner gives up on its child before the caller gives up on the runner, and time passes only while
there is nothing to do.  Otherwise something may be left.  A child that does not terminate outlives
the call when the runner's time of grace is longer than the usual one.  And when the failure is
noticed between two children, the stop is ignored: the next child is started when nobody waits for
it any longer.

Main definitions:

* `InlineSecrets.Command.Supervision.AtRest` — **nothing is left running;**
* `InlineSecrets.Command.Supervision.IsBrokenOff` — the run could not wait for its child;
* `InlineSecrets.Command.Runner.giveUp?` — until when a child is waited for at most;
* `InlineSecrets.Command.Supervision.isPrompt` — time passes only while there is nothing to do;
* `InlineSecrets.Command.Supervision.Aftermath` — what is left of a call that ends like that.

Main results:

* `InlineSecrets.Command.Supervision.AtRest.moves` — nothing is left for good;
* `InlineSecrets.Command.Supervision.exists_aftermath` — **what is left of every call that ends with
  inputs that could not be rendered again;**
* `InlineSecrets.Command.Supervision.left_running` — calls that leave a child behind.
-/

import InlineSecrets.Proofs.Command.Stopping
import InlineSecrets.Proofs.Command.Supervised
import Mathlib.Algebra.Order.Ring.Unbundled.Rat

set_option relaxedAutoImplicit false
set_option autoImplicit false

namespace InlineSecrets

namespace Command

/-! ### The time of a runner -/

namespace Runner

variable {r r' : Runner} {step : Step}

/-- Until when the runner waits for its child at most, when that is asked to go now at the
latest. -/
def giveUp? (r : Runner) : Option Rat :=
  match r.phase with
  | .awaiting _ => after r.now r.grace
  | .cancelling _ _ _ deadline => deadline
  | _ => some r.now

/-- The runner gives up on its child before a caller who begins to wait now gives up on the
runner. -/
def GivesUpInTime (r : Runner) : Prop :=
  ∀ time ∈ after r.now usualGrace, r.now < time ∧ ∃ d ∈ r.giveUp?, d < time

instance (r : Runner) : Decidable r.GivesUpInTime :=
  inferInstanceAs (Decidable (∀ time ∈ after r.now usualGrace, _))

theorem grace_requested (r : Runner) (q : Request) : (r.requested q).grace = r.grace := by
  unfold requested
  split <;> rfl

/-- A request adds no child, and takes no time. -/
theorem requested_cases (r : Runner) (q : Request) :
    (r.requested q).children = r.children ∧ (r.requested q).now = r.now ∧
      (r.requested q).giveUp? = r.giveUp? := by
  unfold requested
  split <;> exact ⟨rfl, rfl, rfl⟩

/-- Time does not go back. -/
theorem Transition.now_le (h : Transition r step r') : r.now ≤ r'.now := by
  cases h with
  | tick h => exact h
  | _ => exact le_refl _

theorem Transition.now_eq (h : Transition r step r') (hstep : ∀ time, step ≠ .tick time) :
    r'.now = r.now := by
  cases h with
  | @tick time => exact absurd rfl (hstep time)
  | _ => rfl

/-- When no other child will be started, the runner does not wait for longer than before. -/
theorem Transition.exists_giveUp? (h : Transition r step r') (hcall : step ≠ .call)
    (hstep : ∀ time, step ≠ .tick time) (hr : r.IsStopping) {time : Rat} (hnow : r.now < time)
    (hgive : ∃ d ∈ r.giveUp?, d < time) : ∃ d ∈ r'.giveUp?, d < time := by
  have hother : r'.giveUp? = some r.now → ∃ d ∈ r'.giveUp?, d < time :=
    fun h => ⟨r.now, h, hnow⟩
  cases h with
  | call => exact absurd rfl hcall
  | @tick time => exact absurd rfl (hstep time)
  | takeStale | exit | post | accept | ignore => exact hgive
  | takeRequest hp | takeFurther hp =>
      unfold giveUp? at hgive ⊢
      rw [hp] at hgive
      exact hgive
  | record hp =>
      unfold IsStopping at hr
      rw [hp] at hr
      exact hr.elim
  | @drained ending stopPending =>
      refine hother ?_
      unfold giveUp?
      cases ending <;> cases stopPending <;> rfl
  | render | renderFault | start | startFault | takeExit | takeCancelled | expire | reap | close
    | drain | interrupt => exact hother rfl

end Runner

namespace Supervision

variable {s s' : Supervision} {m : Move} {ms : List Move} {base : Nat}

/-! ### Rest -/

/-- **Nothing is left running:** the run has returned, no child is recorded, and those from number
`base` on have exited. -/
structure AtRest (base : Nat) (s : Supervision) : Prop where
  returned : ∃ outcome, s.runner.phase = .returned outcome
  recorded_eq : s.runner.recorded = none
  exited : ∀ i, base ≤ i → s.runner.isAlive i = false

/-- The run was broken off, because its time of grace is longer than anything can be waited for. -/
structure IsBrokenOff (s : Supervision) : Prop where
  returned : s.runner.phase = .returned .interrupted
  overlong : isOverlong s.runner.grace = true

/-- A run that has returned has left nothing running, or it was broken off. -/
theorem Attended.atRest (hs : s.Attended base) {outcome : Outcome}
    (hp : s.runner.phase = .returned outcome) : s.AtRest base ∨ s.IsBrokenOff := by
  obtain ⟨-, hrecorded, hexited⟩ := (hs.tends.tidy hs.reachable).returned outcome hp
  by_cases hinterrupted : outcome = .interrupted
  · subst hinterrupted
    exact Or.inr ⟨hp, hs.overlong (by rw [hp]; rfl)⟩
  · exact Or.inl ⟨⟨outcome, hp⟩, hrecorded, hexited hinterrupted⟩

/-- What the steps of one run preserve, the moves of a supervised run preserve. -/
theorem invariant_of_runner {P : Runner → Prop}
    (hstep : ∀ r step r', step ≠ .call → P r → Runner.Transition r step r' → P r')
    (hc : s.caller ≠ .absent) (hms : s.moves? ms = some s') (hs : P s.runner) : P s'.runner := by
  have hboth : s'.caller ≠ .absent ∧ P s'.runner := by
    refine invariant_of_moves? (P := fun s => s.caller ≠ .absent ∧ P s.runner) ?_ hms ⟨hc, hs⟩
    rintro s m s' ⟨hc, hs⟩ h
    refine ⟨h.caller_ne_absent hc, ?_⟩
    rcases h.transition hc with heq | ⟨step, hcall, -, h⟩
    · rwa [heq]
    · exact hstep _ _ _ hcall hs h
  exact hboth.2

/-- When no other child will be started, none is. -/
theorem length_children_of_isStopping (hc : s.caller ≠ .absent) (hs : s.runner.IsStopping)
    (hms : s.moves? ms = some s') :
    s'.runner.children.length = s.runner.children.length := by
  have hboth := invariant_of_runner (s := s) (P := fun r => r.IsStopping ∧
    r.children.length = s.runner.children.length) ?_ hc hms ⟨hs, rfl⟩
  · exact hboth.2
  · rintro r step r' hcall ⟨hr, hlen⟩ h
    exact ⟨hr.transition hcall h, (h.length_children (hr.ne_start h _)).trans hlen⟩

/-- **Nothing is left for good:** in no continuation is a child started. -/
theorem AtRest.moves (hs : s.Attended base) (hrest : s.AtRest base) (hms : s.moves? ms = some s') :
    s'.AtRest base ∧ s'.runner.children.length = s.runner.children.length := by
  obtain ⟨outcome, hp⟩ := hrest.returned
  have hstopping : s.runner.IsStopping := by
    unfold Runner.IsStopping
    rw [hp]
    trivial
  have hlen := length_children_of_isStopping hs.caller_ne hstopping hms
  refine ⟨?_, hlen⟩
  have hs' : s'.Attended base := invariant_of_moves? (fun s m s' hs h => hs.effect h) hms hs
  have hp' : s'.runner.phase = .returned outcome := by
    refine invariant_of_runner (P := fun r => r.phase = .returned outcome) ?_ hs.caller_ne hms hp
    exact fun r step r' hcall hp h => h.phase_of_returned hcall hp
  obtain ⟨-, hrecorded, -⟩ := (hs'.tends.tidy hs'.reachable).returned outcome hp'
  refine ⟨⟨outcome, hp'⟩, hrecorded, fun i hi => ?_⟩
  -- a child that had exited stays so, and there are no others
  rcases Nat.lt_or_ge i s.runner.children.length with hlt | hge
  · have hexited : s'.runner.HasExited i := by
      refine invariant_of_runner (P := fun r => r.HasExited i) ?_ hs.caller_ne hms
        ⟨hlt, hrest.exited i hi⟩
      exact fun r step r' _ hr h => hr.transition h
    exact hexited.2
  · exact Runner.isAlive_eq_false_of_length_le (hlen ▸ hge)

/-! ### The caller -/

/-- A deadline that has come stays behind. -/
theorem Effect.isDue (h : Effect s m s') (hc : s.caller ≠ .absent) {deadline : Option Rat}
    (hdue : s.isDue deadline = true) : s'.isDue deadline = true := by
  have hnow : s.runner.now ≤ s'.runner.now := by
    rcases h.transition hc with heq | ⟨step, -, -, h⟩
    · rw [heq]
    · exact h.now_le
  obtain ⟨time, htime, hle⟩ := (Option.any_eq_true _ _).1 hdue
  refine (Option.any_eq_true _ _).2 ⟨time, htime, ?_⟩
  simpa using le_trans (by simpa using hle) hnow

/-- Whether the caller waits for the end of the runner. -/
def isJoining (s : Supervision) : Bool :=
  match s.caller with
  | .joining _ _ => true
  | _ => false

/-- A caller that is to end with a report: it waits for the end of the run until the deadline, or it
has ended, because the run has reported its end, or the deadline has come, or it was interrupted. -/
def Parting (deadline : Option Rat) (report : Report) (s : Supervision) : Prop :=
  s.caller = .joining deadline report ∨ s.caller = .returned (.ran .interrupted) ∨
    s.caller = .returned report ∧ (s.reported = true ∨ s.isDue deadline = true)

variable {deadline : Option Rat} {report : Report}

theorem Parting.effect (hs : s.Parting deadline report) (h : Effect s m s') :
    s'.Parting deadline report := by
  have hc : s.caller ≠ .absent := by
    rcases hs with hc | hc | ⟨hc, -⟩ <;> rw [hc] <;> exact Caller.noConfusion
  -- as long as the caller does nothing, what it waits for can only come closer
  have hkeep : s'.caller = s.caller → (s.reported = true → s'.reported = true) →
      s'.Parting deadline report := by
    intro hcaller hreported
    unfold Parting
    rw [hcaller]
    exact hs.imp_right (Or.imp_right (And.imp_right (Or.imp hreported (h.isDue hc))))
  cases h with
  | run | quit => exact hkeep rfl id
  | poll =>
      obtain ⟨-, hcaller, hreported⟩ := s.afterPoll_cases _
      exact hkeep hcaller fun hr => hreported.trans hr
  | report => exact hkeep rfl fun _ => rfl
  | receiveEnd hwait | receiveDrift hwait | interruptWait hwait =>
      rcases hs with hc | hc | ⟨hc, -⟩ <;> rw [hwait] at hc <;> cases hc
  | interruptRun habsent => exact absurd habsent hc
  | interruptJoin => exact Or.inr (Or.inl rfl)
  | join hjoin hr =>
      rcases hs with hc | hc | ⟨hc, -⟩ <;> rw [hjoin] at hc <;> cases hc
      exact Or.inr (Or.inr ⟨rfl, Or.inl hr⟩)
  | abandon hjoin hdue =>
      rcases hs with hc | hc | ⟨hc, -⟩ <;> rw [hjoin] at hc <;> cases hc
      exact Or.inr (Or.inr ⟨rfl, Or.inr hdue⟩)

/-- A call that has ended stays as it has ended. -/
theorem Effect.caller_of_returned (h : Effect s m s') (hc : s.caller = .returned report) :
    s'.caller = .returned report := by
  cases h with
  | poll => exact (s.afterPoll_cases _).2.1.trans hc
  | run | quit | report | interruptRun => exact hc
  | receiveEnd hc' | receiveDrift hc' | join hc' | abandon hc' | interruptWait hc'
    | interruptJoin hc' =>
      rw [hc] at hc'
      cases hc'

theorem caller_of_returned (hc : s.caller = .returned report) (hms : s.moves? ms = some s') :
    s'.caller = .returned report :=
  invariant_of_moves? (P := fun s => s.caller = .returned report)
    (fun _ _ _ hc h => h.caller_of_returned hc) hms hc

/-- A supervised call ends when its caller has returned. -/
theorem caller_of_verdict? (hc : s.caller ≠ .absent) (hv : s.verdict? = some report) :
    s.caller = .returned report := by
  unfold verdict? at hv
  split at hv
  · next habsent _ => exact absurd habsent hc
  · next report' hreturned =>
      cases hv
      exact hreturned
  · cases hv

/-- In the run `ms` from `s` to `s'`, the caller takes the report of a failed check in the state
`s₁`, which leads to `s₂`: it asks for a stop and begins to wait for the end of the runner. -/
structure TakesReport (f : RenderFault) (s : Supervision) (ms : List Move) (s' : Supervision)
    (ms₁ : List Move) (s₁ s₂ : Supervision) (ms₂ : List Move) : Prop where
  moves_eq : ms = ms₁ ++ .receive :: ms₂
  before : s.moves? ms₁ = some s₁
  receive : s₁.move? .receive = some s₂
  joining : s₂.caller = .joining (after s₁.runner.now usualGrace) (.drifted f)
  behind : s₂.moves? ms₂ = some s'

variable {f : RenderFault}

/-- **A call that a failed check has ended took the report of it at some time.** -/
theorem exists_takesReport (hc : s.caller = .waiting) (hms : s.moves? ms = some s')
    (hf : s'.caller = .returned (.drifted f)) :
    ∃ ms₁ s₁ s₂ ms₂, TakesReport f s ms s' ms₁ s₁ s₂ ms₂ := by
  induction ms generalizing s with
  | nil =>
      cases hms
      rw [hc] at hf
      cases hf
  | cons m ms ih =>
      obtain ⟨s₁, hm, hms'⟩ := moves?_cons_eq_some_iff.1 hms
      -- while the caller waits, the report is taken later
      have hlater : s₁.caller = .waiting →
          ∃ ms₁ s₁ s₂ ms₂, TakesReport f s (m :: ms) s' ms₁ s₁ s₂ ms₂ := by
        intro hc₁
        obtain ⟨ms₁, s₂, s₃, ms₂, rfl, hms₁, hreceive, hjoining, hbehind⟩ :=
          ih hc₁ hms'
        exact ⟨m :: ms₁, s₂, s₃, ms₂, rfl, moves?_cons_eq_some_iff.2 ⟨s₁, hm, hms₁⟩, hreceive,
          hjoining, hbehind⟩
      -- when it waits for the end of the runner, what it ends with is settled
      have hsettled : ∀ {deadline report}, s₁.caller = .joining deadline report →
          report = .drifted f := by
        intro deadline report hc₁
        have hparting : s'.Parting deadline report :=
          invariant_of_moves? (fun s m s' hs h => hs.effect h) hms' (Or.inl hc₁)
        rcases hparting with hc' | hc' | ⟨hc', -⟩ <;> rw [hf] at hc' <;> cases hc'
        rfl
      have hmove := move?_eq_some_iff.2 hm
      cases hm with
      | run | quit | report => exact hlater hc
      | poll => exact hlater ((s.afterPoll_cases _).2.1.trans hc)
      | receiveEnd =>
          rw [caller_of_returned rfl hms'] at hf
          cases hf
      | receiveDrift =>
          obtain rfl := Report.drifted.inj (hsettled rfl)
          exact ⟨[], s, _, ms, rfl, rfl, hmove, rfl, hms'⟩
      | interruptWait => cases hsettled rfl
      | interruptRun hc' | join hc' | abandon hc' | interruptJoin hc' =>
          rw [hc] at hc'
          cases hc'

/-- What taking the report of a failed check does. -/
theorem TakesReport.receive_eq {ms₁ ms₂ : List Move} {s₁ s₂ : Supervision}
    (h : TakesReport f s ms s' ms₁ s₁ s₂ ms₂) :
    s₂.runner = s₁.runner.requested .stop ∧ s₂.done = true := by
  have hjoining := h.joining
  cases move?_eq_some_iff.1 h.receive with
  | receiveEnd => cases hjoining
  | receiveDrift => exact ⟨rfl, rfl⟩

/-! ### Prompt parties -/

/-- Whether time may pass up to `time`: neither the runner nor a caller that waits for its end has
anything to do, and the time at which the runner gives up on its child is not passed over. -/
def mayWait (s : Supervision) (time : Rat) : Bool :=
  match s.runner.phase with
  | .awaiting _ => s.runner.mailbox.isEmpty
  | .cancelling _ _ _ deadline =>
      s.runner.mailbox.isEmpty && deadline.all fun d => s.runner.now < d && time ≤ d
  | .returned _ => s.reported && !s.isJoining
  | _ => false

/-- Whether time passes only while there is nothing to do. -/
def isPrompt : List Move → Supervision → Bool
  | [], _ => true
  | m :: ms, s =>
      (match m with
        | .run (.tick time) => s.mayWait time
        | _ => true) && (s.move? m).all (isPrompt ms)

/-- The caller waits for the end of the runner, and the runner gives up on its child before the
deadline; or the caller has ended, when it was interrupted or the run has reported its end. -/
def InTime (deadline : Option Rat) (report : Report) (s : Supervision) : Prop :=
  (s.caller = .joining deadline report ∧ s.done = true ∧ s.runner.IsStopping ∧
    ∀ time ∈ deadline, s.runner.now < time ∧ ∃ d ∈ s.runner.giveUp?, d < time) ∨
  s.caller = .returned (.ran .interrupted) ∨ s.caller = .returned report ∧ s.reported = true

/-- Behind a stop, while its end is waited for, a runner has nothing to do only when it waits for
its child, and then not for longer than it would before. -/
theorem exists_cancelling_of_mayWait (hstop : s.runner.IsStopping) (hc : s.isJoining = true)
    {time : Rat} (hwait : s.mayWait time = true) :
    ∃ n q seen deadline, s.runner.phase = .cancelling n q seen deadline ∧
      ∀ d ∈ deadline, time ≤ d := by
  unfold Runner.IsStopping at hstop
  unfold mayWait at hwait
  cases hp : s.runner.phase with
  | awaiting =>
      -- the stop is in the mailbox
      simp only [hp] at hstop hwait
      rw [List.isEmpty_iff.1 hwait] at hstop
      cases hstop
  | cancelling n q seen deadline =>
      simp only [hp, Bool.and_eq_true] at hwait
      refine ⟨n, q, seen, deadline, rfl, ?_⟩
      rintro d rfl
      have hd : s.runner.now < d ∧ time ≤ d := by simpa using hwait.2
      exact hd.2
  | returned =>
      rw [hp, hc] at hwait
      simp at hwait
  | idle | rendering | starting | recording | reaping | closing | draining =>
      rw [hp] at hwait
      cases hwait

/-- **A runner that gives up on its child in time is waited for,** as long as time passes only while
there is nothing to do. -/
theorem InTime.effect (hs : s.InTime deadline report) (h : Effect s m s')
    (hprompt : ∀ time, m = .run (.tick time) → s.mayWait time = true) :
    s'.InTime deadline report := by
  rcases hs with ⟨hc, hdone, hstop, htime⟩ | hc | ⟨hc, hr⟩
  · cases h with
    | @run step r' hcall hinterrupt h =>
        refine Or.inl ⟨hc, hdone, hstop.transition hcall h, fun time htime' => ?_⟩
        obtain ⟨hnow, hgive⟩ := htime time htime'
        by_cases htick : ∃ time, step = .tick time
        · obtain ⟨time', rfl⟩ := htick
          have hjoining : s.isJoining = true := by rw [isJoining, hc]
          obtain ⟨n, q, seen, deadline', hp, hle⟩ :=
            exists_cancelling_of_mayWait hstop hjoining (hprompt time' rfl)
          unfold Runner.giveUp? at hgive ⊢
          rw [hp] at hgive
          cases h with
          | tick =>
              simp only [hp]
              obtain ⟨d, hd, hlt⟩ := hgive
              exact ⟨lt_of_le_of_lt (hle d hd) hlt, d, hd, hlt⟩
        · have hno : ∀ time, step ≠ .tick time := fun time h => htick ⟨time, h⟩
          exact ⟨(h.now_eq hno).symm ▸ hnow, h.exists_giveUp? hcall hno hstop hnow hgive⟩
    | poll _ _ hdone' =>
        rw [hdone] at hdone'
        cases hdone'
    | quit | report => exact Or.inl ⟨hc, hdone, hstop, htime⟩
    | receiveEnd hc' | receiveDrift hc' | interruptRun hc' | interruptWait hc' =>
        rw [hc] at hc'
        cases hc'
    | join hc' hr =>
        rw [hc] at hc'
        cases hc'
        exact Or.inr (Or.inr ⟨rfl, hr⟩)
    | abandon hc' hdue =>
        -- the deadline has not come
        rw [hc] at hc'
        cases hc'
        obtain ⟨time, htime', hle⟩ := (Option.any_eq_true _ _).1 hdue
        have hle' : time ≤ s.runner.now := by simpa using hle
        exact absurd (htime time htime').1 (not_lt_of_ge hle')
    | interruptJoin => exact Or.inr (Or.inl rfl)
  · exact Or.inr (Or.inl (h.caller_of_returned hc))
  · refine Or.inr (Or.inr ⟨h.caller_of_returned hc, ?_⟩)
    cases h with
    | poll => exact (s.afterPoll_cases _).2.2.trans hr
    | report => rfl
    | _ => exact hr

theorem InTime.moves (hs : s.InTime deadline report) (hms : s.moves? ms = some s')
    (hprompt : isPrompt ms s = true) : s'.InTime deadline report := by
  induction ms generalizing s with
  | nil =>
      cases hms
      exact hs
  | cons m ms ih =>
      obtain ⟨s₁, hm, hms⟩ := moves?_cons_eq_some_iff.1 hms
      obtain ⟨hfirst, hrest⟩ := Bool.and_eq_true_iff.1 hprompt
      rw [move?_eq_some_iff.2 hm, Option.all_some] at hrest
      refine ih (hs.effect hm ?_) hms hrest
      rintro time rfl
      exact hfirst

/-! ### The end of the call -/

/-- **What is left of a call that a failed check has ended,** when the caller took the report of it
in the state `s₁`. -/
structure Aftermath (base : Nat) (s₁ s₂ : Supervision) (ms₂ : List Move) (s : Supervision) :
    Prop where
  /-- Nothing is left running, or the run was broken off, or the usual time of grace is over. -/
  left : s.AtRest base ∨ s.IsBrokenOff ∨
    ∃ time ∈ after s₁.runner.now usualGrace, time ≤ s.runner.now
  /-- What is not left running is not started again. -/
  lasting : s.AtRest base → ∀ ms' s', s.moves? ms' = some s' →
    s'.AtRest base ∧ s'.runner.children.length = s.runner.children.length
  /-- Behind an accepted stop, no child is started. -/
  stopped : s₁.runner.accepts = true → ∀ ms' s', s₂.moves? ms' = some s' →
    s'.runner.children.length = s₁.runner.children.length
  /-- Nothing is left running behind an accepted stop when the time of grace can be waited for, the
  runner gives up on its child before the caller gives up on the runner, and time passes only while
  there is nothing to do. -/
  atRest : s₁.runner.accepts = true → isOverlong s₁.runner.grace = false →
    s₁.runner.GivesUpInTime → isPrompt ms₂ s₂ = true → s.AtRest base

/-- **What is left of every call that ends with inputs that could not be rendered again,** for all
times of grace and plans of polling, and whatever the runner, its children and the poller do.  At
some time in it the caller took the report of the failure, and asked for a stop.  When the call
ends, nothing is left running, or the usual time of grace has passed since then, or the run was
broken off, which happens only when its own time of grace is infinite or longer than anything can be
waited for.  Nothing is left running when the stop was accepted, the time of grace can be waited
for, the runner gives up on its child before the caller gives up on the runner, and time passes only
while there is nothing to do. -/
theorem exists_aftermath {r : Runner} {polling : Polling} {s₀ : Supervision} (hr : r.Reachable)
    (h₀ : supervised? r polling = some s₀) (hms : s₀.moves? ms = some s)
    (hv : s.verdict? = some (.drifted f)) :
    ∃ ms₁ s₁ s₂ ms₂, TakesReport f s₀ ms s ms₁ s₁ s₂ ms₂ ∧
      Aftermath r.children.length s₁ s₂ ms₂ s := by
  have hs := attended_of_moves? hr h₀ hms
  have hwaiting : s₀.caller = .waiting := by
    obtain ⟨r₀, -, rfl⟩ := Option.map_eq_some_iff.1 h₀
    rfl
  have hcaller := caller_of_verdict? hs.caller_ne hv
  obtain ⟨ms₁, s₁, s₂, ms₂, htakes⟩ := exists_takesReport hwaiting hms hcaller
  have hs₁ := attended_of_moves? hr h₀ htakes.before
  have hs₂ : s₂.Attended r.children.length := hs₁.effect (move?_eq_some_iff.1 htakes.receive)
  obtain ⟨hrunner, hdone⟩ := htakes.receive_eq
  obtain ⟨hchildren, hnow, hgiveUp⟩ := s₁.runner.requested_cases .stop
  rw [← hrunner] at hchildren hnow hgiveUp
  have hstopping : s₁.runner.accepts = true → s₂.runner.IsStopping := by
    intro hacc
    rw [hrunner, Runner.requested, if_pos hacc]
    exact Runner.isStopping_of_accepts hs₁.reachable hacc
  have hrest : s.reported = true → s.AtRest r.children.length ∨ s.IsBrokenOff := by
    intro hreported
    obtain ⟨outcome, hp⟩ := hs.returned hreported
    exact hs.atRest hp
  refine ⟨ms₁, s₁, s₂, ms₂, htakes, ?_, fun hrest ms' s' => hrest.moves hs, ?_, ?_⟩
  · have hparting : s.Parting (after s₁.runner.now usualGrace) (.drifted f) :=
      invariant_of_moves? (fun s m s' hs h => hs.effect h) htakes.behind (Or.inl htakes.joining)
    rcases hparting with hc | hc | ⟨-, hreported | hdue⟩
    · rw [hcaller] at hc
      cases hc
    · rw [hcaller] at hc
      cases hc
    · exact (hrest hreported).imp_right Or.inl
    · obtain ⟨time, htime, hle⟩ := (Option.any_eq_true _ _).1 hdue
      exact Or.inr (Or.inr ⟨time, htime, by simpa using hle⟩)
  · intro hacc ms' s' hms'
    rw [length_children_of_isStopping hs₂.caller_ne (hstopping hacc) hms', hchildren]
  · intro hacc hgrace hgives hprompt
    have hunbroken : ¬s.IsBrokenOff := by
      intro hbroken
      have hkept : s.runner.grace = s₁.runner.grace := by
        refine invariant_of_runner (P := fun r => r.grace = s₁.runner.grace) ?_ hs₂.caller_ne
          htakes.behind (by rw [hrunner, Runner.grace_requested])
        exact fun r step r' _ hr h => h.grace_eq.trans hr
      rw [← hkept, hbroken.overlong] at hgrace
      cases hgrace
    have hintime : s₂.InTime (after s₁.runner.now usualGrace) (.drifted f) := by
      refine Or.inl ⟨htakes.joining, hdone, hstopping hacc, ?_⟩
      rw [hnow, hgiveUp]
      exact hgives
    rcases hintime.moves htakes.behind hprompt with ⟨hc, -⟩ | hc | ⟨-, hreported⟩
    · rw [hcaller] at hc
      cases hc
    · rw [hcaller] at hc
      cases hc
    · exact (hrest hreported).resolve_right hunbroken

/-! ### Calls that end with a failed check -/

/-- A run of a supervised runner, from a check of its last state. -/
theorem exists_run_of_any {r : Runner} {polling : Polling} {p : Supervision → Bool}
    (h : (((supervised? r polling).bind (moves? ms)).any p) = true) :
    ∃ s₀ s, supervised? r polling = some s₀ ∧ s₀.moves? ms = some s ∧ p s = true := by
  obtain ⟨s, hs, hp⟩ := (Option.any_eq_true _ _).1 h
  obtain ⟨s₀, h₀, hms⟩ := Option.bind_eq_some_iff.1 hs
  exact ⟨s₀, s, h₀, hms, hp⟩

/-- A new runner, with a secret in its inputs. -/
def newRunner (grace : Double) : Runner where
  given := ⟨"sh".toList, [], ["A=vault:p#k".toList]⟩
  grace := grace

theorem reachable_newRunner (grace : Double) : (newRunner grace).Reachable :=
  ⟨newRunner grace, [], ⟨rfl, rfl, rfl, rfl⟩, rfl⟩

/-- Its inputs with the secret revealed, when that is `v`. -/
def revealed (v : Char) : Inputs := ⟨"sh".toList, [], ["A=".toList ++ [v]]⟩

/-- The failure to reveal the secret when it is gone. -/
def secretGone : RenderFault :=
  ⟨"A".toList, .transforming .decode "vault".toList "p#k".toList 2
    (.vault (.notFound "p".toList "k".toList))⟩

/-- A child is started, and the check fails after a second. -/
def untilFailed : List Move :=
  [.run (.render (.ok (revealed 'v'))), .run (.start (.ok ())), .run .record, .run (.tick 1),
    .poll (.error secretGone)]

/-- The child does not terminate, and is killed after another second; the caller sees the end of
the run. -/
def untilJoined : List Move :=
  [.run .take, .run (.tick 2), .run .expire, .run (.exit 0 (-9)), .run .reap, .run .close,
    .run .drain, .report, .join]

theorem exists_aftermath_givingUpInTime :
    (newRunner (.ofInt 1)).Reachable ∧
    ∃ s₀ s, supervised? (newRunner (.ofInt 1)) ⟨.stop, .ofInt 1⟩ = some s₀ ∧
      s₀.moves? (untilFailed ++ .receive :: untilJoined) = some s ∧
      s.verdict? = some (.drifted secretGone) ∧ s.AtRest 0 := by
  have hreachable := reachable_newRunner (.ofInt 1)
  have hsome : (((supervised? (newRunner (.ofInt 1)) ⟨.stop, .ofInt 1⟩).bind
      (moves? (untilFailed ++ .receive :: untilJoined))).any fun s =>
        s.verdict? = some (.drifted secretGone)) = true := by decide +kernel
  obtain ⟨s₀, s, h₀, hms, hv⟩ := exists_run_of_any hsome
  have hv := of_decide_eq_true hv
  obtain ⟨ms₁, s₁, s₂, ms₂, htakes, hafter⟩ := exists_aftermath hreachable h₀ hms hv
  -- only one move takes a report
  have hsplit : ms₁ = untilFailed ∧ ms₂ = untilJoined := by
    simpa [untilFailed, untilJoined, List.cons_eq_append_iff] using htakes.moves_eq
  obtain ⟨rfl, rfl⟩ := hsplit
  have hconditions : (((supervised? (newRunner (.ofInt 1)) ⟨.stop, .ofInt 1⟩).bind
      (moves? untilFailed)).all fun s₁ => s₁.runner.accepts && !isOverlong s₁.runner.grace &&
        decide s₁.runner.GivesUpInTime && (s₁.move? .receive).all (isPrompt untilJoined)) =
      true := by decide +kernel
  rw [h₀, Option.bind_some, htakes.before, Option.all_some, htakes.receive, Option.all_some,
    Bool.and_eq_true, Bool.and_eq_true, Bool.and_eq_true] at hconditions
  obtain ⟨⟨⟨hacc, hgrace⟩, hgives⟩, hprompt⟩ := hconditions
  exact ⟨hreachable, s₀, s, h₀, hms, hv, hafter.atRest hacc (by simpa using hgrace)
    (of_decide_eq_true hgives) hprompt⟩

/-- The child does not terminate, and the runner waits longer for it than the caller waits for the
runner. -/
def untilAbandoned : List Move := [.receive, .run .take, .run (.tick 6), .abandon]

/-- The check fails while a child is on its way out because of a restart.  The caller learns of it
when the child is gone, and rendering the inputs of the next one takes longer than the caller
waits. -/
def untilUnattended : List Move :=
  [.run (.render (.ok (revealed 'v'))), .run (.start (.ok ())), .run .record, .run (.tick 1),
    .poll (.ok (revealed 'w')), .run .take, .run (.tick 2), .poll (.error secretGone),
    .run (.exit 0 (-15)), .run (.post 0), .run .take, .run .close, .run .drain, .receive,
    .run (.tick 7), .abandon]

/-- The next child is started. -/
def startingUnattended : List Move := [.run (.render (.ok (revealed 'w'))), .run (.start (.ok ()))]

/-- **Calls that leave a child behind:** one whose runner waits for its child longer than usual, and
one whose caller asks for a stop between two children, with the usual time of grace. -/
theorem left_running :
    (∃ s₀ s, supervised? (newRunner (.ofInt 10)) ⟨.stop, .ofInt 1⟩ = some s₀ ∧
      s₀.moves? (untilFailed ++ untilAbandoned) = some s ∧
      s.verdict? = some (.drifted secretGone) ∧ s.runner.isAlive 0 = true) ∧
    ∃ s₀ s s', supervised? (newRunner usualGrace) ⟨.restart, .ofInt 1⟩ = some s₀ ∧
      s₀.moves? untilUnattended = some s ∧ s.verdict? = some (.drifted secretGone) ∧
      s.runner.children.length = 1 ∧ s.moves? startingUnattended = some s' ∧
      s'.runner.isAlive 1 = true := by
  constructor
  · have hsome : (((supervised? (newRunner (.ofInt 10)) ⟨.stop, .ofInt 1⟩).bind
        (moves? (untilFailed ++ untilAbandoned))).any fun s =>
          s.verdict? = some (.drifted secretGone) ∧ s.runner.isAlive 0 = true) = true := by
      decide +kernel
    obtain ⟨s₀, s, h₀, hms, hs⟩ := exists_run_of_any hsome
    exact ⟨s₀, s, h₀, hms, of_decide_eq_true hs⟩
  · have hsome : (((supervised? (newRunner usualGrace) ⟨.restart, .ofInt 1⟩).bind
        (moves? untilUnattended)).any fun s =>
          (s.verdict? = some (.drifted secretGone) ∧ s.runner.children.length = 1) ∧
            ((s.moves? startingUnattended).any fun s' => s'.runner.isAlive 1) = true) = true := by
      decide +kernel
    obtain ⟨s₀, s, h₀, hms, hs⟩ := exists_run_of_any hsome
    obtain ⟨⟨hv, hlen⟩, hstart⟩ := of_decide_eq_true hs
    obtain ⟨s', hs', halive⟩ := (Option.any_eq_true _ _).1 hstart
    exact ⟨s₀, s, s', h₀, hms, hv, hlen, hs', halive⟩

end Supervision

end Command

end InlineSecrets
