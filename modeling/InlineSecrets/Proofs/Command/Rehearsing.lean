/-
**A rehearsal is a run.**

In a rehearsal it is determined what happens next.  But nothing happens in it that could not happen
in a run: all that settles, all that time brings and all that comes from outside is done by moves of
its calls, one after the other, and beside them only the vault, the plans and the alarms change.  So
a rehearsal with one call is a run of that call, and whatever holds of all runs holds of it.

Calls of one runner have the mailbox, the children and the record of the running child in common.
When one of them moves, the others see that at once.

Main definitions:

* `InlineSecrets.Command.Rehearsal.Act` — what a rehearsal does at once;
* `InlineSecrets.Command.Rehearsal.Plays` — what it does in some time.

Main results:

* `InlineSecrets.Command.Rehearsal.exists_call_of_move?` — what a move in a call does to all calls;
* `InlineSecrets.Command.Rehearsal.plays_settle`, `InlineSecrets.Command.Rehearsal.plays_advance` —
  settling and the passing of time are made of such moves, and so is all else;
* `InlineSecrets.Command.Rehearsal.Plays.exists_moves` — **a rehearsal of one call is a run of it;**
* `InlineSecrets.Command.Rehearsal.exists_moves_of_begin` — so is one from the beginning of the
  call.
-/

import InlineSecrets.Command.Rehearsal
import InlineSecrets.Proofs.Command.Supervised
import Mathlib.Data.Option.Basic
import Mathlib.Logic.Relation

set_option relaxedAutoImplicit false
set_option autoImplicit false

namespace InlineSecrets

namespace Command

namespace Rehearsal

variable {h h' h₁ h₂ : Rehearsal} {m : Move} {name : CallName}

/-! ### Moves and calls -/

@[simp] theorem call?_withAlarms (h : Rehearsal) (name : CallName) :
    h.withAlarms.call? name = h.call? name := by
  cases name <;> rfl

/-- The calls when one has moved: that one, and the others with what they have in common with it. -/
theorem call?_withCall {c c' : Call} (hc : h.call? name = some c) (other : CallName) :
    (h.withCall name c').call? other =
      if other = name then some c' else (h.call? other).map (·.sharing c') := by
  rw [withCall, call?_withAlarms]
  cases other with
  | none => cases name <;> rfl
  | some j =>
      cases name with
      | none => simp [call?, Function.comp_def]
      | some i =>
          have hi : i < h.earlier.length := (List.getElem?_eq_some_iff.1 hc).1
          by_cases hj : j = i
          · subst hj
            simp [call?, hi]
          · simp [call?, hj, Ne.symm hj, Function.comp_def]

/-- **What a move in a call does to all calls.**  The call moves as a supervised run does, and what
it has in common with others they see at once. -/
theorem exists_call_of_move? (hm : h.move? m name = some h') :
    ∃ c c', h.call? name = some c ∧ c.supervision.move? m = some c'.supervision ∧
      ∀ other, h'.call? other =
        if other = name then some c' else (h.call? other).map (·.sharing c') := by
  obtain ⟨c, hc, hm⟩ := Option.bind_eq_some_iff.1 hm
  obtain ⟨supervision, hsupervision, hm⟩ := Option.bind_eq_some_iff.1 hm
  have hcall : ∀ (h₁ : Rehearsal) (company : Company), (∀ other, h₁.call? other = h.call? other) →
      ∃ c c', h.call? name = some c ∧ c.supervision.move? m = some c'.supervision ∧
        ∀ other, (h₁.withCall name ⟨supervision, company⟩).call? other =
          if other = name then some c' else (h.call? other).map (·.sharing c') := by
    intro h₁ company hsame
    refine ⟨c, ⟨supervision, company⟩, hc, hsupervision, fun other => ?_⟩
    rw [call?_withCall ((hsame name).trans hc), hsame]
  cases m with
  | run step =>
      cases hm
      exact hcall _ _ fun other => by cases other <;> rfl
  | _ =>
      cases hm
      exact hcall _ _ fun other => by cases other <;> rfl

/-! ### What a rehearsal does -/

/-- **What a rehearsal does at once:** a move in a call, or something that no call takes part in. -/
inductive Act (h : Rehearsal) : Rehearsal → Prop where
  | move {m : Move} {name : CallName} {h' : Rehearsal} (hm : h.move? m name = some h') : Act h h'
  | aside {h' : Rehearsal} (hcalls : ∀ name, h'.call? name = h.call? name)
      (hearlier : h'.earlier.length = h.earlier.length) : Act h h'

/-- **What a rehearsal does in some time.** -/
def Plays : Rehearsal → Rehearsal → Prop := Relation.ReflTransGen Act

theorem Plays.refl : Plays h h := Relation.ReflTransGen.refl

theorem Plays.trans (h₁₂ : Plays h h₁) (h₂₃ : Plays h₁ h₂) : Plays h h₂ :=
  Relation.ReflTransGen.trans h₁₂ h₂₃

theorem plays_of_move? (hm : h.move? m name = some h') : Plays h h' :=
  Relation.ReflTransGen.single (.move hm)

theorem plays_move (h : Rehearsal) (m : Move) (name : CallName) : Plays h (h.move m name) := by
  unfold move
  cases hm : h.move? m name with
  | none => exact .refl
  | some h' => exact plays_of_move? hm

/-- Rendering the inputs changes what they are rendered from, and nothing else. -/
theorem plays_rendered (h : Rehearsal) (r : Runner) : Plays h (h.rendered r).2 :=
  Relation.ReflTransGen.single (.aside (fun name => by cases name <;> rfl) rfl)

theorem plays_hasChanged (h : Rehearsal) : Plays h h.hasChanged.2 := by
  unfold hasChanged
  split
  · exact plays_rendered h _
  · exact .refl

/-- What every one of several things does, all of them do. -/
theorem plays_foldl {α : Type} {f : Rehearsal → α → Rehearsal} (hf : ∀ h a, Plays h (f h a))
    (as : List α) (h : Rehearsal) : Plays h (as.foldl f h) := by
  induction as generalizing h with
  | nil => exact .refl
  | cons a as ih => exact (hf h a).trans (ih (f h a))

/-- What every one of several things does, the first one does that is possible. -/
theorem plays_of_firstM {α : Type} {f : α → Option Rehearsal}
    (hf : ∀ a h', f a = some h' → Plays h h') {as : List α} (h' : Rehearsal)
    (has : as.firstM f = some h') : Plays h h' := by
  induction as with
  | nil => cases has
  | cons a as ih =>
      rw [List.firstM] at has
      rcases (Option.orElse_eq_some _ _ _).1 has with hfirst | ⟨-, hrest⟩
      · exact hf a h' hfirst
      · exact ih hrest

/-! ### Steps of a rehearsal -/

theorem plays_of_exit? {actor : Nat} {status : Int} (hexit : h.exit? actor status = some h') :
    Plays h h' := by
  obtain ⟨name, -, hname⟩ := List.exists_of_findSome?_eq_some hexit
  obtain ⟨c, -, hname⟩ := Option.bind_eq_some_iff.1 hname
  obtain ⟨child, -, hm⟩ := Option.bind_eq_some_iff.1 hname
  exact plays_of_move? hm

theorem plays_of_postNext? (hpost : h.postNext? = some h') : Plays h h' :=
  plays_of_firstM (fun _ => plays_of_firstM fun _ _ => plays_of_move?) h' hpost

theorem plays_of_stepNext? (hstep : h.stepNext? name = some h') : Plays h h' := by
  obtain ⟨c, -, hstep⟩ := Option.bind_eq_some_iff.1 hstep
  dsimp only at hstep
  split at hstep
  · exact (plays_rendered h c.runner).trans (plays_of_move? hstep)
  · split at hstep <;> exact plays_of_move? hstep
  · exact plays_of_move? hstep
  · exact plays_of_move? hstep
  · exact plays_of_move? hstep
  · exact plays_of_move? hstep
  · exact plays_of_move? hstep
  · exact plays_of_move? hstep
  · cases hstep
  · cases hstep

theorem plays_of_expire? (hexpire : h.expire? name = some h') : Plays h h' := by
  obtain ⟨c, -, hexpire⟩ := Option.bind_eq_some_iff.1 hexpire
  obtain ⟨h₁, hm, hexpire⟩ := Option.bind_eq_some_iff.1 hexpire
  split at hexpire
  · exact (plays_of_move? hm).trans (plays_of_exit? hexpire)
  · cases hexpire
    exact plays_of_move? hm

theorem plays_of_ring? {alarm : Alarm} (hring : h.ring? alarm = some h') : Plays h h' := by
  cases alarm with
  | exit n status => exact plays_of_exit? hring
  | expire name => exact plays_of_expire? hring
  | abandon name => exact plays_of_move? hring
  | poll name =>
      obtain ⟨c, -, hring⟩ := Option.bind_eq_some_iff.1 hring
      split at hring
      · exact (plays_rendered h c.runner).trans (plays_of_move? hring)
      · exact plays_of_move? hring

theorem plays_of_next? (hnext : h.next? = some h') : Plays h h' := by
  unfold next? at hnext
  rcases (Option.orElse_eq_some _ _ _).1 hnext with hpost | ⟨-, hnext⟩
  · exact plays_of_postNext? hpost
  rcases (Option.orElse_eq_some _ _ _).1 hnext with hstep | ⟨-, hnext⟩
  · exact plays_of_firstM (fun _ _ => plays_of_stepNext?) h' hstep
  rcases (Option.orElse_eq_some _ _ _).1 hnext with hmove | ⟨-, hring⟩
  · exact plays_of_firstM (fun _ => plays_of_firstM fun _ _ => plays_of_move?) h' hmove
  · exact plays_of_firstM (fun _ _ => plays_of_ring?) h' hring

theorem plays_settleFor (fuel : Nat) (h : Rehearsal) : Plays h (settleFor fuel h) := by
  induction fuel generalizing h with
  | zero => exact .refl
  | succ fuel ih =>
      rw [settleFor]
      split
      · next h₁ hnext => exact (plays_of_next? hnext).trans (ih h₁)
      · exact .refl

/-- **Settling is made of moves.** -/
theorem plays_settle (h : Rehearsal) : Plays h h.settle := plays_settleFor _ h

theorem plays_deliver (h : Rehearsal) : Plays h h.deliver :=
  plays_foldl (fun h _ => plays_foldl (fun h name => plays_move h _ name) _ h) _ h

theorem plays_reach (h : Rehearsal) (time : Rat) : Plays h (h.reach time) :=
  (plays_foldl (fun h name => plays_move h _ name) _ h).trans (plays_settle _)

theorem plays_advanceTo (target : Rat) (fuel : Nat) (h : Rehearsal) :
    Plays h (advanceTo target fuel h) := by
  induction fuel generalizing h with
  | zero => exact plays_reach h target
  | succ fuel ih =>
      rw [advanceTo]
      split
      · next time _ => exact (plays_reach h time).trans (ih _)
      · exact plays_reach h target

/-- **The passing of time is made of moves.** -/
theorem plays_advance (h : Rehearsal) (seconds : Rat) : Plays h (h.advance seconds) :=
  plays_advanceTo _ _ h

theorem plays_ask (h : Rehearsal) (q : Request) (times : Nat) : Plays h (h.ask q times) :=
  plays_foldl (fun h _ => plays_move h _ _) _ h

theorem plays_exitNewest (h : Rehearsal) (status : Int) : Plays h (h.exitNewest status) := by
  unfold exitNewest
  cases hexit : h.exit? (h.cast.length - 1) status with
  | none => exact .refl
  | some h' => exact plays_of_exit? hexit

theorem plays_interrupt (h : Rehearsal) : Plays h h.interrupt := plays_move h _ _

/-! ### Rehearsals of one call -/

/-- A move adds no call. -/
theorem length_earlier_of_move? (hm : h.move? m name = some h') :
    h'.earlier.length = h.earlier.length := by
  obtain ⟨c, -, hm⟩ := Option.bind_eq_some_iff.1 hm
  obtain ⟨supervision, -, hm⟩ := Option.bind_eq_some_iff.1 hm
  cases m with
  | run step => cases hm; simp [withCall, withAlarms, showing]
  | _ => cases hm; simp [withCall, withAlarms]

theorem Act.length_earlier (hact : Act h h') : h'.earlier.length = h.earlier.length := by
  cases hact with
  | move hm => exact length_earlier_of_move? hm
  | aside _ hearlier => exact hearlier

/-- What a rehearsal of one call does at once is a move of it, or nothing. -/
theorem Act.exists_moves (hact : Act h h') (hsingle : h.earlier.length = 0) :
    ∃ ms, h.supervision.moves? ms = some h'.supervision := by
  cases hact with
  | aside hcalls =>
      have hlatest : h'.latest = h.latest := Option.some.inj (hcalls none)
      exact ⟨[], congrArg some (congrArg Call.supervision hlatest).symm⟩
  | @move m name _ hm =>
      obtain ⟨c, c', hc, hmove, hcalls⟩ := exists_call_of_move? hm
      cases name with
      | some i =>
          have hi : i < h.earlier.length := (List.getElem?_eq_some_iff.1 hc).1
          omega
      | none =>
          have hlatest : h'.latest = c' := Option.some.inj ((hcalls none).trans (if_pos rfl))
          obtain rfl : h.latest = c := Option.some.inj hc
          refine ⟨[m], ?_⟩
          rw [Supervision.moves?, show h.supervision.move? m = some h'.supervision by
            rw [← hlatest] at hmove; exact hmove]
          rfl

/-- **A rehearsal of one call is a run of it.** -/
theorem Plays.exists_moves (hplays : Plays h h') (hsingle : h.earlier.length = 0) :
    ∃ ms, h.supervision.moves? ms = some h'.supervision := by
  have hboth : h'.earlier.length = 0 ∧ ∃ ms, h.supervision.moves? ms = some h'.supervision := by
    induction hplays with
    | refl => exact ⟨hsingle, [], rfl⟩
    | tail _ hact ih =>
        obtain ⟨hlen, ms, hms⟩ := ih
        obtain ⟨ms', hms'⟩ := hact.exists_moves hlen
        refine ⟨hact.length_earlier.trans hlen, ms ++ ms', ?_⟩
        rw [Supervision.moves?_append, hms, Option.bind_some, hms']
  exact hboth.2

/-- **A rehearsal is a run of its latest call,** from the beginning of the call on, if there is no
other call that is not over. -/
theorem exists_moves_of_begin {runner r₀ : Runner} {company : Company} {polling : Option Polling}
    (hcall : runner.step? .call = some r₀) (hsingle : h.earlier.length = 0)
    (hover : h.latest.isOver = true) (hplays : Plays (h.begin runner company polling) h') :
    ∃ s₀ ms, polling.elim (Supervision.direct? runner) (Supervision.supervised? runner) = some s₀ ∧
      s₀.moves? ms = some h'.supervision := by
  obtain ⟨ms, hms⟩ := hplays.exists_moves
    (by simp [begin, withAlarms, leavingBehind, hover, hsingle])
  cases polling with
  | none =>
      obtain ⟨s₀, hs₀⟩ : ∃ s₀, Supervision.direct? runner = some s₀ := by
        rw [Supervision.direct?, hcall]
        exact ⟨_, rfl⟩
      refine ⟨s₀, ms, hs₀, ?_⟩
      simpa [begin, withAlarms, hs₀] using hms
  | some p =>
      obtain ⟨s₀, hs₀⟩ : ∃ s₀, Supervision.supervised? runner p = some s₀ := by
        rw [Supervision.supervised?, hcall]
        exact ⟨_, rfl⟩
      refine ⟨s₀, ms, hs₀, ?_⟩
      simpa [begin, withAlarms, hs₀] using hms

end Rehearsal

end Command

end InlineSecrets
