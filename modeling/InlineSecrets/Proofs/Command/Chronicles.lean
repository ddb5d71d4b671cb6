/-
**Chronicles.**

What a run has done and seen since it last began to render its inputs is written down in a
chronicle: the results of rendering and starting, the messages it has taken with their times, when
it gave up on its child, and what it threw away when the child was done with.  The chronicle tells
the course of the last child, without a look at the phases that the run has gone through.

An exit is seen when its notice is taken before the runner gives up on the child.  The runner gives
up when the time of grace is over and the mailbox is empty.  So no notice that has been put there by
then is missed.  One that is put there later may still count: behind a message that was waiting when
the time of grace ran out, or when the runner wakes up late.

Main definitions:

* `InlineSecrets.Command.Chronicle`, `InlineSecrets.Command.Chronicle.along` — the chronicle of a
  run;
* `InlineSecrets.Command.Course`, `InlineSecrets.Command.Chronicle.course?` — **the course of the
  last child;**
* `InlineSecrets.Command.Chronicle.GaveUp`, `InlineSecrets.Command.Chronicle.Late` — when a runner
  gives up on a child, and why an exit may be seen behind the end of the time of grace;
* `InlineSecrets.Command.Chronicle.Tells` — how a chronicle belongs to a phase.

Main results:

* `InlineSecrets.Command.Runner.Transition.exitStatus?` — a child keeps the status with which it has
  exited;
* `InlineSecrets.Command.Chronicle.Tells.transition` — **the chronicle goes on to belong to the
  phase.**
-/

import InlineSecrets.Proofs.Command.Children
import InlineSecrets.Proofs.Command.Isolation
import Mathlib.Algebra.Order.Ring.Unbundled.Rat

set_option relaxedAutoImplicit false
set_option autoImplicit false

namespace InlineSecrets

namespace Command

/-! ### Exit statuses -/

namespace Runner

variable {r r' : Runner} {s : Step} {n : Nat} {status : Int}

/-- The exit status of a child, if it has exited. -/
def exitStatus? (r : Runner) (n : Nat) : Option Int := r.children[n]?.bind Child.status

theorem statusOf_of_exitStatus? (h : r.exitStatus? n = some status) : r.statusOf n = status := by
  rw [statusOf, ← exitStatus?, h, Option.getD_some]

theorem HasExited.exists_exitStatus? (h : r.HasExited n) :
    ∃ status, r.exitStatus? n = some status := by
  obtain ⟨hlt, hlive⟩ := h
  rw [isAlive, List.getElem?_eq_getElem hlt, Option.any_some, Child.isAlive,
    Option.isNone_eq_false_iff] at hlive
  rw [exitStatus?, List.getElem?_eq_getElem hlt]
  exact Option.isSome_iff_exists.1 hlive

/-- A change of a child that keeps the status of one that has exited. -/
theorem exitStatus?_of_modify {f : Child → Child} {k : Nat}
    (hr : r'.children = r.children.modify k f)
    (hf : k = n → ∀ c, r.children[n]? = some c → c.status = some status →
      (f c).status = some status)
    (h : r.exitStatus? n = some status) : r'.exitStatus? n = some status := by
  obtain ⟨c, hc, hstatus⟩ := Option.bind_eq_some_iff.1 h
  rw [exitStatus?, hr, List.getElem?_modify, hc]
  by_cases hk : k = n
  · simpa [hk] using hf hk c hc hstatus
  · simpa [hk] using hstatus

/-- **A child keeps the status with which it has exited.** -/
theorem Transition.exitStatus? (hs : Transition r s r') (h : r.exitStatus? n = some status) :
    r'.exitStatus? n = some status := by
  cases hs with
  | start =>
      obtain ⟨c, hc, hstatus⟩ := Option.bind_eq_some_iff.1 h
      rw [Runner.exitStatus?, List.getElem?_append_left (List.getElem?_eq_some_iff.1 hc).1, hc]
      exact hstatus
  | record | post => exact exitStatus?_of_modify rfl (fun _ _ _ hstatus => hstatus) h
  | exit hlive =>
      refine exitStatus?_of_modify rfl ?_ h
      rintro rfl c hc hstatus
      -- the child that exits had not exited
      rw [Runner.isAlive, hc, Option.any_some, Child.isAlive, hstatus] at hlive
      cases hlive
  | _ => exact h

/-- Whether time goes on beyond the end of the time of grace while a child is waited for that was
asked to go. -/
def overruns (r : Runner) (time : Rat) : Bool :=
  match r.phase with
  | .cancelling _ _ _ (some deadline) => deadline < time
  | _ => false

end Runner

/-! ### Chronicles -/

/-- What a run has done and seen since it last began to render its inputs: the result of that, the
child it started, the messages it took with the times of that, when the notice of the exit of the
child was put into the mailbox, when it gave up on the child, whether it was interrupted, and the
messages it threw away; and what was in the mailbox whenever time went on beyond the end of the time
of grace. -/
structure Chronicle where
  rendered : Option (Except RenderFault Inputs) := none
  started : Option (Except StartFault Nat) := none
  read : List (Rat × Message) := []
  noticed : Option Rat := none
  gaveUp : Option Rat := none
  interrupted : Bool := false
  discarded : List Message := []
  passed : List (List Message) := []
  deriving Repr

/-- The course of the last child. -/
inductive Course where
  /-- The inputs could not be rendered. -/
  | unrendered (fault : RenderFault)
  /-- The child could not be started. -/
  | unstarted (name : Text) (fault : StartFault)
  | interrupted
  /-- The notice of its exit was taken before any request. -/
  | exited (status : Int)
  /-- It was asked to go, and the notice of its exit was taken; whether a stop was taken or
  pending. -/
  | cancelled (status : Int) (stop : Bool)
  /-- It was asked to go, and no notice of its exit was taken. -/
  | overdue
  deriving DecidableEq, Repr

/-- **What follows from the course of a child.** -/
def Course.phase (r : Runner) : Course → Phase
  | unrendered f => .returned (.failed (.rendering f))
  | unstarted name f => .returned (.failed (.starting name f))
  | interrupted => .returned .interrupted
  | exited status =>
      if status = 0 then .returned .finished
      else .returned (.failed (.failed r.given.name status))
  | cancelled status stop =>
      if status ∈ cancelledStatuses then if stop then .returned .stopped else .rendering
      else .returned (.failed (.cancelled r.given.name status))
  | overdue => .returned (.failed (.overdue r.given.name r.grace))

namespace Chronicle

variable {c : Chronicle} {r r' : Runner} {s : Step} {n : Nat} {ending : Ending}

/-- The child that was started, if one was. -/
def child? (c : Chronicle) : Option Nat := c.started.bind Except.toOption

/-- The chronicle behind a step that is taken in state `r`. -/
def note (c : Chronicle) (r : Runner) : Step → Chronicle
  | .render result => { rendered := some result }
  | .start result => { c with started := some (result.map fun _ => r.children.length) }
  | .take => { c with read := c.read ++ (r.mailbox.head?.map fun m => (r.now, m)).toList }
  | .expire => { c with gaveUp := some r.now }
  | .interrupt => { c with interrupted := true }
  | .drain => { c with discarded := c.discarded ++ r.mailbox.head?.toList }
  | .post n => if c.child? = some n then { c with noticed := some r.now } else c
  | .tick time => if r.overruns time then { c with passed := c.passed ++ [r.mailbox] } else c
  | _ => c

/-- **The chronicle behind several steps.** -/
def along (c : Chronicle) : Runner → List Step → Chronicle
  | _, [] => c
  | r, s :: ss =>
      match r.step? s with
      | some r' => (c.note r s).along r' ss
      | none => c

/-- The messages that were taken and are not notices of other children. -/
def mail (c : Chronicle) (n : Nat) : List (Rat × Message) := c.read.filter fun p => p.2.isFor n

/-- **The course of the last child,** as far as the chronicle tells it. -/
def course? (c : Chronicle) (r : Runner) : Option Course :=
  match c.rendered, c.started with
  | some (.error f), _ => some (.unrendered f)
  | some (.ok inputs), some (.error f) => some (.unstarted inputs.name f)
  | some (.ok _), some (.ok n) =>
      if c.interrupted then some .interrupted
      else match (c.mail n).map Prod.snd with
        | [] => none
        | .exited _ :: _ => (r.exitStatus? n).map .exited
        | .request _ :: ms =>
            if .exited n ∈ ms then
              (r.exitStatus? n).map fun status =>
                .cancelled status (.request .stop ∈ (c.mail n).map Prod.snd ++ c.discarded)
            else some .overdue
  | _, _ => none

/-! ### How a chronicle belongs to a phase -/

/-- Child `n` was started with inputs that were rendered. -/
structure Started (c : Chronicle) (n : Nat) : Prop where
  rendered : ∃ inputs, c.rendered = some (.ok inputs)
  started : c.started = some (.ok n)

theorem Started.child?_eq (h : c.Started n) : c.child? = some n := by
  rw [child?, h.started]
  rfl

/-- Child `n` was started, and nothing has ended since. -/
structure Watches (c : Chronicle) (n : Nat) : Prop extends c.Started n where
  interrupted_eq : c.interrupted = false
  discarded_eq : c.discarded = []

/-- A notice of the exit of child `n` that was put into the mailbox is still there. -/
def Keeps (c : Chronicle) (r : Runner) (n : Nat) : Prop :=
  c.noticed.isSome → .exited n ∈ r.mailbox

/-- The runner waits for child `n`, on which it has not given up. -/
structure Awaits (c : Chronicle) (r : Runner) (n : Nat) : Prop extends c.Watches n where
  keeps : c.Keeps r n
  gaveUp_eq : c.gaveUp = none

/-- Child `n` was asked to go because of a request that was taken at a time, before any notice of
its exit; `ms` is what was taken behind that. -/
def AsksFor (c : Chronicle) (n : Nat) (t : Rat) (q : Request) (ms : List (Rat × Message)) : Prop :=
  c.mail n = (t, .request q) :: ms ∧ .exited n ∉ ms.map Prod.snd

/-- A time that lies within the time of grace which begins at `t`, or is `t`. -/
def InGrace (r : Runner) (t e : Rat) : Prop := ∀ deadline ∈ after t r.grace, e ≤ deadline ∨ e = t

/-- Something was still to be taken when time went on beyond the end of the time of grace. -/
def Crowded (c : Chronicle) : Prop := ∃ ms ∈ c.passed, ms ≠ []

/-- Nothing was to be taken when time went on beyond the end of the time of grace: the runner did
not wake up in time to give up. -/
def Overslept (c : Chronicle) : Prop := [] ∈ c.passed

/-- Why an exit may be seen behind the end of the time of grace. -/
def Late (c : Chronicle) : Prop := c.Crowded ∨ c.Overslept

/-- **When the runner gave up on a child** that was asked to go at time `t`: the time of grace was
over, and no notice of the exit of the child had been put into the mailbox. -/
structure GaveUp (c : Chronicle) (r : Runner) (t d : Rat) : Prop where
  gaveUp_eq : c.gaveUp = some d
  ran_out : ∃ deadline ∈ after t r.grace, deadline ≤ d
  unnoticed : ∀ e ∈ c.noticed, d ≤ e
  le_now : d ≤ r.now

/-- How a child has ended, and what follows from that as far as it is known before the mailbox has
been emptied. -/
inductive Ended (c : Chronicle) (r : Runner) (n : Nat) : Ending → Prop where
  | exited {t : Rat} {status : Int} (huninterrupted : c.interrupted = false)
      (hmail : c.mail n = [(t, .exited n)]) (hstatus : r.exitStatus? n = some status)
      (hgaveUp : c.gaveUp = none) : Ended c r n (r.endingOfExit status)
  | cancelled {t e : Rat} {q : Request} {ms : List (Rat × Message)} {status : Int} {seen : Bool}
      (huninterrupted : c.interrupted = false)
      (hmail : c.mail n = (t, .request q) :: ms ++ [(e, .exited n)])
      (hstatus : r.exitStatus? n = some status)
      (hseen : seen = true ↔ .request .stop ∈ ms.map Prod.snd)
      (hgrace : InGrace r t e ∨ c.Late) (hgaveUp : c.gaveUp = none) :
      Ended c r n (r.endingOfCancel q seen status)
  | overdue {t d : Rat} {q : Request} {ms : List (Rat × Message)}
      (huninterrupted : c.interrupted = false) (hasks : c.AsksFor n t q ms)
      (hgaveUp : c.GaveUp r t d) : Ended c r n (.ended (.failed (.overdue r.given.name r.grace)))
  | interrupted (hinterrupted : c.interrupted = true) : Ended c r n (.ended .interrupted)

/-- Child `n` is done with, and the run is in the phase that follows from how it has ended. -/
def Closed (c : Chronicle) (r : Runner) (n : Nat) (p : Phase) : Prop :=
  c.Started n ∧ ∃ ending, c.Ended r n ending ∧
    p = Runner.phaseAfterDrain ending (.request .stop ∈ c.discarded)

/-- **How a chronicle belongs to a phase.** -/
inductive Tells (c : Chronicle) (r : Runner) : Phase → Prop where
  | rendering (h : c = {}) : Tells c r .rendering
  | again {n : Nat} (h : c.Closed r n .rendering) : Tells c r .rendering
  | starting {inputs : Inputs} (h : c = { rendered := some (.ok inputs) }) :
      Tells c r (.starting inputs)
  | recording {n : Nat} {inputs : Inputs}
      (h : c =
        { rendered := some (.ok inputs), started := some (.ok n), noticed := c.noticed })
      (hkeeps : c.Keeps r n) : Tells c r (.recording n inputs)
  | awaiting {n : Nat} (hn : c.Awaits r n) (hmail : c.mail n = []) : Tells c r (.awaiting n)
  | cancelling {n : Nat} {t : Rat} {q : Request} {ms : List (Rat × Message)} {seen : Bool}
      (hn : c.Awaits r n) (hasks : c.AsksFor n t q ms)
      (hseen : seen = true ↔ .request .stop ∈ ms.map Prod.snd)
      (hgrace : InGrace r t r.now ∨ c.Late) : Tells c r (.cancelling n q seen (after t r.grace))
  | reaping {n : Nat} {t d : Rat} {q : Request} {ms : List (Rat × Message)}
      (hn : c.Watches n) (hasks : c.AsksFor n t q ms) (hgaveUp : c.GaveUp r t d) :
      Tells c r (.reaping n)
  | closing {n : Nat} {ending : Ending} (hn : c.Started n) (hended : c.Ended r n ending)
      (hdiscarded : c.discarded = []) : Tells c r (.closing ending)
  | draining {n : Nat} {ending : Ending} {stopPending : Bool} (hn : c.Started n)
      (hended : c.Ended r n ending) (hpending : stopPending = true ↔ .request .stop ∈ c.discarded) :
      Tells c r (.draining ending stopPending)
  | returned {n : Nat} {outcome : Outcome} (h : c.Closed r n (.returned outcome)) :
      Tells c r (.returned outcome)
  | unrendered {f : RenderFault} (h : c.rendered = some (.error f)) :
      Tells c r (.returned (.failed (.rendering f)))
  | unstarted {inputs : Inputs} {f : StartFault} (hrendered : c.rendered = some (.ok inputs))
      (h : c.started = some (.error f)) : Tells c r (.returned (.failed (.starting inputs.name f)))

/-! ### Steps that other parties take -/

/-- As far as what it has come to is concerned, a runner has only become older. -/
structure Follows (r r' : Runner) : Prop where
  given_eq : r'.given = r.given
  grace_eq : r'.grace = r.grace
  exitStatus? : ∀ n status, r.exitStatus? n = some status → r'.exitStatus? n = some status
  now_le : r.now ≤ r'.now

theorem InGrace.of_follows {t e : Rat} (h : InGrace r t e) (hr : Follows r r') :
    InGrace r' t e := by
  rw [InGrace, hr.grace_eq]
  exact h

theorem GaveUp.of_follows {t d : Rat} (h : c.GaveUp r t d) (hr : Follows r r') :
    c.GaveUp r' t d where
  gaveUp_eq := h.gaveUp_eq
  ran_out := hr.grace_eq ▸ h.ran_out
  unnoticed := h.unnoticed
  le_now := h.le_now.trans hr.now_le

/-- What a child has come to stays so when only the runner changes, and not what the runner is given
nor the status of the child. -/
theorem Ended.of_follows (h : c.Ended r n ending) (hr : Follows r r') : c.Ended r' n ending := by
  cases h with
  | exited huninterrupted hmail hexited hgaveUp =>
      have h := Ended.exited huninterrupted hmail (hr.exitStatus? _ _ hexited) hgaveUp
      rwa [Runner.endingOfExit, hr.given_eq] at h
  | @cancelled t e q ms status seen huninterrupted hmail hexited hseen hgrace hgaveUp =>
      have h := Ended.cancelled (q := q) huninterrupted hmail (hr.exitStatus? _ _ hexited) hseen
        (hgrace.imp_left (·.of_follows hr)) hgaveUp
      rwa [Runner.endingOfCancel, hr.given_eq] at h
  | overdue huninterrupted hasks hgaveUp =>
      have h := Ended.overdue huninterrupted hasks (hgaveUp.of_follows hr)
      rwa [hr.given_eq, hr.grace_eq] at h
  | interrupted hinterrupted => exact .interrupted hinterrupted

/-- What is thrown away does not matter for how a child has ended. -/
theorem Ended.discard (h : c.Ended r n ending) (ms : List Message) :
    { c with discarded := ms }.Ended r n ending := by
  cases h with
  | exited huninterrupted hmail hstatus hgaveUp =>
      exact .exited huninterrupted hmail hstatus hgaveUp
  | cancelled huninterrupted hmail hstatus hseen hgrace hgaveUp =>
      exact .cancelled huninterrupted hmail hstatus hseen hgrace hgaveUp
  | overdue huninterrupted hasks hgaveUp =>
      exact .overdue huninterrupted hasks
        ⟨hgaveUp.gaveUp_eq, hgaveUp.ran_out, hgaveUp.unnoticed, hgaveUp.le_now⟩
  | interrupted hinterrupted => exact .interrupted hinterrupted

theorem Closed.of_follows {p : Phase} (h : c.Closed r n p) (hr : Follows r r') :
    c.Closed r' n p := by
  obtain ⟨hn, ending, hended, hp⟩ := h
  exact ⟨hn, ending, hended.of_follows hr, hp⟩

theorem Awaits.of_mailbox (h : c.Awaits r n)
    (hmail : .exited n ∈ r.mailbox → .exited n ∈ r'.mailbox) : c.Awaits r' n :=
  ⟨h.toWatches, fun hnoticed => hmail (h.keeps hnoticed), h.gaveUp_eq⟩

/-- A chronicle belongs to a phase as long as only the runner changes, and no message is taken,
unless time passes while a child is waited for until then. -/
theorem Tells.of_follows {p : Phase} (h : c.Tells r p) (hr : Follows r r')
    (hmail : ∀ m ∈ r.mailbox, m ∈ r'.mailbox)
    (hnow : r'.now = r.now ∨ ∀ n q seen d, p ≠ .cancelling n q seen (some d)) :
    c.Tells r' p := by
  cases h with
  | rendering h => exact .rendering h
  | again h => exact .again (h.of_follows hr)
  | starting h => exact .starting h
  | recording h hkeeps => exact .recording h fun hnoticed => hmail _ (hkeeps hnoticed)
  | awaiting hn hms => exact .awaiting (hn.of_mailbox (hmail _)) hms
  | @cancelling n t q ms seen hn hasks hseen hgrace =>
      rw [← hr.grace_eq] at hnow ⊢
      refine .cancelling (hn.of_mailbox (hmail _)) hasks hseen (hgrace.imp_left fun h => ?_)
      intro deadline hdeadline
      rcases hnow with hnow | hnow
      · rw [hnow]
        exact h.of_follows hr deadline hdeadline
      · exact absurd (congrArg _ hdeadline) (hnow n q seen deadline)
  | reaping hn hasks hgaveUp => exact .reaping hn hasks (hgaveUp.of_follows hr)
  | closing hn hended hdiscarded => exact .closing hn (hended.of_follows hr) hdiscarded
  | draining hn hended hpending => exact .draining hn (hended.of_follows hr) hpending
  | returned h => exact .returned (h.of_follows hr)
  | unrendered h => exact .unrendered h
  | unstarted hrendered h => exact .unstarted hrendered h

/-- That its notice comes does not matter for how a child has ended. -/
theorem Ended.notice (h : c.Ended r n ending) :
    { c with noticed := some r.now }.Ended r n ending := by
  cases h with
  | exited huninterrupted hmail hstatus hgaveUp =>
      exact .exited huninterrupted hmail hstatus hgaveUp
  | cancelled huninterrupted hmail hstatus hseen hgrace hgaveUp =>
      exact .cancelled huninterrupted hmail hstatus hseen hgrace hgaveUp
  | overdue huninterrupted hasks hgaveUp =>
      refine .overdue huninterrupted hasks ⟨hgaveUp.gaveUp_eq, hgaveUp.ran_out, ?_, hgaveUp.le_now⟩
      rintro e ⟨⟩
      exact hgaveUp.le_now
  | interrupted hinterrupted => exact .interrupted hinterrupted

/-- The notice of the exit of the child has been put into the mailbox. -/
theorem Tells.notice {p : Phase} {k : Nat} (h : c.Tells r p) (hk : c.child? = some k)
    (hmail : .exited k ∈ r.mailbox) : { c with noticed := some r.now }.Tells r p := by
  have hkeeps : ∀ {n}, c.Started n → .exited n ∈ r.mailbox := by
    intro n hn
    obtain rfl := Option.some.inj (hn.child?_eq.symm.trans hk)
    exact hmail
  have hclosed : ∀ {n p}, c.Closed r n p →
      { c with noticed := some r.now }.Closed r n p := by
    rintro n p ⟨hn, ending, hended, hp⟩
    exact ⟨⟨hn.rendered, hn.started⟩, ending, hended.notice, hp⟩
  cases h with
  | rendering h | starting h =>
      rw [h] at hk
      cases hk
  | again h => exact .again (hclosed h)
  | @recording n inputs h =>
      refine .recording (by rw [h]) fun _ => ?_
      rw [h] at hk
      cases hk
      exact hmail
  | awaiting hn hms =>
      exact .awaiting ⟨⟨⟨hn.rendered, hn.started⟩, hn.interrupted_eq, hn.discarded_eq⟩,
        fun _ => hkeeps hn.toStarted, hn.gaveUp_eq⟩ hms
  | cancelling hn hasks hseen hgrace =>
      exact .cancelling ⟨⟨⟨hn.rendered, hn.started⟩, hn.interrupted_eq, hn.discarded_eq⟩,
        fun _ => hkeeps hn.toStarted, hn.gaveUp_eq⟩ hasks hseen hgrace
  | reaping hn hasks hgaveUp =>
      refine .reaping ⟨⟨hn.rendered, hn.started⟩, hn.interrupted_eq, hn.discarded_eq⟩ hasks
        ⟨hgaveUp.gaveUp_eq, hgaveUp.ran_out, ?_, hgaveUp.le_now⟩
      rintro e ⟨⟩
      exact hgaveUp.le_now
  | closing hn hended hdiscarded =>
      exact .closing ⟨hn.rendered, hn.started⟩ hended.notice hdiscarded
  | draining hn hended hpending =>
      exact .draining ⟨hn.rendered, hn.started⟩ hended.notice hpending
  | returned h => exact .returned (hclosed h)
  | unrendered h => exact .unrendered h
  | unstarted hrendered h => exact .unstarted hrendered h

/-- A notice is put into the mailbox. -/
theorem Tells.post {k : Nat} (h : c.Tells r r.phase) (hs : Runner.Transition r (.post k) r') :
    (c.note r (.post k)).Tells r' r'.phase := by
  have hstep := hs
  cases hs with
  | post =>
      have hfollows : Follows r { r with
          mailbox := r.mailbox ++ [.exited k]
          children := r.children.modify k fun c => { c with notice := .delivered } } :=
        ⟨rfl, rfl, fun _ _ => hstep.exitStatus?, le_refl _⟩
      have htells := h.of_follows hfollows (fun m hm => List.mem_append_left _ hm) (Or.inl rfl)
      rw [note]
      split
      · next hk => exact htells.notice hk (List.mem_append_right _ List.mem_cons_self)
      · exact htells

/-- Time passes. -/
theorem Tells.tick {time : Rat} (h : c.Tells r r.phase) (htime : r.now ≤ time) :
    (c.note r (.tick time)).Tells { r with now := time } r.phase := by
  cases hp : r.phase with
  | cancelling n q seen deadline =>
      rw [hp] at h
      cases h with
      | @cancelling _ t _ ms _ hn hasks hseen hgrace =>
          rw [note]
          split
          · refine .cancelling ⟨⟨⟨hn.rendered, hn.started⟩, hn.interrupted_eq, hn.discarded_eq⟩,
              hn.keeps, hn.gaveUp_eq⟩ hasks hseen (Or.inr ?_)
            by_cases hbox : r.mailbox = []
            · exact Or.inr (by simp [Overslept, hbox])
            · exact Or.inl ⟨r.mailbox, by simp, hbox⟩
          · next hoverruns =>
              refine .cancelling ⟨hn.toWatches, hn.keeps, hn.gaveUp_eq⟩ hasks hseen (Or.inl ?_)
              -- time has not passed the end of the time of grace
              intro deadline hdeadline
              rw [Runner.overruns, hp,
                show after t r.grace = some deadline from hdeadline] at hoverruns
              exact Or.inl (Rat.not_lt.1 (by simpa using hoverruns))
  | _ =>
      rw [note, if_neg (by rw [Runner.overruns, hp]; exact Bool.false_ne_true)]
      rw [hp] at h
      refine h.of_follows ⟨rfl, rfl, fun _ _ h => h, htime⟩ (fun _ hm => hm)
        (Or.inr fun n q seen d => ?_)
      exact Phase.noConfusion

/-! ### Messages that are taken -/

theorem note_take {m : Message} {rest : List Message} (hm : r.mailbox = m :: rest) :
    c.note r .take = { c with read := c.read ++ [(r.now, m)] } := by
  rw [note, hm]
  rfl

/-- A message that is not a notice of another child is put to the others. -/
theorem mail_note_take {m : Message} {rest : List Message} (hm : r.mailbox = m :: rest)
    (hfor : m.isFor n = true) : (c.note r .take).mail n = c.mail n ++ [(r.now, m)] := by
  simp [note_take hm, mail, hfor]

theorem mail_note_take_stale {k : Nat} {rest : List Message} (hm : r.mailbox = .exited k :: rest)
    (hk : k ≠ n) : (c.note r .take).mail n = c.mail n := by
  simp [note_take hm, mail, Message.isFor, hk]

theorem Watches.note_take (h : c.Watches n) (r : Runner) : (c.note r .take).Watches n :=
  ⟨⟨h.rendered, h.started⟩, h.interrupted_eq, h.discarded_eq⟩

/-- The runner goes on to wait for its child when another message is taken. -/
theorem Awaits.note_take (h : c.Awaits r n) {m : Message} {rest : List Message}
    (hm : r.mailbox = m :: rest) (hne : m ≠ .exited n) (p : Phase) :
    (c.note r .take).Awaits { r with mailbox := rest, phase := p } n := by
  refine ⟨h.toWatches.note_take r, fun hnoticed => ?_, h.gaveUp_eq⟩
  have hkept := h.keeps hnoticed
  rw [hm, List.mem_cons] at hkept
  exact hkept.resolve_left (Ne.symm hne)

/-- A message is taken. -/
theorem Tells.take (h : c.Tells r r.phase)
    (hexited : ∀ {n}, .exited n ∈ r.mailbox → r.HasExited n)
    (hs : Runner.Transition r .take r') : (c.note r .take).Tells r' r'.phase := by
  have hfollows : ∀ rest p, Follows r { r with mailbox := rest, phase := p } :=
    fun _ _ => ⟨rfl, rfl, fun _ _ h => h, le_refl _⟩
  cases hs with
  | @takeExit n rest hp hbox =>
      rw [hp] at h
      cases h with
      | awaiting hn hmail =>
          have hn' := hn.toWatches.note_take r
          obtain ⟨status, hst⟩ := (hexited (hbox ▸ List.mem_cons_self)).exists_exitStatus?
          have hmail' : (c.note r .take).mail n = [(r.now, .exited n)] := by
            rw [mail_note_take hbox (by simp [Message.isFor]), hmail, List.nil_append]
          rw [Runner.statusOf_of_exitStatus? hst]
          refine .closing hn'.toStarted ?_ hn'.discarded_eq
          exact (Ended.exited hn'.interrupted_eq hmail' hst hn.gaveUp_eq).of_follows
            (hfollows _ _)
  | @takeStale n k rest hp hk hbox =>
      have hmail' : (c.note r .take).mail n = c.mail n := mail_note_take_stale hbox hk
      have hne : Message.exited k ≠ .exited n := fun heq => hk (Message.exited.inj heq)
      dsimp only
      rcases hp with hp | ⟨q, seen, deadline, hp⟩
      · rw [hp] at h ⊢
        cases h with
        | awaiting hn hmail => exact .awaiting (hn.note_take hbox hne _) (hmail'.trans hmail)
      · rw [hp] at h ⊢
        cases h with
        | cancelling hn hasks hseen hgrace =>
            rw [AsksFor, ← hmail'] at hasks
            exact .cancelling (hn.note_take hbox hne _) hasks hseen hgrace
  | @takeRequest n q rest hp hbox =>
      rw [hp] at h
      cases h with
      | awaiting hn hmail =>
          have hmail' : (c.note r .take).mail n = [(r.now, .request q)] := by
            rw [mail_note_take hbox rfl, hmail, List.nil_append]
          refine .cancelling (hn.note_take hbox Message.noConfusion _)
            ⟨hmail', List.not_mem_nil⟩ (by simp) ?_
          exact Or.inl fun _ _ => Or.inr rfl
  | @takeCancelled n q seen deadline rest hp hbox =>
      rw [hp] at h
      cases h with
      | @cancelling _ t _ ms _ hn hasks hseen hgrace =>
          have hn' := hn.toWatches.note_take r
          obtain ⟨status, hst⟩ := (hexited (hbox ▸ List.mem_cons_self)).exists_exitStatus?
          have hmail' : (c.note r .take).mail n =
              (t, .request q) :: ms ++ [(r.now, .exited n)] := by
            rw [mail_note_take hbox (by simp [Message.isFor]), hasks.1]
          rw [Runner.statusOf_of_exitStatus? hst]
          refine .closing hn'.toStarted ?_ hn'.discarded_eq
          exact (Ended.cancelled hn'.interrupted_eq hmail' hst hseen hgrace
            hn.gaveUp_eq).of_follows (hfollows _ _)
  | @takeFurther n q q' seen deadline rest hp hbox =>
      rw [hp] at h
      cases h with
      | @cancelling _ t _ ms _ hn hasks hseen hgrace =>
          have hmail' : (c.note r .take).mail n =
              (t, .request q) :: (ms ++ [(r.now, .request q')]) := by
            rw [mail_note_take hbox rfl, hasks.1, List.cons_append]
          refine .cancelling (hn.note_take hbox Message.noConfusion _) ⟨hmail', ?_⟩ ?_ hgrace
          · simpa using hasks.2
          · simp only [Bool.or_eq_true, hseen, decide_eq_true_eq, List.map_append, List.map_cons,
              List.map_nil, List.mem_append, List.mem_singleton, Message.request.injEq]
            exact or_congr_right eq_comm

/-! ### The steps of a run -/

/-- The mailbox is being emptied, or is found empty. -/
theorem Tells.drain (h : c.Tells r r.phase) (hs : Runner.Transition r .drain r') :
    (c.note r .drain).Tells r' r'.phase := by
  cases hs with
  | @drain ending stopPending m rest hp hbox =>
      rw [hp] at h
      cases h with
      | draining hn hended hpending =>
          have hnote : c.note r .drain = { c with discarded := c.discarded ++ [m] } := by
            rw [note, hbox]
            rfl
          rw [hnote]
          refine .draining ⟨hn.rendered, hn.started⟩
            ((hended.discard _).of_follows ⟨rfl, rfl, fun _ _ h => h, le_refl _⟩) ?_
          simp only [Bool.or_eq_true, hpending, decide_eq_true_eq, List.mem_append,
            List.mem_singleton]
          exact or_congr_right eq_comm
  | @drained ending stopPending hp hbox =>
      rw [hp] at h
      cases h with
      | @draining n _ _ hn hended hpending =>
          have hnote : c.note r .drain = c := by
            rw [note, hbox, List.head?_nil, Option.toList_none, List.append_nil]
          have hclosed : ∀ p, p = Runner.phaseAfterDrain ending stopPending →
              c.Closed { r with phase := p } n p := by
            rintro p rfl
            refine ⟨hn, ending, hended.of_follows ⟨rfl, rfl, fun _ _ h => h, le_refl _⟩, ?_⟩
            rw [Bool.eq_iff_iff.2 (hpending.trans decide_eq_true_iff.symm)]
          rw [hnote]
          cases ending with
          | ended outcome => exact .returned (hclosed _ rfl)
          | restarting =>
              cases stopPending with
              | true => exact .returned (hclosed _ rfl)
              | false => exact .again (hclosed _ rfl)

/-- The run is broken off while it waits for its child. -/
theorem Tells.interrupt (h : c.Tells r r.phase) (hs : Runner.Transition r .interrupt r') :
    (c.note r .interrupt).Tells r' r'.phase := by
  cases hs with
  | interrupt hp =>
      obtain ⟨n, hn⟩ : ∃ n, c.Watches n := by
        rcases hp with ⟨n, hp⟩ | ⟨n, q, seen, deadline, hp⟩ | ⟨n, hp⟩
        · rw [hp] at h
          cases h with
          | awaiting hn => exact ⟨n, hn.toWatches⟩
        · rw [hp] at h
          cases h with
          | cancelling hn => exact ⟨n, hn.toWatches⟩
        · rw [hp] at h
          cases h with
          | reaping hn => exact ⟨n, hn⟩
      exact .closing ⟨hn.rendered, hn.started⟩ (.interrupted rfl) hn.discarded_eq

/-- The runner gives up on its child. -/
theorem Tells.expire (h : c.Tells r r.phase) (hs : Runner.Transition r .expire r') :
    (c.note r .expire).Tells r' r'.phase := by
  cases hs with
  | @expire n q seen deadline hp hbox hnow =>
      rw [hp] at h
      generalize hdeadline : some deadline = d at h
      cases h with
      | cancelling hn hasks =>
          refine .reaping ⟨⟨hn.rendered, hn.started⟩, hn.interrupted_eq, hn.discarded_eq⟩ hasks
            ⟨rfl, ⟨deadline, hdeadline.symm, hnow⟩, fun e he => ?_, le_refl _⟩
          -- a notice would be in the mailbox
          have hnoticed : c.noticed = some e := he
          have hkept := hn.keeps (by rw [hnoticed]; rfl)
          rw [hbox] at hkept
          cases hkept

/-- **The chronicle goes on to belong to the phase,** when notices of exits are to be trusted. -/
theorem Tells.transition (h : c.Tells r r.phase)
    (hexited : ∀ {n}, .exited n ∈ r.mailbox → r.HasExited n) (hs : Runner.Transition r s r')
    (hcall : s ≠ .call) : (c.note r s).Tells r' r'.phase := by
  have hstep := hs
  cases hs with
  | call => exact absurd rfl hcall
  | tick htime => exact h.tick htime
  | post => exact h.post hstep
  | exit | ignore =>
      exact h.of_follows ⟨rfl, rfl, fun _ _ => hstep.exitStatus?, le_refl _⟩ (fun _ hm => hm)
        (Or.inl rfl)
  | accept =>
      exact h.of_follows ⟨rfl, rfl, fun _ _ => hstep.exitStatus?, le_refl _⟩
        (fun _ hm => List.mem_append_left _ hm) (Or.inl rfl)
  | takeExit | takeStale | takeRequest | takeCancelled | takeFurther => exact h.take hexited hstep
  | drain | drained => exact h.drain hstep
  | interrupt => exact h.interrupt hstep
  | expire => exact h.expire hstep
  | render => exact .starting rfl
  | renderFault => exact .unrendered rfl
  | start hp =>
      rw [hp] at h
      cases h with
      | starting h => rw [h]; exact .recording rfl nofun
  | startFault hp =>
      rw [hp] at h
      cases h with
      | starting h => rw [h]; exact .unstarted rfl rfl
  | @record n inputs hp =>
      rw [hp] at h
      cases h with
      | recording h hkeeps =>
          have hnote : c.note r .record = c := rfl
          rw [hnote]
          refine .awaiting ⟨⟨⟨⟨inputs, ?_⟩, ?_⟩, ?_, ?_⟩, hkeeps, ?_⟩ ?_ <;> rw [h]
          rfl
  | reap hp =>
      rw [hp] at h
      cases h with
      | reaping hn hasks hgaveUp =>
          have hended := Ended.overdue hn.interrupted_eq hasks hgaveUp
          exact .closing hn.toStarted (hended.of_follows ⟨rfl, rfl, fun _ _ h => h, le_refl _⟩)
            hn.discarded_eq
  | close hp =>
      rw [hp] at h
      cases h with
      | closing hn hended hdiscarded =>
          refine .draining hn (hended.of_follows ⟨rfl, rfl, fun _ _ h => h, le_refl _⟩) ?_
          simp [note, hdiscarded]

end Chronicle

end Command

end InlineSecrets
