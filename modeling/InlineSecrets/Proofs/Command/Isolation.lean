/-
**A child does not notice the others.**

A runner that has had many children looks, to the one that is supervised, like a runner that has had
no other: leave out the other children, the notices of their exits and the requests that were
dropped, and what remains of a run is a run of a runner with that single child.  So how the
supervision of a child ends depends on what happens to this child and on the requests accepted
meanwhile, and on nothing that happened before.

Main definitions:

* `InlineSecrets.Command.Runner.alone` — **the runner as one of its children sees it;**
* `InlineSecrets.Command.Runner.seen?`, `InlineSecrets.Command.Runner.seen` — the steps that this
  child sees;
* `InlineSecrets.Command.Runner.solo` — a runner with a single child that was just recorded.

Main results:

* `InlineSecrets.Command.Runner.Transition.alone` — a step is a step of the runner with that child
  alone, or is not seen by it;
* `InlineSecrets.Command.Runner.steps?_alone` — **so is every run, up to the next start;**
* `InlineSecrets.Command.Runner.Orderly.alone_of_record` — a child that is recorded sees a runner
  that has just begun.
-/

import InlineSecrets.Proofs.Command.Mail

set_option relaxedAutoImplicit false
set_option autoImplicit false

namespace InlineSecrets

namespace Command

/-! ### What a child sees -/

namespace Message

/-- Whether a message matters for child `n`: all requests do, and the notice of its own exit. -/
def isFor (n : Nat) : Message → Bool
  | request _ => true
  | exited k => k = n

/-- A message about the only child. -/
def alone : Message → Message
  | request q => .request q
  | exited _ => .exited 0

@[simp] theorem alone_eq_request_iff {m : Message} {q : Request} :
    m.alone = .request q ↔ m = .request q := by
  cases m <;> simp [alone]

end Message

/-- A phase about the only child. -/
def Phase.alone : Phase → Phase
  | recording _ inputs => recording 0 inputs
  | awaiting _ => awaiting 0
  | cancelling _ reason stopSeen deadline => cancelling 0 reason stopSeen deadline
  | reaping _ => reaping 0
  | idle => idle
  | rendering => rendering
  | starting inputs => starting inputs
  | closing ending => closing ending
  | draining ending stopPending => draining ending stopPending
  | returned outcome => returned outcome

namespace Runner

/-- The mail that matters for child `n`. -/
def mailFor (n : Nat) (ms : List Message) : List Message :=
  (ms.filter (Message.isFor n)).map Message.alone

/-- **The runner as child `n` sees it:** the child is the only one, and has number zero. -/
def alone (r : Runner) (n : Nat) : Runner :=
  { r with
    mailbox := mailFor n r.mailbox
    recorded := r.recorded.map fun e => (0, e.2)
    children := r.children[n]?.toList
    phase := r.phase.alone }

/-- Whether the next message, if there is one, matters for child `n`. -/
def nextIsFor (r : Runner) (n : Nat) : Bool := r.mailbox.head?.all (Message.isFor n)

/-- A step as child `n` sees it, if it does. -/
def seen? (r : Runner) (n : Nat) : Step → Option Step
  | .exit k status => if k = n then some (.exit 0 status) else none
  | .post k => if k = n then some (.post 0) else none
  | .request q => if r.accepts then some (.request q) else none
  | .take => if r.nextIsFor n then some .take else none
  | .drain => if r.nextIsFor n then some .drain else none
  | s => some s

/-- The steps that child `n` sees. -/
def seen (n : Nat) : Runner → List Step → List Step
  | _, [] => []
  | r, s :: ss => (r.seen? n s).toList ++ (r.step? s).elim [] fun r => seen n r ss

/-- A runner with a single child that was just recorded, with the exit status that the child may
have by then. -/
def solo (given : Inputs) (grace : Double) (now : Rat) (inputs : Inputs) (status : Option Int) :
    Runner where
  given := given
  grace := grace
  now := now
  recorded := some (0, inputs)
  children := [⟨status, .awaited⟩]
  phase := .awaiting 0

variable {r r' : Runner} {s : Step} {ss : List Step} {n : Nat}

/-! ### The mail -/

@[simp] theorem mailFor_nil (n : Nat) : mailFor n [] = [] := rfl

@[simp] theorem mailFor_request (n : Nat) (q : Request) (ms : List Message) :
    mailFor n (.request q :: ms) = .request q :: mailFor n ms := rfl

@[simp] theorem mailFor_exited_self (n : Nat) (ms : List Message) :
    mailFor n (.exited n :: ms) = .exited 0 :: mailFor n ms := by
  simp [mailFor, Message.isFor, Message.alone]

theorem mailFor_exited_of_ne {k n : Nat} (h : k ≠ n) (ms : List Message) :
    mailFor n (.exited k :: ms) = mailFor n ms := by
  simp [mailFor, Message.isFor, h]

theorem mailFor_append (n : Nat) (ms ms' : List Message) :
    mailFor n (ms ++ ms') = mailFor n ms ++ mailFor n ms' := by
  rw [mailFor, List.filter_append, List.map_append]
  rfl

theorem length_mailFor_le (n : Nat) (ms : List Message) : (mailFor n ms).length ≤ ms.length := by
  rw [mailFor, List.length_map]
  exact List.length_filter_le _ _

theorem nextIsFor_of_mailbox {m : Message} {rest : List Message} (h : r.mailbox = m :: rest) :
    r.nextIsFor n = m.isFor n := by
  rw [nextIsFor, h]
  rfl

theorem nextIsFor_of_nil (h : r.mailbox = []) : r.nextIsFor n = true := by
  rw [nextIsFor, h]
  rfl

/-! ### The child -/

@[simp] theorem isAlive_alone (r : Runner) (n : Nat) : (r.alone n).isAlive 0 = r.isAlive n := by
  rw [isAlive, isAlive, alone]
  cases r.children[n]? <;> rfl

@[simp] theorem statusOf_alone (r : Runner) (n : Nat) : (r.alone n).statusOf 0 = r.statusOf n := by
  rw [statusOf, statusOf, alone]
  cases r.children[n]? <;> rfl

/-- A change of the child itself is seen. -/
theorem toList_getElem?_modify_self (cs : List Child) (n : Nat) (f : Child → Child) :
    (cs.modify n f)[n]?.toList = cs[n]?.toList.modify 0 f := by
  rw [List.getElem?_modify_eq]
  cases cs[n]? <;> rfl

/-- Where there is room in the mailbox, there is room in what the child sees of it. -/
theorem accepts_alone (h : r.accepts = true) (n : Nat) : (r.alone n).accepts = true := by
  obtain ⟨hrunning, hroom⟩ := Bool.and_eq_true_iff.1 h
  have hle := length_mailFor_le n r.mailbox
  refine Bool.and_eq_true_iff.2 ⟨?_, ?_⟩
  · rw [isRunning, alone, Option.isSome_map]
    exact hrunning
  · simp only [decide_eq_true_eq] at hroom ⊢
    exact Nat.lt_of_le_of_lt hle hroom

/-! ### One step -/

/-- A step that the child sees is a step of the runner with that child alone; another one changes
nothing for it. -/
def Follows (r : Runner) (n : Nat) (s : Step) (r' : Runner) : Prop :=
  match r.seen? n s with
  | none => r'.alone n = r.alone n
  | some s' => Transition (r.alone n) s' (r'.alone n)

theorem follows_of_seen {s' : Step} (hs : r.seen? n s = some s')
    (h : Transition (r.alone n) s' (r'.alone n)) : r.Follows n s r' := by
  rw [Follows, hs]
  exact h

theorem follows_of_unseen (hs : r.seen? n s = none) (h : r'.alone n = r.alone n) :
    r.Follows n s r' := by
  rw [Follows, hs]
  exact h

/-- The notice of the exit of another child is taken, or thrown away. -/
theorem alone_of_mailbox_exited {k : Nat} {rest : List Message} (hm : r.mailbox = .exited k :: rest)
    (hk : k ≠ n) : { r with mailbox := rest }.alone n = r.alone n := by
  simp only [alone, hm, mailFor_exited_of_ne hk]

theorem phase_alone {p : Phase} (hp : r.phase = p) (n : Nat) : (r.alone n).phase = p.alone :=
  congrArg Phase.alone hp

theorem mailbox_alone {m : Message} {rest : List Message} (hm : r.mailbox = m :: rest)
    (hfor : m.isFor n = true) : (r.alone n).mailbox = m.alone :: mailFor n rest := by
  simp [alone, hm, mailFor, hfor]

theorem mailbox_alone_nil (hm : r.mailbox = []) (n : Nat) : (r.alone n).mailbox = [] := by
  simp [alone, hm, mailFor]

/-- A message that matters for the child is seen when it is taken. -/
theorem follows_of_take {m : Message} {rest : List Message} (hm : r.mailbox = m :: rest)
    (hfor : m.isFor n = true) (h : Transition (r.alone n) .take (r'.alone n)) :
    r.Follows n .take r' := by
  refine follows_of_seen ?_ h
  simp [seen?, nextIsFor_of_mailbox hm, hfor]

/-- **One step.**  A step in a phase about child `n`, other than a start, is a step of the runner
with that child alone, or is not seen by it. -/
theorem Transition.follows (h : Transition r s r') (hn : ∀ k, r.phase.child? = some k → k = n)
    (hs : s ≠ .start (.ok ())) : r.Follows n s r' := by
  have hself : ∀ k, (Message.exited k).isFor k = true := by simp [Message.isFor]
  cases h with
  | call hp =>
      refine follows_of_seen rfl (.call ?_)
      rcases hp with hp | ⟨outcome, hp⟩
      · exact Or.inl (phase_alone hp n)
      · exact Or.inr ⟨outcome, phase_alone hp n⟩
  | render hp => exact follows_of_seen rfl (.render (phase_alone hp n))
  | renderFault hp => exact follows_of_seen rfl (.renderFault (phase_alone hp n))
  | start => exact absurd rfl hs
  | startFault hp => exact follows_of_seen rfl (.startFault (phase_alone hp n))
  | @record k inputs hp =>
      obtain rfl : k = n := hn k (by rw [hp]; rfl)
      have hrec : Transition (r.alone k) .record _ := .record (phase_alone hp k)
      refine follows_of_seen rfl ?_
      simpa only [alone, toList_getElem?_modify_self, Option.map_some, Phase.alone] using hrec
  | @takeExit k rest hp hm =>
      obtain rfl : k = n := hn k (by rw [hp]; rfl)
      have htake : Transition (r.alone k) .take _ :=
        .takeExit (phase_alone hp k) (mailbox_alone hm (hself k))
      rw [statusOf_alone] at htake
      exact follows_of_take hm (hself k) htake
  | @takeStale k i rest hp hi hm =>
      have hk : k = n := by
        refine hn k ?_
        rcases hp with hp | ⟨q, stopSeen, deadline, hp⟩ <;> rw [hp] <;> rfl
      subst hk
      refine follows_of_unseen ?_ (alone_of_mailbox_exited hm hi)
      simp [seen?, nextIsFor_of_mailbox hm, Message.isFor, hi]
  | @takeRequest k q rest hp hm =>
      obtain rfl : k = n := hn k (by rw [hp]; rfl)
      exact follows_of_take hm rfl (.takeRequest (phase_alone hp k) (mailbox_alone hm rfl))
  | @takeCancelled k q stopSeen deadline rest hp hm =>
      obtain rfl : k = n := hn k (by rw [hp]; rfl)
      have htake : Transition (r.alone k) .take _ :=
        .takeCancelled (phase_alone hp k) (mailbox_alone hm (hself k))
      rw [statusOf_alone] at htake
      exact follows_of_take hm (hself k) htake
  | @takeFurther k q q' stopSeen deadline rest hp hm =>
      obtain rfl : k = n := hn k (by rw [hp]; rfl)
      exact follows_of_take hm rfl (.takeFurther (phase_alone hp k) (mailbox_alone hm rfl))
  | expire hp hm hnow =>
      exact follows_of_seen rfl (.expire (phase_alone hp n) (mailbox_alone_nil hm n) hnow)
  | @reap k hp hdead =>
      obtain rfl : k = n := hn k (by rw [hp]; rfl)
      exact follows_of_seen rfl (.reap (phase_alone hp k) ((isAlive_alone r k).trans hdead))
  | close hp => exact follows_of_seen rfl (.close (phase_alone hp n))
  | @drain ending stopPending m rest hp hm =>
      by_cases hfor : m.isFor n = true
      · have hdrain : Transition (r.alone n) .drain _ :=
          .drain (phase_alone hp n) (mailbox_alone hm hfor)
        simp only [Message.alone_eq_request_iff] at hdrain
        refine follows_of_seen ?_ hdrain
        simp [seen?, nextIsFor_of_mailbox hm, hfor]
      · refine follows_of_unseen ?_ ?_
        · simp [seen?, nextIsFor_of_mailbox hm, hfor]
        · -- what is thrown away is a notice, and so no stop
          cases m with
          | request q => exact absurd rfl hfor
          | exited k =>
              have hk : k ≠ n := by simpa [Message.isFor] using hfor
              simp [alone, hm, hp, mailFor_exited_of_ne hk, Phase.alone]
  | @drained ending stopPending hp hm =>
      have hdrained : Transition (r.alone n) .drain _ :=
        .drained (phase_alone hp n) (mailbox_alone_nil hm n)
      have hphase : (phaseAfterDrain ending stopPending).alone =
          phaseAfterDrain ending stopPending := by
        cases ending with
        | ended => rfl
        | restarting => cases stopPending <;> rfl
      have hseen : r.seen? n .drain = some .drain := by simp [seen?, nextIsFor_of_nil hm]
      refine follows_of_seen hseen ?_
      simpa only [alone, hphase] using hdrained
  | @exit k status hlive =>
      by_cases hk : k = n
      · subst hk
        have hexit : Transition (r.alone k) (.exit 0 status) _ :=
          .exit ((isAlive_alone r k).trans hlive)
        refine follows_of_seen (if_pos rfl) ?_
        simpa only [alone, toList_getElem?_modify_self] using hexit
      · refine follows_of_unseen (if_neg hk) ?_
        simp [alone, hk]
  | @post k c hc hdead hnotice hroom =>
      by_cases hk : k = n
      · subst hk
        have hc' : (r.alone k).children[0]? = some c := by simp [alone, hc]
        have hroom' := Nat.lt_of_le_of_lt (length_mailFor_le k r.mailbox) hroom
        have hpost : Transition (r.alone k) (.post 0) _ := .post hc' hdead hnotice hroom'
        refine follows_of_seen (if_pos rfl) ?_
        simpa only [alone, toList_getElem?_modify_self, mailFor_append, mailFor_exited_self,
          mailFor_nil] using hpost
      · refine follows_of_unseen (if_neg hk) ?_
        have hnone : mailFor n [.exited k] = [] := mailFor_exited_of_ne hk []
        simp [alone, hk, mailFor_append, hnone]
  | @accept q hacc =>
      have haccept : Transition (r.alone n) (.request q) _ := .accept (accepts_alone hacc n)
      refine follows_of_seen (if_pos hacc) ?_
      simpa only [alone, mailFor_append, mailFor_request, mailFor_nil] using haccept
  | ignore hacc =>
      refine follows_of_unseen ?_ rfl
      simp [seen?, hacc]
  | interrupt hp =>
      refine follows_of_seen rfl (.interrupt ?_)
      rcases hp with ⟨k, hp⟩ | ⟨k, q, stopSeen, deadline, hp⟩ | ⟨k, hp⟩
      · exact Or.inl ⟨0, phase_alone hp n⟩
      · exact Or.inr (Or.inl ⟨0, q, stopSeen, deadline, phase_alone hp n⟩)
      · exact Or.inr (Or.inr ⟨0, phase_alone hp n⟩)
  | tick hnow => exact follows_of_seen rfl (.tick hnow)

/-! ### Runs -/

/-- A phase stays with its child until another one is started. -/
theorem Transition.child_of_ne_start (h : Transition r s r') (hs : s ≠ .start (.ok ())) {k : Nat}
    (hk : r'.phase.child? = some k) : r.phase.child? = some k := by
  cases h with
  | start => exact absurd rfl hs
  | record hp | takeRequest hp | takeFurther hp | expire hp =>
      rw [hp]
      exact hk
  | takeStale | exit | post | accept | ignore | tick => exact hk
  | @drained ending stopPending =>
      cases ending with
      | ended => cases hk
      | restarting => cases stopPending <;> cases hk
  | call | render | renderFault | startFault | takeExit | takeCancelled | reap | close | drain
    | interrupt => cases hk

/-- **A run, up to the next start, is a run of the runner with the child alone,** in the steps that
the child sees. -/
theorem steps?_alone (hn : ∀ k, r.phase.child? = some k → k = n) (hss : r.steps? ss = some r')
    (hstart : .start (.ok ()) ∉ ss) : (r.alone n).steps? (r.seen n ss) = some (r'.alone n) := by
  induction ss generalizing r with
  | nil =>
      cases hss
      rfl
  | cons s ss ih =>
      obtain ⟨r₁, hs, hss⟩ := steps?_cons_eq_some_iff.1 hss
      obtain ⟨hne, hstart⟩ := not_or.1 (mt List.mem_cons.2 hstart)
      have hrest := ih (fun k hk => hn k (hs.child_of_ne_start (Ne.symm hne) hk)) hss hstart
      have hfollows := hs.follows hn (Ne.symm hne)
      rw [seen, step?_eq_some_iff.2 hs, Option.elim_some]
      unfold Follows at hfollows
      split at hfollows
      · next hunseen =>
          rw [hunseen, Option.toList_none, List.nil_append, ← hfollows]
          exact hrest
      · next s' hseen =>
          rw [hseen, Option.toList_some, List.singleton_append]
          exact steps?_cons_eq_some_iff.2 ⟨_, hfollows, hrest⟩

/-- **A child that is recorded sees a runner that has just begun:** what is in the mailbox is not
for it. -/
theorem Orderly.alone_of_record (hr : Orderly r) {inputs : Inputs}
    (hp : r.phase = .recording n inputs) (h : Transition r .record r') :
    r'.alone n = solo r.given r.grace r.now inputs (r.children[n]?.bind Child.status) := by
  have hmail : mailFor n r.mailbox = [] := by
    refine List.map_eq_nil_iff.2 (List.filter_eq_nil_iff.2 fun m hm => ?_)
    obtain ⟨k, hk, rfl⟩ := hr.mailbox_of_recording hp hm
    simp [Message.isFor, Nat.ne_of_lt hk]
  obtain ⟨c, hc, -⟩ := noticeOf?_eq_some_iff.1 (hr.unwatched hp)
  cases h with
  | @record k inputs' hp' =>
      rw [hp] at hp'
      cases hp'
      simp [alone, solo, hmail, hc, Phase.alone]

end Runner

end Command

end InlineSecrets
