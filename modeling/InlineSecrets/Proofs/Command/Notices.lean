/-
**No notice of an exit is lost.**

The mailbox is bounded, and requests that find it full are dropped.  The notice of an exit is not:
it waits until there is room.  So every notice is put into the mailbox once at most, and from then
on it is in the mailbox, or it has been read.  Which messages have been read is not seen from a
state; it is said of a run.

A runner that waits for its child has not read the notice of its exit.  When the child has exited,
the notice is on its way, and reading what is in the mailbox is all that it takes to get it.

Main definitions:

* `InlineSecrets.Command.Runner.read` — the messages that a run has read;
* `InlineSecrets.Command.Stage`, `InlineSecrets.Command.Stage.Holds` — how far an exit has come;
* `InlineSecrets.Command.Runner.Conserves` — **what is read and what is in the mailbox is what has
  been put there;**
* `InlineSecrets.Command.Runner.Noticed` — what that means for a runner and its child.

Main results:

* `InlineSecrets.Command.Runner.Transition.read_append_mailbox` — a step reads from one end of the
  mailbox, or puts a message at the other end;
* `InlineSecrets.Command.Runner.Conserves.transition` — no step loses a notice;
* `InlineSecrets.Command.Runner.exists_steps_closing` — a notice that is on its way is read;
* `InlineSecrets.Command.Runner.noticed_of_steps` — **no notice of an exit is lost.**
-/

import InlineSecrets.Proofs.Command.Mail
import Mathlib.Logic.ExistsUnique

set_option relaxedAutoImplicit false
set_option autoImplicit false

namespace InlineSecrets

namespace Command

/-- Whether the exit of a child is waited for, and messages are read until its notice comes. -/
def Phase.WaitsFor (p : Phase) (n : Nat) : Prop :=
  p = .awaiting n ∨ ∃ q seen deadline, p = .cancelling n q seen deadline

theorem Phase.WaitsFor.child? {p : Phase} {n : Nat} (h : p.WaitsFor n) : p.child? = some n := by
  rcases h with rfl | ⟨q, seen, deadline, rfl⟩ <;> rfl

/-- How far the exit of a child has come: the child is running; its notice is still to be put into
the mailbox; it has been put there; it has been read. -/
inductive Stage where
  | running
  | awaited
  | posted
  | read
  deriving DecidableEq, Repr

/-- Whether the exit of a child has come as far as that, when some messages have been read. -/
def Stage.Holds (past : List Message) (r : Runner) (n : Nat) : Stage → Prop
  | running => r.isAlive n = true
  | awaited => r.HasExited n ∧ r.noticeOf? n = some .awaited
  | posted => .exited n ∈ r.mailbox
  | read => .exited n ∈ past

namespace Runner

variable {r r' : Runner} {s : Step} {ss : List Step} {past : List Message} {n : Nat}

/-! ### What is read -/

/-- The message that is read in a step: while a child is supervised, or when the mailbox is emptied
behind it. -/
def readIn (r : Runner) : Step → List Message
  | .take | .drain => r.mailbox.head?.toList
  | _ => []

/-- **The messages that are read in several steps,** in order. -/
def read : Runner → List Step → List Message
  | _, [] => []
  | r, s :: ss =>
      match r.step? s with
      | some r' => r.readIn s ++ read r' ss
      | none => []

/-- The message that a step puts into the mailbox. -/
def putIn (r : Runner) : Step → List Message
  | .post n => [.exited n]
  | .request q => if r.accepts then [.request q] else []
  | _ => []

/-- **A step reads from one end of the mailbox, or puts a message at the other end.** -/
theorem Transition.read_append_mailbox (h : Transition r s r') :
    r.readIn s ++ r'.mailbox = r.mailbox ++ r.putIn s := by
  cases h with
  | takeExit _ hm | takeStale _ _ hm | takeRequest _ hm | takeCancelled _ hm | takeFurther _ hm
    | drain _ hm | drained _ hm => simp [readIn, putIn, hm]
  | accept hacc | ignore hacc => simp [readIn, putIn, hacc]
  | post => rfl
  | _ => exact (List.append_nil _).symm

/-- The notice of a child is put there by the one who waits for its exit. -/
theorem count_putIn_of_ne (r : Runner) (hs : s ≠ .post n) :
    (r.putIn s).count (.exited n) = 0 := by
  refine List.count_eq_zero.2 fun hm => ?_
  cases s with
  | post k =>
      obtain rfl : n = k := Message.exited.inj (List.mem_singleton.1 hm)
      exact hs rfl
  | request q =>
      rw [putIn] at hm
      split at hm
      · cases List.mem_singleton.1 hm
      · cases hm
  | _ => cases hm

/-- A notice is delivered when it is put into the mailbox, and stays delivered. -/
theorem Transition.noticeOf?_eq_delivered_iff (h : Transition r s r') (hr : Orderly r) {n : Nat} :
    r'.noticeOf? n = some .delivered ↔ r.noticeOf? n = some .delivered ∨ s = .post n := by
  by_cases hs : s = .post n
  · subst hs
    cases h with
    | post hc => simp [Runner.noticeOf?, hc]
  · simp only [hs, or_false]
    rcases Nat.lt_or_ge n r.children.length with hn | hn
    · by_cases hrecord : ∃ inputs, r.phase = .recording n inputs ∧ s = .record
      · obtain ⟨inputs, hp, rfl⟩ := hrecord
        -- the child was not watched, and its notice is waited for now
        rw [hr.unwatched hp]
        cases h with
        | record hp' =>
            rw [hp] at hp'
            cases hp'
            simp [Runner.noticeOf?, List.getElem?_eq_getElem hn]
      · rw [h.noticeOf? hn (fun inputs hp hs => hrecord ⟨inputs, hp, hs⟩) hs]
    · rw [noticeOf?_eq_none hn]
      refine iff_of_false ?_ (by simp)
      intro hdelivered
      have hlt := lt_length_of_noticeOf? hdelivered
      cases h with
      | start =>
          obtain rfl : n = r.children.length := by
            rw [List.length_append, List.length_singleton] at hlt
            omega
          simp [Runner.noticeOf?] at hdelivered
      | record | exit | post =>
          rw [List.length_modify] at hlt
          omega
      | _ => exact absurd hlt (by simpa using hn)

/-! ### What every step preserves -/

/-- **What is read and what is in the mailbox is what has been put there,** as far as notices are
concerned: the notice of a child is among it once when it has been delivered, and else not at all.
Only notices of children that have exited are delivered; the exit of a recorded child is watched;
and as long as it is waited for, its notice has not been read.  The mailbox is never overfull. -/
structure Conserves (past : List Message) (r : Runner) : Prop where
  length_le : r.mailbox.length ≤ mailboxCapacity
  count_eq : ∀ n, (past ++ r.mailbox).count (.exited n) =
    if r.noticeOf? n = some .delivered then 1 else 0
  hasExited : ∀ n, r.noticeOf? n = some .delivered → r.HasExited n
  watched : ∀ n inputs, r.recorded = some (n, inputs) → r.noticeOf? n ≠ some .unwatched
  unread : ∀ n, r.phase.WaitsFor n → .exited n ∉ past

/-- The mailbox does not get overfull. -/
theorem Transition.length_mailbox_le (h : Transition r s r')
    (hr : r.mailbox.length ≤ mailboxCapacity) : r'.mailbox.length ≤ mailboxCapacity := by
  cases h with
  | post _ _ _ hroom =>
      rw [List.length_append, List.length_singleton]
      exact hroom
  | accept hacc =>
      have hroom := (Bool.and_eq_true_iff.1 hacc).2
      rw [List.length_append, List.length_singleton]
      exact of_decide_eq_true hroom
  | takeExit _ hm | takeStale _ _ hm | takeRequest _ hm | takeCancelled _ hm | takeFurther _ hm
    | drain _ hm =>
      rw [hm, List.length_cons] at hr
      exact Nat.le_of_succ_le hr
  | _ => exact hr

/-- **No step loses a notice, or makes a second one.** -/
theorem Conserves.count_transition (hc : Conserves past r) (hr : Orderly r) (h : Transition r s r')
    (n : Nat) : (past ++ r.readIn s ++ r'.mailbox).count (.exited n) =
      if r'.noticeOf? n = some .delivered then 1 else 0 := by
  have hiff := h.noticeOf?_eq_delivered_iff hr (n := n)
  rw [List.append_assoc, h.read_append_mailbox, ← List.append_assoc, List.count_append, hc.count_eq]
  by_cases hs : s = .post n
  · -- the notice was waited for, so there was none so far
    rw [if_pos (hiff.2 (.inr hs))]
    subst hs
    cases h with
    | post hchild _ hnotice =>
        have hnot : r.noticeOf? n ≠ some .delivered := by
          simp [Runner.noticeOf?, hchild, hnotice]
        rw [if_neg hnot, putIn, List.count_singleton_self]
  · rw [count_putIn_of_ne r hs, Nat.add_zero]
    simp only [hiff, hs, or_false]

/-- Only the notices of children that have exited are delivered. -/
theorem Conserves.hasExited_transition (hc : Conserves past r) (hr : Orderly r)
    (h : Transition r s r') (hn : r'.noticeOf? n = some .delivered) : r'.HasExited n := by
  rcases (h.noticeOf?_eq_delivered_iff hr).1 hn with hn | rfl
  · exact (hc.hasExited n hn).transition h
  · have hstep := h
    cases h with
    | post hchild hexited =>
        refine HasExited.transition ⟨(List.getElem?_eq_some_iff.1 hchild).1, ?_⟩ hstep
        rw [Runner.isAlive, hchild, Option.any_some, hexited]

/-- The exit of a recorded child stays watched. -/
theorem Conserves.watched_transition (hc : Conserves past r) (hreach : r.Reachable)
    (h : Transition r s r') {inputs : Inputs} (hn : r'.recorded = some (n, inputs)) :
    r'.noticeOf? n ≠ some .unwatched := by
  -- the child was recorded before, and its notice is not touched or goes into the mailbox
  have hsame : r.recorded = some (n, inputs) → r'.noticeOf? n ≠ some .unwatched := by
    intro hrec
    by_cases hs : s = .post n
    · rw [(h.noticeOf?_eq_delivered_iff hreach.orderly).2 (Or.inr hs)]
      simp
    · have hlast := hreach.orderly.recorded hrec
      rw [h.noticeOf? (by omega) ?_ hs]
      · exact hc.watched n inputs hrec
      · rintro inputs' hp -
        have hrun := hreach.isRunning_eq
        rw [isRunning, hrec, hp] at hrun
        cases hrun
  cases h with
  | @record k inputs' hp =>
      cases hn
      have hlt : n < r.children.length := by
        have hchild := hreach.orderly.child (n := n) (by rw [hp]; rfl)
        omega
      simp [Runner.noticeOf?, List.getElem?_eq_getElem hlt]
  | close => cases hn
  | _ => exact hsame hn

/-- A runner that waits for its child goes on to wait for it, unless the child is new. -/
theorem Transition.waitsFor (h : Transition r s r') (hn : r'.phase.WaitsFor n) :
    (s = .record ∧ ∃ inputs, r.phase = .recording n inputs) ∨
      r.phase.WaitsFor n ∧ .exited n ∉ r.readIn s := by
  cases h with
  | record hp =>
      cases Phase.WaitsFor.child? hn
      exact .inl ⟨rfl, _, hp⟩
  | takeStale hp hk hm =>
      refine .inr ⟨hn, ?_⟩
      have hchild := hn.child?
      rcases hp with hp | ⟨q, seen, deadline, hp⟩
      all_goals
        rw [hp] at hchild
        cases hchild
        simpa [readIn, hm] using Ne.symm hk
  | takeRequest hp hm =>
      cases Phase.WaitsFor.child? hn
      exact .inr ⟨.inl hp, by simp [readIn, hm]⟩
  | takeFurther hp hm =>
      cases Phase.WaitsFor.child? hn
      exact .inr ⟨.inr ⟨_, _, _, hp⟩, by simp [readIn, hm]⟩
  | exit | post | accept | ignore | tick => exact .inr ⟨hn, List.not_mem_nil⟩
  | expire =>
      rcases hn with hn | ⟨_, _, _, hn⟩ <;> cases hn
  | @drained ending stopPending =>
      have hchild := hn.child?
      cases ending with
      | ended => cases hchild
      | restarting => cases stopPending <;> cases hchild
  | call | render | renderFault | start | startFault | takeExit | takeCancelled | reap | close
    | drain | interrupt => rcases hn with hn | ⟨_, _, _, hn⟩ <;> cases hn

/-- **No step loses a notice.** -/
theorem Conserves.transition (hc : Conserves past r) (hreach : r.Reachable)
    (h : Transition r s r') : Conserves (past ++ r.readIn s) r' where
  length_le := h.length_mailbox_le hc.length_le
  count_eq := hc.count_transition hreach.orderly h
  hasExited _ := hc.hasExited_transition hreach.orderly h
  watched _ _ := hc.watched_transition hreach h
  unread n hn := by
    rcases h.waitsFor hn with ⟨rfl, inputs, hp⟩ | ⟨hwaits, hread⟩
    · -- nobody has watched the child so far, so there is no notice of it
      have hcount := hc.count_eq n
      rw [hreach.orderly.unwatched hp, if_neg (by simp)] at hcount
      intro hm
      refine absurd (List.mem_append_left _ ?_) (List.count_eq_zero.1 hcount)
      simpa [readIn] using hm
    · exact fun hm => (List.mem_append.1 hm).elim (hc.unread n hwaits) hread

theorem conserves_of_isNew (h : IsNew r) : Conserves [] r where
  length_le := by
    rw [h.mailbox_eq]
    exact Nat.zero_le _
  count_eq n := by
    have hnone : r.noticeOf? n = none := noticeOf?_eq_none (by simp [h.children_eq])
    simp [h.mailbox_eq, hnone]
  hasExited n hn := by
    rw [noticeOf?_eq_none (by simp [h.children_eq])] at hn
    cases hn
  watched n inputs hn := by
    rw [h.recorded_eq] at hn
    cases hn
  unread _ _ := List.not_mem_nil

/-- **No run loses a notice.** -/
theorem Conserves.steps (hc : Conserves past r) (hreach : r.Reachable)
    (hss : r.steps? ss = some r') : Conserves (past ++ r.read ss) r' := by
  induction ss generalizing r past with
  | nil =>
      cases hss
      rw [read, List.append_nil]
      exact hc
  | cons s ss ih =>
      obtain ⟨r₁, hs, hss⟩ := steps?_cons_eq_some_iff.1 hss
      have hstep := step?_eq_some_iff.2 hs
      have hrun := ih (hc.transition hreach hs) (hreach.step hstep) hss
      rw [List.append_assoc] at hrun
      simpa only [read, hstep] using hrun

/-! ### How far an exit has come -/

/-- The notice of a child is read or in the mailbox when it has been delivered, and not in both
places. -/
theorem Conserves.delivered_iff (hc : Conserves past r) (n : Nat) :
    (r.noticeOf? n = some .delivered ↔ .exited n ∈ past ∨ .exited n ∈ r.mailbox) ∧
      ¬(.exited n ∈ past ∧ .exited n ∈ r.mailbox) := by
  have hcount := hc.count_eq n
  rw [List.count_append] at hcount
  rw [← List.count_pos_iff, ← List.count_pos_iff]
  by_cases hn : r.noticeOf? n = some .delivered
  · rw [if_pos hn] at hcount
    refine ⟨iff_of_true hn ?_, ?_⟩ <;> omega
  · rw [if_neg hn] at hcount
    refine ⟨iff_of_false hn ?_, ?_⟩ <;> omega

/-- **The exit of a recorded child is at one stage, and at one only.** -/
theorem Conserves.existsUnique_stage (hc : Conserves past r) (hr : Orderly r) {inputs : Inputs}
    (hn : r.recorded = some (n, inputs)) : ∃! stage : Stage, stage.Holds past r n := by
  have hlt : n < r.children.length := by
    have hlast := hr.recorded hn
    omega
  obtain ⟨hdelivered, hnotboth⟩ := hc.delivered_iff n
  obtain ⟨notice, hnotice⟩ : ∃ notice, r.noticeOf? n = some notice :=
    ⟨_, congrArg (Option.map Child.notice) (List.getElem?_eq_getElem hlt)⟩
  cases notice with
  | unwatched => exact absurd hnotice (hc.watched n inputs hn)
  | awaited =>
      -- the notice is nowhere yet, and the stages are told apart by the child
      rw [hnotice] at hdelivered
      obtain ⟨hpast, hmailbox⟩ := not_or.1 (mt hdelivered.2 (by simp))
      by_cases hlive : r.isAlive n = true
      · refine ⟨.running, hlive, fun stage hstage => ?_⟩
        cases stage with
        | running => rfl
        | awaited => exact absurd (hlive.symm.trans hstage.1.2) (by simp)
        | posted => exact absurd hstage hmailbox
        | read => exact absurd hstage hpast
      · refine ⟨.awaited, ⟨⟨hlt, Bool.eq_false_iff.2 hlive⟩, hnotice⟩, fun stage hstage => ?_⟩
        cases stage with
        | running => exact absurd hstage hlive
        | awaited => rfl
        | posted => exact absurd hstage hmailbox
        | read => exact absurd hstage hpast
  | delivered =>
      have hdead := (hc.hasExited n hnotice).2
      -- only the places of the notice are left
      have hother : ∀ {stage : Stage}, stage.Holds past r n → stage = .posted ∨ stage = .read := by
        intro stage hstage
        cases stage with
        | running => exact absurd (hstage.symm.trans hdead) (by simp)
        | awaited => exact absurd (hstage.2.symm.trans hnotice) (by simp)
        | posted => exact .inl rfl
        | read => exact .inr rfl
      rcases hdelivered.1 hnotice with hpast | hmailbox
      · refine ⟨.read, hpast, fun stage hstage => (hother hstage).resolve_left ?_⟩
        rintro rfl
        exact hnotboth ⟨hpast, hstage⟩
      · refine ⟨.posted, hmailbox, fun stage hstage => (hother hstage).resolve_right ?_⟩
        rintro rfl
        exact hnotboth ⟨hstage, hmailbox⟩

/-! ### The notice comes -/

/-- **What is read in a run comes from the front of the mailbox.** -/
theorem read_append_mailbox_of_steps? (hss : r.steps? ss = some r') :
    ∃ put, r.read ss ++ r'.mailbox = r.mailbox ++ put := by
  induction ss generalizing r with
  | nil =>
      cases hss
      exact ⟨[], (List.append_nil _).symm⟩
  | cons s ss ih =>
      obtain ⟨r₁, hs, hss⟩ := steps?_cons_eq_some_iff.1 hss
      obtain ⟨put, hput⟩ := ih hss
      refine ⟨r.putIn s ++ put, ?_⟩
      calc
        r.read (s :: ss) ++ r'.mailbox = r.readIn s ++ (r₁.read ss ++ r'.mailbox) := by
          simp only [read, step?_eq_some_iff.2 hs, List.append_assoc]
        _ = r.readIn s ++ r₁.mailbox ++ put := by rw [hput, List.append_assoc]
        _ = r.mailbox ++ (r.putIn s ++ put) := by rw [hs.read_append_mailbox, List.append_assoc]

/-- A runner that goes on to wait for its child has read no more than what is before the notice. -/
theorem Conserves.length_read_le (hc : Conserves past r) (hreach : r.Reachable)
    (hss : r.steps? ss = some r') (hn : r'.phase.WaitsFor n) {before after : List Message}
    (hm : r.mailbox = before ++ .exited n :: after) : (r.read ss).length ≤ before.length := by
  refine Nat.le_of_not_lt fun hlt => ?_
  obtain ⟨put, hput⟩ := read_append_mailbox_of_steps? hss
  -- what is read goes beyond what is before the notice, so it has the notice in it
  have hread : (r.read ss)[before.length]? = some (.exited n) := by
    calc
      (r.read ss)[before.length]? = (r.read ss ++ r'.mailbox)[before.length]? :=
        (List.getElem?_append_left hlt).symm
      _ = some (.exited n) := by
        rw [hput, hm]
        simp
  have hunread := (hc.steps hreach hss).unread n hn
  exact hunread (List.mem_append_right _ (List.mem_of_getElem? hread))

/-- A message that a waiting runner takes is the notice that it waits for, or it goes on waiting. -/
theorem exists_take (hn : r.phase.WaitsFor n) {m : Message} {rest : List Message}
    (hm : r.mailbox = m :: rest) :
    (∃ r' ending, Transition r .take r' ∧ r'.phase = .closing ending) ∨
      m ≠ .exited n ∧
        ∃ phase, Transition r .take { r with mailbox := rest, phase } ∧ phase.WaitsFor n := by
  cases m with
  | request q' =>
      refine .inr ⟨Message.noConfusion, ?_⟩
      rcases hn with hp | ⟨q, seen, deadline, hp⟩
      · exact ⟨_, .takeRequest hp hm, .inr ⟨_, _, _, rfl⟩⟩
      · exact ⟨_, .takeFurther hp hm, .inr ⟨_, _, _, rfl⟩⟩
  | exited k =>
      by_cases hk : k = n
      · subst hk
        rcases hn with hp | ⟨q, seen, deadline, hp⟩
        · exact .inl ⟨_, _, .takeExit hp hm, rfl⟩
        · exact .inl ⟨_, _, .takeCancelled hp hm, rfl⟩
      · exact .inr ⟨fun h => hk (Message.exited.inj h), r.phase, .takeStale hn hk hm, hn⟩

/-- A notice in the mailbox is come to by taking what is in there. -/
theorem exists_takes_closing (hn : r.phase.WaitsFor n) (hm : .exited n ∈ r.mailbox) :
    ∃ ss r' ending, (∀ s ∈ ss, s = .take) ∧ r.steps? ss = some r' ∧ r'.phase = .closing ending := by
  generalize hbox : r.mailbox = box at hm
  induction box generalizing r with
  | nil => cases hm
  | cons m rest ih =>
      rcases exists_take hn hbox with ⟨r', ending, htake, hclosing⟩ | ⟨hne, phase, htake, hwaits⟩
      · exact ⟨[.take], r', ending, by simp, steps?_cons_eq_some_iff.2 ⟨r', htake, rfl⟩, hclosing⟩
      · have hrest := (List.mem_cons.1 hm).resolve_left (Ne.symm hne)
        obtain ⟨ss, r', ending, htakes, hss, hclosing⟩ :=
          ih (r := { r with mailbox := rest, phase }) hwaits rfl hrest
        refine ⟨.take :: ss, r', ending, ?_, steps?_cons_eq_some_iff.2 ⟨_, htake, hss⟩, hclosing⟩
        exact List.forall_mem_cons.2 ⟨rfl, htakes⟩

/-- A notice that is waited for is put into a mailbox that has room for it. -/
theorem exists_transition_post (hn : r.HasExited n) (hnotice : r.noticeOf? n = some .awaited)
    (hroom : r.mailbox.length < mailboxCapacity) :
    ∃ children, Transition r (.post n)
      { r with mailbox := r.mailbox ++ [.exited n], children := children } := by
  obtain ⟨c, hc, hawaited⟩ := noticeOf?_eq_some_iff.1 hnotice
  have hdead : c.isAlive = false := by
    have hdead := hn.2
    rwa [isAlive, hc, Option.any_some] at hdead
  exact ⟨_, .post hc hdead hawaited hroom⟩

/-- With room in the mailbox, a notice that is waited for is put there, and then come to. -/
theorem exists_post_closing (hn : r.phase.WaitsFor n) (hexited : r.HasExited n)
    (hnotice : r.noticeOf? n = some .awaited) (hroom : r.mailbox.length < mailboxCapacity) :
    ∃ ss r' ending, (∀ s ∈ ss, s = .take ∨ s = .post n) ∧ r.steps? ss = some r' ∧
      r'.phase = .closing ending := by
  obtain ⟨children, hpost⟩ := exists_transition_post hexited hnotice hroom
  obtain ⟨ss, r', ending, htakes, hss, hclosing⟩ :=
    exists_takes_closing (r := { r with mailbox := r.mailbox ++ [.exited n], children })
      hn List.mem_concat_self
  refine ⟨.post n :: ss, r', ending, ?_, steps?_cons_eq_some_iff.2 ⟨_, hpost, hss⟩, hclosing⟩
  exact List.forall_mem_cons.2 ⟨.inr rfl, fun s hs => .inl (htakes s hs)⟩

/-- **A notice that is on its way is read:** it takes no more than that messages are taken, and that
the notice is put into the mailbox. -/
theorem exists_steps_closing (hlen : r.mailbox.length ≤ mailboxCapacity)
    (hn : r.phase.WaitsFor n) (hexited : r.HasExited n)
    (hnotice : r.noticeOf? n = some .awaited ∨ .exited n ∈ r.mailbox) :
    ∃ ss r' ending, (∀ s ∈ ss, s = .take ∨ s = .post n) ∧ r.steps? ss = some r' ∧
      r'.phase = .closing ending := by
  rcases hnotice with hawaited | hposted
  · by_cases hroom : r.mailbox.length < mailboxCapacity
    · exact exists_post_closing hn hexited hawaited hroom
    · -- the mailbox is full, and a message has to be taken first
      cases hbox : r.mailbox with
      | nil =>
          rw [hbox] at hroom
          exact absurd (by decide) hroom
      | cons m rest =>
          rw [hbox, List.length_cons] at hlen
          rcases exists_take hn hbox with ⟨r', ending, htake, hclosing⟩ | ⟨-, phase, htake, hwaits⟩
          · exact ⟨[.take], r', ending, by simp, steps?_cons_eq_some_iff.2 ⟨r', htake, rfl⟩,
              hclosing⟩
          · obtain ⟨ss, r', ending, hdelivers, hss, hclosing⟩ :=
              exists_post_closing (r := { r with mailbox := rest, phase }) hwaits hexited hawaited
                hlen
            have hsteps := steps?_cons_eq_some_iff.2 ⟨_, htake, hss⟩
            refine ⟨.take :: ss, r', ending, ?_, hsteps, hclosing⟩
            exact List.forall_mem_cons.2 ⟨.inl rfl, hdelivers⟩
  · obtain ⟨ss, r', ending, htakes, hss, hclosing⟩ := exists_takes_closing hn hposted
    exact ⟨ss, r', ending, fun s hs => .inl (htakes s hs), hss, hclosing⟩

/-! ### What a runner can rely on -/

/-- **No notice of an exit is lost.**  The mailbox is bounded; a request is dropped only when no
child is recorded or the mailbox is full; and the exit of the recorded child is at one stage, and at
one only.  The notice of an exit comes once, and when it cannot be put into the mailbox, this is
full.  A runner that waits for its child has not missed the notice: once the child has exited, it
takes no more than reading messages and putting the notice into the mailbox to be done with it, and
whatever else happens, no more is read meanwhile than what is before the notice. -/
structure Noticed (past : List Message) (r : Runner) : Prop where
  length_le : r.mailbox.length ≤ mailboxCapacity
  request : ∀ q r', r.step? (.request q) = some r' →
    r' = { r with mailbox := r.mailbox ++ [.request q] } ∨
      r' = r ∧ (r.recorded = none ∨ r.mailbox.length = mailboxCapacity)
  stage : ∀ n inputs, r.recorded = some (n, inputs) → ∃! stage : Stage, stage.Holds past r n
  once : ∀ n, (past ++ r.mailbox).count (.exited n) ≤ 1
  blocked : ∀ n, Stage.awaited.Holds past r n →
    (r.step? (.post n)).isSome = true ∨ r.mailbox.length = mailboxCapacity
  waits : ∀ n, r.phase.WaitsFor n → ¬Stage.read.Holds past r n
  closes : ∀ n, r.phase.WaitsFor n → ¬Stage.running.Holds past r n →
    ∃ ss r' ending, (∀ s ∈ ss, s = .take ∨ s = .post n) ∧ r.steps? ss = some r' ∧
      r'.phase = .closing ending
  inTurn : ∀ n before after ss r', r.mailbox = before ++ .exited n :: after →
    r.steps? ss = some r' → r'.phase.WaitsFor n → (r.read ss).length ≤ before.length

/-- A request is dropped when no child is recorded, or when the mailbox is full. -/
theorem Conserves.request (hc : Conserves past r) {q : Request}
    (h : r.step? (.request q) = some r') :
    r' = { r with mailbox := r.mailbox ++ [.request q] } ∨
      r' = r ∧ (r.recorded = none ∨ r.mailbox.length = mailboxCapacity) := by
  cases transition_of_step? h with
  | accept => exact .inl rfl
  | ignore hacc =>
      refine .inr ⟨rfl, ?_⟩
      rcases Bool.and_eq_false_iff.1 hacc with hrun | hroom
      · exact .inl (Option.isNone_iff_eq_none.1 (Option.isSome_eq_false_iff.1 hrun))
      · exact .inr (Nat.le_antisymm hc.length_le (Nat.le_of_not_lt (of_decide_eq_false hroom)))

/-- The child that is waited for is the one that is recorded. -/
theorem Reachable.recorded_of_waitsFor (h : r.Reachable) (hn : r.phase.WaitsFor n) :
    ∃ inputs, r.recorded = some (n, inputs) := by
  have hrun : r.isRunning = true := by
    rw [h.isRunning_eq]
    rcases hn with hp | ⟨q, seen, deadline, hp⟩ <;> rw [hp] <;> rfl
  obtain ⟨⟨k, inputs⟩, hk⟩ := Option.isSome_iff_exists.1 hrun
  have hchild := h.orderly.child hn.child?
  have hrecorded := h.orderly.recorded hk
  obtain rfl : k = n := by omega
  exact ⟨inputs, hk⟩

theorem Conserves.noticed (hc : Conserves past r) (hreach : r.Reachable) : Noticed past r where
  length_le := hc.length_le
  request _ _ := hc.request
  stage _ _ := hc.existsUnique_stage hreach.orderly
  once n := by
    rw [hc.count_eq]
    split <;> decide
  blocked := by
    rintro n ⟨hexited, hnotice⟩
    rcases Nat.lt_or_eq_of_le hc.length_le with hroom | hfull
    · obtain ⟨children, hpost⟩ := exists_transition_post hexited hnotice hroom
      exact .inl (Option.isSome_iff_exists.2 ⟨_, step?_eq_some_iff.2 hpost⟩)
    · exact .inr hfull
  waits := hc.unread
  closes n hn hdead := by
    obtain ⟨inputs, hrecorded⟩ := hreach.recorded_of_waitsFor hn
    have hlast := hreach.orderly.recorded hrecorded
    have hexited : r.HasExited n := ⟨by omega, Bool.eq_false_iff.2 hdead⟩
    refine exists_steps_closing hc.length_le hn hexited ?_
    obtain ⟨stage, hstage, -⟩ := hc.existsUnique_stage hreach.orderly hrecorded
    cases stage with
    | running => exact absurd hstage hdead
    | awaited => exact .inl hstage.2
    | posted => exact .inr hstage
    | read => exact absurd hstage (hc.unread n hn)
  inTurn _ _ _ _ _ hm hss hn := hc.length_read_le hreach hss hn hm

/-- **No notice of an exit is lost,** in any run. -/
theorem noticed_of_steps {r₀ : Runner} (h₀ : IsNew r₀) (hss : r₀.steps? ss = some r) :
    Noticed (r₀.read ss) r := by
  have hreach₀ : r₀.Reachable := ⟨r₀, [], h₀, rfl⟩
  exact ((conserves_of_isNew h₀).steps hreach₀ hss).noticed (hreach₀.steps hss)

/-- The steps by which a child is started, the mailbox is filled with requests for a restart, one
request too many is made, and the child exits. -/
def untilBlocked : List Step :=
  [.call, .render (.ok (finished 0).given), .start (.ok ()), .record] ++
    List.replicate (mailboxCapacity + 1) (.request .restart) ++ [.exit 0 0]

/-- The runner behind these steps: the notice of the exit has to wait. -/
def blocked : Runner :=
  { finished 0 with
    mailbox := List.replicate mailboxCapacity (.request .restart)
    recorded := some (0, (finished 0).given)
    children := [⟨some 0, .awaited⟩]
    phase := .awaiting 0 }

theorem noticed_of_steps_blocked :
    IsNew (finished 0) ∧ (finished 0).steps? untilBlocked = some blocked ∧
    blocked.step? (.post 0) = none ∧ Stage.awaited.Holds [] blocked 0 ∧
    ∃ ss r' ending, (∀ s ∈ ss, s = .take ∨ s = .post 0) ∧ blocked.steps? ss = some r' ∧
      r'.phase = .closing ending := by
  have hnew : IsNew (finished 0) := ⟨rfl, rfl, rfl, rfl⟩
  have hss : (finished 0).steps? untilBlocked = some blocked := by decide +kernel
  have hnoticed := noticed_of_steps hnew hss
  refine ⟨hnew, hss, by decide +kernel, ⟨⟨by decide, by decide⟩, by decide⟩, ?_⟩
  exact hnoticed.closes 0 (.inl rfl) Bool.false_ne_true

end Runner

end Command

end InlineSecrets
