/-
**References to variables are replaced in one pass.**

A text is read from left to right in one way: where a variable is mentioned, in braces or by the
longest plain name, that is a reference, and every other character stands for itself.  This reading
does not depend on what the variables are.  Replacing the references puts the values in their
places, and whatever a value looks like, it stays as it is.

Main definitions:

* `InlineSecrets.Command.Mention` — the ways to mention a variable;
* `InlineSecrets.Command.Mention.StandsBefore` — what may follow a mention;
* `InlineSecrets.Command.Reads` — **the reading of a text.**

Main results:

* `InlineSecrets.Command.reference?_eq_some_iff` — what is found behind a dollar sign;
* `InlineSecrets.Command.Reads.unique`, `InlineSecrets.Command.exists_reads` — every text has one
  reading;
* `InlineSecrets.Command.expand_of_reads` — **references are replaced in one pass.**
-/

import InlineSecrets.Command.Inputs
import InlineSecrets.Proofs.Basic
import InlineSecrets.Tool
import Mathlib.Data.List.Forall2

set_option relaxedAutoImplicit false
set_option autoImplicit false

namespace InlineSecrets

namespace Command

/-! ### Mentions of variables -/

/-- Names that may stand without braces. -/
def IsPlainName : Text → Prop
  | [] => False
  | c :: r => beginsName c = true ∧ ∀ d ∈ r, isNameChar d = true

/-- The ways to mention a variable. -/
inductive Mention where
  | braced (name : Text)
  | plain (name : Text)
  deriving DecidableEq, Repr

namespace Mention

/-- The variable that is mentioned. -/
def name : Mention → Text
  | braced name | plain name => name

/-- What is written behind the dollar sign. -/
def body : Mention → Text
  | braced name => '\x7B' :: name ++ ['\x7D']
  | plain name => name

/-- How it is written. -/
def source (m : Mention) : Text := '$' :: m.body

/-- Whether a variable is mentioned like that in front of a rest: a name in braces is any text
without a closing brace, and a plain name is not followed by more of it. -/
inductive StandsBefore : Mention → Text → Prop where
  | braced {name r : Text} (hname : '\x7D' ∉ name) : StandsBefore (.braced name) r
  | plain {name r : Text} (hname : IsPlainName name) (hlast : ∀ c ∈ r.head?, isNameChar c = false) :
      StandsBefore (.plain name) r

end Mention

variable {t r : Text} {m : Mention} {name : Text} {c : Char}

/-- No name begins with a brace. -/
theorem beginsName_brace : beginsName '\x7B' = false := by decide

/-- What is found behind a dollar sign is found in front of everything that may follow it. -/
theorem reference?_body (h : m.StandsBefore r) : reference? (m.body ++ r) = some (m.name, r) := by
  cases h with
  | @braced name _ hname =>
      have hcut : Text.cut? '\x7D' (name ++ '\x7D' :: r) = some (name, r) :=
        Text.cut?_eq_some_iff.2 ⟨rfl, hname⟩
      rw [Mention.body, List.cons_append, List.cons_append, List.append_assoc, reference?,
        if_pos rfl]
      exact hcut
  | @plain name _ hname hlast =>
      cases name with
      | nil => exact hname.elim
      | cons c name =>
          obtain ⟨hbegins, hchars⟩ := hname
          have hbrace : c ≠ '\x7B' := by
            rintro rfl
            rw [beginsName_brace] at hbegins
            cases hbegins
          obtain ⟨htake, hdrop⟩ := Text.span_append hchars hlast
          rw [Mention.body, List.cons_append, reference?, if_neg hbrace, if_pos hbegins, htake,
            hdrop]
          rfl

/-- **What is found behind a dollar sign** is a mention of a variable. -/
theorem reference?_eq_some_iff :
    reference? t = some (name, r) ↔
      ∃ m : Mention, m.StandsBefore r ∧ t = m.body ++ r ∧ m.name = name := by
  constructor
  · intro h
    cases t with
    | nil => cases h
    | cons c t =>
        rw [reference?] at h
        split at h
        · next hbrace =>
            obtain ⟨rfl, hname⟩ := Text.cut?_eq_some_iff.1 h
            exact ⟨.braced name, .braced hname, by simp [Mention.body, hbrace], rfl⟩
        · split at h
          · next hbegins =>
              cases h
              refine ⟨.plain (c :: t.takeWhile isNameChar), .plain ⟨hbegins, ?_⟩ ?_, ?_, rfl⟩
              · exact fun d hd => List.mem_takeWhile_imp hd
              · intro d hd
                have hnot := List.head?_dropWhile_not isNameChar t
                rw [Option.mem_def.1 hd] at hnot
                simpa using hnot
              · rw [Mention.body, List.cons_append, List.takeWhile_append_dropWhile]
          · cases h
  · rintro ⟨m, hm, rfl, rfl⟩
    exact reference?_body hm

/-! ### Readings -/

/-- The parts of a text: characters that stand for themselves, and references. -/
inductive Part where
  | copied (c : Char)
  | mention (m : Mention)
  deriving DecidableEq, Repr

namespace Part

/-- How a part is written. -/
def source : Part → Text
  | copied c => [c]
  | mention m => m.source

/-- What takes the place of a part: a variable without a value is replaced by nothing. -/
def value (vars : Assoc Text Text) : Part → Text
  | copied c => [c]
  | mention m => (Assoc.get? vars m.name).getD []

end Part

/-- **The reading of a text,** from left to right: a reference where there is one, and otherwise a
character. -/
inductive Reads : Text → List Part → Prop where
  | nil : Reads [] []
  | mention {m : Mention} {r : Text} {ps : List Part} (hm : m.StandsBefore r) (h : Reads r ps) :
      Reads (m.source ++ r) (.mention m :: ps)
  | copied {c : Char} {r : Text} {ps : List Part}
      (hc : ∀ (m : Mention) (r' : Text), m.StandsBefore r' → c :: r ≠ m.source ++ r')
      (h : Reads r ps) : Reads (c :: r) (.copied c :: ps)

variable {ps qs : List Part}

/-- **A variable is mentioned in one way only.** -/
theorem Mention.StandsBefore.unique {m' : Mention} {r' : Text} (h : m.StandsBefore r)
    (h' : m'.StandsBefore r') (heq : m.source ++ r = m'.source ++ r') : m = m' ∧ r = r' := by
  have hbody : m.body ++ r = m'.body ++ r' := (List.cons.inj heq).2
  have hfound := reference?_body h
  rw [hbody, reference?_body h', Option.some.injEq, Prod.mk.injEq] at hfound
  obtain ⟨hname, rfl⟩ := hfound
  have hsame : m.body = m'.body := List.append_cancel_right hbody
  refine ⟨?_, rfl⟩
  -- what begins with a brace is no plain name
  have hplain : ∀ {name name' : Text}, IsPlainName name → name ≠ '\x7B' :: name' := by
    rintro name name' hname rfl
    exact absurd (beginsName_brace.symm.trans hname.1) Bool.noConfusion
  cases h with
  | braced =>
      cases h' with
      | braced => exact congrArg Mention.braced hname.symm
      | plain hname' => exact absurd hsame.symm (hplain hname')
  | plain hname' =>
      cases h' with
      | braced => exact absurd hsame (hplain hname')
      | plain => exact congrArg Mention.plain hname.symm

/-- **A text has one reading.** -/
theorem Reads.unique (h : Reads t ps) (h' : Reads t qs) : ps = qs := by
  induction h generalizing qs with
  | nil => cases h'; rfl
  | @mention m r ps hm _ ih =>
      generalize ht : m.source ++ r = t at h'
      cases h' with
      | nil => cases ht
      | mention hm' h' =>
          obtain ⟨rfl, rfl⟩ := hm.unique hm' ht
          rw [ih h']
      | copied hc => exact absurd ht.symm (hc _ _ hm)
  | @copied c r ps hc _ ih =>
      generalize ht : c :: r = t at h'
      cases h' with
      | nil => cases ht
      | mention hm => exact absurd ht (hc _ _ hm)
      | copied _ h' =>
          cases ht
          rw [ih h']

/-- A text is what its parts are written as. -/
theorem Reads.source_eq (h : Reads t ps) : ps.flatMap Part.source = t := by
  induction h with
  | nil => rfl
  | mention _ _ ih | copied _ _ ih => rw [List.flatMap_cons, ih]; rfl

/-- **Every text has a reading.** -/
theorem exists_reads (t : Text) : ∃ ps, Reads t ps := by
  induction hn : t.length using Nat.strong_induction_on generalizing t with
  | _ n ih =>
      subst hn
      by_cases hmention : ∃ (m : Mention) (r : Text), m.StandsBefore r ∧ t = m.source ++ r
      · obtain ⟨m, r, hm, rfl⟩ := hmention
        have hlt : r.length < (m.source ++ r).length := by
          rw [Mention.source, List.cons_append, List.length_cons, List.length_append]
          omega
        obtain ⟨ps, hps⟩ := ih _ hlt r rfl
        exact ⟨.mention m :: ps, .mention hm hps⟩
      · cases t with
        | nil => exact ⟨[], .nil⟩
        | cons c r =>
            obtain ⟨ps, hps⟩ := ih _ (Nat.lt_succ_self _) r rfl
            exact ⟨.copied c :: ps, .copied (fun m r' hm ht => hmention ⟨m, r', hm, ht⟩) hps⟩

/-! ### Replacing -/

variable {value : Text → Option Text}

/-- Characters that belong to a reference already replaced are passed over. -/
theorem expandFrom_append (a b : Text) :
    expandFrom value a.length (a ++ b) = expandFrom value 0 b := by
  induction a with
  | nil => rfl
  | cons c a ih => exact ih

theorem expandFrom_mention (hm : m.StandsBefore r) :
    expandFrom value 0 (m.source ++ r) = (value m.name).getD [] ++ expandFrom value 0 r := by
  have hskip : (m.body ++ r).length - r.length = m.body.length := by
    rw [List.length_append, Nat.add_sub_cancel]
  rw [Mention.source, List.cons_append, expandFrom, if_pos rfl, reference?_body hm]
  simp only [hskip, expandFrom_append]

theorem expandFrom_copied
    (hc : ∀ (m : Mention) (r' : Text), m.StandsBefore r' → c :: r ≠ m.source ++ r') :
    expandFrom value 0 (c :: r) = c :: expandFrom value 0 r := by
  have hnone : (if c = '$' then reference? r else none) = none := by
    split
    · next hdollar =>
        refine Option.eq_none_iff_forall_ne_some.2 fun ⟨name, r'⟩ hfound => ?_
        obtain ⟨m, hm, hr, -⟩ := reference?_eq_some_iff.1 hfound
        exact hc m r' hm (congrArg₂ List.cons hdollar hr)
    · rfl
  rw [expandFrom, hnone]

/-- **Replacing goes along the reading.** -/
theorem Reads.expand_eq (h : Reads t ps) (vars : Assoc Text Text) :
    expand vars t = ps.flatMap (Part.value vars) := by
  induction h with
  | nil => rfl
  | mention hm _ ih => exact (expandFrom_mention hm).trans (congrArg (_ ++ ·) ih)
  | copied hc _ ih => exact (expandFrom_copied hc).trans (congrArg (_ :: ·) ih)

/-- **References are replaced in one pass.**  Every text has one reading, which does not depend on
the variables; and with any variables, what comes out are the characters that stand for themselves,
with the values of the variables, as they are, in the places of the references.  So it is with the
arguments of every command that is rendered. -/
theorem expand_of_reads :
    (∀ t : Text, ∃ ps, (∀ qs, Reads t qs ↔ qs = ps) ∧ ps.flatMap Part.source = t ∧
      ∀ vars, expand vars t = ps.flatMap (Part.value vars)) ∧
    ∀ {σ ε : Type} (replacer : Text → σ → Except ε Text × σ) (given inputs : Inputs) (s s' : σ),
      render replacer given s = (.ok inputs, s') →
      List.Forall₂ (fun arg new => ∃ ps, Reads arg ps ∧
        new = ps.flatMap (Part.value (environmentMap inputs.env))) given.args inputs.args := by
  refine ⟨fun t => ?_, fun {σ ε} replacer given inputs s s' h => ?_⟩
  · obtain ⟨ps, hps⟩ := exists_reads t
    exact ⟨ps, fun qs => ⟨fun hqs => hqs.unique hps, fun heq => heq ▸ hps⟩, hps.source_eq,
      hps.expand_eq⟩
  · rw [render] at h
    rcases hreveal : reveal replacer given.env s with ⟨f | env, s₁⟩
    · rw [hreveal] at h
      cases h
    · rw [hreveal] at h
      cases h
      rw [List.forall₂_map_right_iff, List.forall₂_same]
      intro arg _
      obtain ⟨ps, hps⟩ := exists_reads arg
      exact ⟨ps, hps, hps.expand_eq _⟩

/-- A vault with a secret in which references are written. -/
def referring : World :=
  ⟨⟨fun _ n => Vector.replicate n 0, 0⟩,
    .memory [("p".toList, [("k".toList, .text "$B$\x7BA\x7D".toList)])] []⟩

/-- A command with references that abut, and one that is not closed. -/
def mentioning : Inputs :=
  ⟨"c".toList, ["$\x7BA\x7D$$B".toList, "$\x7BA".toList], ["A=vault:p#k".toList, "B=b".toList]⟩

/-- What the secret says stays as it is. -/
theorem expand_of_reads_referring :
    ∃ inputs w, render ((Tool.ofParts none true).run .decode false) mentioning referring =
        (.ok inputs, w) ∧
      inputs.args = ["$B$\x7BA\x7D$b".toList, "$\x7BA".toList] ∧
      List.Forall₂ (fun arg new => ∃ ps, Reads arg ps ∧
        new = ps.flatMap (Part.value (environmentMap inputs.env))) mentioning.args inputs.args := by
  have hrender : ∃ inputs w, render ((Tool.ofParts none true).run .decode false) mentioning
      referring = (.ok inputs, w) ∧
        inputs.args = ["$B$\x7BA\x7D$b".toList, "$\x7BA".toList] := ⟨_, _, rfl, rfl⟩
  obtain ⟨inputs, w, h, hargs⟩ := hrender
  exact ⟨inputs, w, h, hargs, expand_of_reads.2 _ _ _ _ _ h⟩

end Command

end InlineSecrets
