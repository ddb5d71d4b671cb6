/-
**Enclosed tokens in a text.**

An enclosed token is described by what it is: a payload on one line between its markers, which no
earlier closing marker ends.  From that follows when a text into which such tokens are put is
scanned as it was put together.  No opening marker may arise where a token meets the text in front
of it; that cannot happen with a marker of which no proper end is also its beginning.

Main definitions:

* `InlineSecrets.Enclosure.Encloses` — the tokens of an enclosure, declaratively;
* `InlineSecrets.Text.Borderless` — no proper end of a text is also its beginning.

Main results:

* `InlineSecrets.Piece.not_prefix_text_withTokens` — no marker arises in front of tokens put into a
  text that held none;
* `InlineSecrets.Enclosure.token?_eq_some_iff` — **exactly these tokens are found;**
* `InlineSecrets.Enclosure.reads_withTokens` — **tokens put into a text without opening markers are
  found where they were put.**
-/

import InlineSecrets.Proofs.Pieces
import InlineSecrets.Token.Shape

set_option relaxedAutoImplicit false
set_option autoImplicit false

namespace InlineSecrets

namespace Text

/-! ### Markers -/

theorem after?_isSome_iff {p t : Text} : (after? p t).isSome ↔ p <+: t := by
  rw [Option.isSome_iff_exists]
  constructor
  · rintro ⟨r, hr⟩
    exact ⟨r, (after?_eq_some_iff.1 hr).symm⟩
  · rintro ⟨r, rfl⟩
    exact ⟨r, after?_append p r⟩

theorem after?_eq_none_iff {p t : Text} : after? p t = none ↔ ¬p <+: t := by
  rw [← after?_isSome_iff, Option.not_isSome_iff_eq_none]

/-- What stands in front of the first closing marker, on one line. -/
theorem upTo?_eq_some_iff {closer : Text} (hcloser : closer ≠ []) {t p : Text} :
    upTo? closer t = some p ↔
      (∃ r, t = p ++ closer ++ r) ∧ '\n' ∉ p ∧ ∀ n < p.length, ¬closer <+: t.drop n := by
  induction t generalizing p with
  | nil => simp [upTo?, hcloser]
  | cons c t ih =>
      rw [upTo?]
      by_cases hc : closer <+: c :: t
      · -- the marker stands here, so nothing stands in front of it
        rw [if_pos (after?_isSome_iff.2 hc), Option.some.injEq]
        constructor
        · rintro rfl
          obtain ⟨r, hr⟩ := hc
          exact ⟨⟨r, hr.symm⟩, List.not_mem_nil, fun n hn => absurd hn (Nat.not_lt_zero n)⟩
        · rintro ⟨-, -, hfirst⟩
          cases p with
          | nil => rfl
          | cons d p => exact absurd hc (hfirst 0 (Nat.succ_pos _))
      · rw [if_neg (mt after?_isSome_iff.1 hc)]
        -- so at least one character stands in front of it
        have hp : (∃ r, c :: t = p ++ closer ++ r) → ∃ p', p = c :: p' := by
          rintro ⟨r, hr⟩
          cases p with
          | nil => exact absurd ⟨r, hr.symm⟩ hc
          | cons d p => cases hr; exact ⟨p, rfl⟩
        by_cases hn : c = '\n'
        · rw [if_pos hn]
          constructor
          · intro h
            cases h
          · rintro ⟨hr, hline, -⟩
            obtain ⟨p', rfl⟩ := hp hr
            exact absurd (hn ▸ List.mem_cons_self) hline
        · rw [if_neg hn, Option.map_eq_some_iff]
          constructor
          · rintro ⟨p', hp', rfl⟩
            obtain ⟨⟨r, rfl⟩, hline, hfirst⟩ := ih.1 hp'
            refine ⟨⟨r, rfl⟩, by simpa [Ne.symm hn] using hline, ?_⟩
            rintro (_ | n) hlt
            · exact hc
            · exact hfirst n (Nat.lt_of_succ_lt_succ hlt)
          · rintro ⟨hr, hline, hfirst⟩
            obtain ⟨p', rfl⟩ := hp hr
            obtain ⟨r, hr⟩ := hr
            refine ⟨p', ih.2 ⟨⟨r, (List.cons.inj hr).2⟩, ?_, ?_⟩, rfl⟩
            · exact fun h => hline (List.mem_cons_of_mem _ h)
            · exact fun n hlt => hfirst (n + 1) (Nat.succ_lt_succ hlt)

/-- A marker without a character is not continued by that character. -/
theorem prefix_of_prefix_append_cons {o g x : Text} {v : Char} (hv : v ∉ o)
    (h : o <+: g ++ v :: x) : o <+: g := by
  by_cases hlen : o.length ≤ g.length
  · exact List.prefix_of_prefix_length_le h (List.prefix_append g _) hlen
  · have hgo : g ++ [v] <+: o := by
      refine List.prefix_of_prefix_length_le ⟨x, by simp⟩ h ?_
      simp only [List.length_append, List.length_singleton]
      omega
    exact absurd (hgo.subset (by simp)) hv

@[inherit_doc prefix_of_prefix_append_cons]
theorem suffix_of_suffix_append_cons {o g x : Text} {v : Char} (hv : v ∉ o)
    (h : o <:+ g ++ v :: x) : o <:+ x := by
  rw [← List.reverse_prefix] at h ⊢
  rw [List.reverse_append, List.reverse_cons, List.append_assoc] at h
  exact prefix_of_prefix_append_cons (by simpa using hv) h

/-- No proper end of the text is also its beginning. -/
def Borderless (o : Text) : Prop := ∀ n < o.length, 0 < n → ¬o.drop n <+: o

instance (o : Text) : Decidable (Borderless o) :=
  inferInstanceAs (Decidable (∀ n < o.length, 0 < n → ¬o.drop n <+: o))

/-- A borderless marker does not arise in front of a place where the text ends or one stands. -/
theorem Borderless.not_prefix_append {o g r : Text} (ho : Borderless o) (hg : g ≠ [])
    (hog : ¬o <+: g) (hr : r = [] ∨ o <+: r) : ¬o <+: g ++ r := by
  intro h
  have hlt : g.length < o.length := Nat.lt_of_not_le fun hle =>
    hog (List.prefix_of_prefix_length_le h (List.prefix_append g r) hle)
  -- the marker would begin with `g` and go on with the beginning of `r`
  have hgo := List.prefix_of_prefix_length_le (List.prefix_append g r) h (Nat.le_of_lt hlt)
  obtain ⟨v, rfl⟩ := hgo
  have hv : v <+: r := (List.prefix_append_right_inj g).1 h
  have hvlen : 0 < v.length := by simpa using hlt
  rcases hr with rfl | hr
  · rw [List.prefix_nil.1 hv] at hvlen
    exact Nat.lt_irrefl 0 hvlen
  · have hvo : v <+: g ++ v := List.prefix_of_prefix_length_le hv hr (by simp)
    refine ho g.length hlt (List.length_pos_iff.2 hg) ?_
    rwa [List.drop_left]

end Text

/-! ### Markers between the tokens of a text -/

namespace Piece

/-- With tokens of one opening marker in it, a text goes on with its own characters up to the first
of them, and then with the marker. -/
theorem exists_text_withTokens {opener : Text} {ps : List Piece} {ks : List Token}
    (hlen : ks.length = (tokens ps).length) (hks : ∀ k ∈ ks, k.opening = opener) :
    ∃ g r, text (withTokens ps ks) = g ++ r ∧ g <+: text ps ∧ (r = [] ∨ opener <+: r) := by
  induction ps with
  | nil => exact ⟨[], [], rfl, List.nil_prefix, Or.inl rfl⟩
  | cons p ps ih =>
      cases p with
      | plain c =>
          obtain ⟨g, r, htext, hg, hr⟩ := ih hlen
          refine ⟨c :: g, r, ?_, List.cons_prefix_cons.2 ⟨rfl, hg⟩, hr⟩
          simp only [withTokens, text, htext, List.cons_append]
      | token l =>
          cases ks with
          | nil => simp [tokens] at hlen
          | cons k ks =>
              refine ⟨[], k.envelope ++ text (withTokens ps ks), rfl, List.nil_prefix, Or.inr ?_⟩
              rw [Token.envelope, hks k List.mem_cons_self, List.append_assoc, List.append_assoc]
              exact List.prefix_append _ _

/-- **Where the text held no opening marker, none arises in front of the tokens put into it.** -/
theorem not_prefix_text_withTokens {opener : Text} (hopener : opener.Borderless) {c : Char}
    {ps : List Piece} {ks : List Token} (hlen : ks.length = (tokens ps).length)
    (hks : ∀ k ∈ ks, k.opening = opener) (hps : ¬opener <:+: text (plain c :: ps)) :
    ¬opener <+: c :: text (withTokens ps ks) := by
  -- the marker would begin at the plain character `c`
  obtain ⟨g, r, htext, hg, hr⟩ := exists_text_withTokens hlen hks
  rw [htext]
  refine hopener.not_prefix_append (List.cons_ne_nil c g) (fun h => hps ?_) hr
  exact (h.trans (List.cons_prefix_cons.2 ⟨rfl, hg⟩)).isInfix

/-- A text without a marker holds none behind its first piece, either. -/
theorem not_isInfix_of_cons {m : Text} {p : Piece} {ps : List Piece}
    (h : ¬m <:+: text (p :: ps)) : ¬m <:+: text ps := by
  have hsuffix : text ps <:+ text (p :: ps) := by
    cases p with
    | plain c => exact List.suffix_cons c _
    | token k => exact List.suffix_append k.envelope _
  exact fun hm => h (hm.trans hsuffix.isInfix)

end Piece

/-! ### The tokens of an enclosure -/

namespace Enclosure

variable {e : Enclosure}

/-- A token stands between the markers of an enclosure: its payload is not empty and on one line,
and no closing marker begins behind its first character but in front of its end.  `r` is what
follows the token. -/
structure Encloses (e : Enclosure) (k : Token) (r : Text) : Prop where
  opening_eq : k.opening = e.opener
  closing_eq : k.closing = e.closer
  payload_ne_nil : k.payload ≠ []
  one_line : '\n' ∉ k.payload
  first_closer : ∀ n < k.payload.length, 0 < n → ¬e.closer <+: (k.payload ++ e.closer ++ r).drop n

theorem token?_of_barred {before : Option Char} (h : before.isSome ∧ before = e.barred) (t : Text) :
    e.token? before t = none := by
  have hbar : (before.isSome && before == e.barred) = true := by simp [← h.2, h.1]
  rw [token?, if_pos hbar]

theorem token?_of_not_opened {t : Text} (h : ¬e.opener <+: t) (before : Option Char) :
    e.token? before t = none := by
  rw [token?, Text.after?_eq_none_iff.2 h, ite_self]

/-- Behind an opening marker that is not barred, the payload is looked for. -/
theorem token?_append {before : Option Char} (h : ¬(before.isSome ∧ before = e.barred)) (u : Text) :
    e.token? before (e.opener ++ u) = match u with
      | [] => none
      | c :: r =>
          if c = '\n' then none
          else (Text.upTo? e.closer r).map fun p => ⟨e.opener, c :: p, e.closer⟩ := by
  have hbar : (before.isSome && before == e.barred) = false := by
    rw [Bool.eq_false_iff]
    simpa using h
  rw [token?, hbar, if_neg Bool.false_ne_true, Text.after?_append]
  cases u <;> rfl

/-- A payload in which the closing marker cannot begin needs no look at what follows. -/
theorem encloses_of_not_mem {k : Token} {c : Char} {z : Text} (hopening : k.opening = e.opener)
    (hclosing : k.closing = e.closer) (hne : k.payload ≠ []) (hline : '\n' ∉ k.payload)
    (hcloser : e.closer = c :: z) (hc : c ∉ k.payload) (r : Text) : e.Encloses k r where
  opening_eq := hopening
  closing_eq := hclosing
  payload_ne_nil := hne
  one_line := hline
  first_closer n hn _ h := by
    rw [hcloser, List.append_assoc, List.drop_append_of_le_length (Nat.le_of_lt hn),
      List.drop_eq_getElem_cons hn, List.cons_append, List.cons_prefix_cons] at h
    exact hc (h.1 ▸ List.getElem_mem hn)

/-- A token stands where the text goes on with the opening marker, the payload and the closing
marker. -/
theorem Encloses.envelope_append {k : Token} {r : Text} (hk : e.Encloses k r) :
    k.envelope ++ r = e.opener ++ (k.payload ++ e.closer ++ r) := by
  rw [Token.envelope, hk.opening_eq, hk.closing_eq]
  simp only [List.append_assoc]

/-- **Exactly these tokens are found,** where the character in front does not bar them. -/
theorem token?_eq_some_iff (hcloser : e.closer ≠ []) {before : Option Char} {t : Text} {k : Token} :
    e.token? before t = some k ↔
      ¬(before.isSome ∧ before = e.barred) ∧ ∃ r, t = k.envelope ++ r ∧ e.Encloses k r := by
  constructor
  · intro h
    have hbar : ¬(before.isSome ∧ before = e.barred) := fun hbar => by
      rw [token?_of_barred hbar] at h
      cases h
    have hopen : e.opener <+: t := Decidable.byContradiction fun hopen => by
      rw [token?_of_not_opened hopen] at h
      cases h
    obtain ⟨u, rfl⟩ := hopen
    rw [token?_append hbar] at h
    cases u with
    | nil => cases h
    | cons c u =>
        obtain ⟨hc, h⟩ := Option.ite_none_left_eq_some.1 h
        obtain ⟨p, hp, rfl⟩ := Option.map_eq_some_iff.1 h
        obtain ⟨⟨r, rfl⟩, hline, hfirst⟩ := (Text.upTo?_eq_some_iff hcloser).1 hp
        refine ⟨hbar, r, by simp [Token.envelope], rfl, rfl, List.cons_ne_nil _ _, ?_, ?_⟩
        · simpa [Ne.symm hc] using hline
        · rintro (_ | n) hlt hpos
          · exact absurd hpos (Nat.lt_irrefl 0)
          · exact hfirst n (Nat.lt_of_succ_lt_succ hlt)
  · rintro ⟨hbar, r, rfl, hk⟩
    rw [hk.envelope_append, token?_append hbar]
    obtain ⟨o, q, z⟩ := k
    obtain ⟨rfl, rfl, hne, hline, hfirst⟩ := hk
    obtain ⟨c, p, rfl⟩ := List.exists_cons_of_ne_nil hne
    obtain ⟨hc, hline⟩ := not_or.1 (mt List.mem_cons.2 hline)
    have hp : Text.upTo? e.closer (p ++ e.closer ++ r) = some p :=
      (Text.upTo?_eq_some_iff hcloser).2 ⟨⟨r, rfl⟩, hline, fun n hlt =>
        hfirst (n + 1) (Nat.succ_lt_succ hlt) (Nat.succ_pos n)⟩
    simp only [List.cons_append, hp, if_neg (Ne.symm hc), Option.map_some]

/-- What an enclosure finds stands at the place. -/
theorem lawful (hopener : e.opener ≠ []) (hcloser : e.closer ≠ []) : e.token?.Lawful where
  envelope_isPrefix h := by
    obtain ⟨-, r, rfl, -⟩ := (token?_eq_some_iff hcloser).1 h
    exact List.prefix_append _ _
  envelope_ne_nil h := by
    obtain ⟨-, r, -, hk⟩ := (token?_eq_some_iff hcloser).1 h
    simp [Token.envelope, hk.opening_eq, hopener]

/-! ### Tokens put into a text -/

open Piece

/-- **Tokens put into a text without opening markers are found where they were put,** and nothing
else is found. -/
theorem reads_withTokens (hbarred : e.barred = none) (hopener : e.opener.Borderless)
    (hcloser : e.closer ≠ []) {ps : List Piece} {ks : List Token}
    (hlen : ks.length = (tokens ps).length) (hks : ∀ k ∈ ks, ∀ r, e.Encloses k r)
    (hps : ¬e.opener <:+: text ps) (before : Option Char) :
    Reads e.token? before (withTokens ps ks) := by
  have hbar : ∀ before : Option Char, ¬(before.isSome ∧ before = e.barred) := by
    rintro before ⟨hsome, rfl⟩
    rw [hbarred] at hsome
    cases hsome
  induction ps generalizing ks before with
  | nil => exact .nil
  | cons p ps ih =>
      have hps' := not_isInfix_of_cons hps
      cases p with
      | plain c =>
          have hlen' : ks.length = (tokens ps).length := hlen
          have hnone := not_prefix_text_withTokens hopener hlen'
            (fun k hk => (hks k hk []).opening_eq) hps
          exact .plain (token?_of_not_opened hnone before) (ih hlen hks hps' _)
      | token l =>
          cases ks with
          | nil => simp [tokens] at hlen
          | cons k ks =>
              refine .token ((token?_eq_some_iff hcloser).2 ⟨hbar before, _, rfl,
                hks k List.mem_cons_self _⟩) (ih ?_ (fun k' hk' => hks k' ?_) hps' _)
              · simpa [tokens] using hlen
              · exact List.mem_cons_of_mem k hk'

end Enclosure

end InlineSecrets
