/-
**References in a text.**

A reference is described by what it is: a marker that does not follow a word character, and runs
with separators between them, of which the last one ends with a word character.  It goes as far as
its last run can go: what follows it up to the next blank, separator or end of the text holds no
word character.

From that follows when references that take the places of others are found where they were put.
What follows a reference holds no word character up to a blank, and so no marker; whatever is put
into the text further on, the reference ends where it ended.

Main definitions:

* `InlineSecrets.Text.EndsInWord` — texts that end with a word character;
* `InlineSecrets.Reference.IsRun`, `InlineSecrets.Reference.IsPayload` — runs, and the payloads of
  references;
* `InlineSecrets.Reference.Settled` — texts in front of which a reference may end;
* `InlineSecrets.Reference.Refers` — the tokens of a reference, declaratively;
* `InlineSecrets.Reference.Stands` — pieces whose tokens are references where they stand.

Main results:

* `InlineSecrets.Reference.token?_eq_some_iff` — **exactly these tokens are found;**
* `InlineSecrets.Reference.reads_withTokens` — **references put in the places of references are
  found where they were put.**
-/

import InlineSecrets.Proofs.Enclosed
import InlineSecrets.Token.Shape
import Mathlib.Data.List.DropRight

set_option relaxedAutoImplicit false
set_option autoImplicit false

namespace InlineSecrets

namespace Text

/-! ### Parts -/

/-- A text without the separator is one part. -/
theorem split_of_not_mem {sep : Char} {t : Text} (h : sep ∉ t) : split sep t = [t] := by
  induction t with
  | nil => rfl
  | cons c r ih =>
      obtain ⟨hc, hr⟩ := not_or.1 (mt List.mem_cons.2 h)
      rw [split, if_neg (Ne.symm hc), ih hr]

/-- The first part ends at the first separator. -/
theorem split_append_cons {sep : Char} {p : Text} (hp : sep ∉ p) (r : Text) :
    split sep (p ++ sep :: r) = p :: split sep r := by
  induction p with
  | nil => simp [split]
  | cons c p ih =>
      obtain ⟨hc, hp'⟩ := not_or.1 (mt List.mem_cons.2 hp)
      rw [List.cons_append, split, if_neg (Ne.symm hc), ih hp']

/-- Texts up to the first separator are the same when the whole texts are, and so is what is behind
it. -/
theorem append_separator_inj {sep : Char} {p q x y : Text} (hp : sep ∉ p) (hq : sep ∉ q)
    (h : p ++ sep :: x = q ++ sep :: y) : p = q ∧ x = y := by
  have hx : cut? sep (p ++ sep :: x) = some (p, x) := cut?_eq_some_iff.2 ⟨rfl, hp⟩
  have hy : cut? sep (q ++ sep :: y) = some (q, y) := cut?_eq_some_iff.2 ⟨rfl, hq⟩
  rw [h, hy] at hx
  cases hx
  exact ⟨rfl, rfl⟩

/-- A marker that ends with a separator begins a text only up to the first separator there. -/
theorem eq_of_append_separator_prefix {sep : Char} {m u x : Text} (hm : sep ∉ m) (hu : sep ∉ u)
    (h : m ++ [sep] <+: u ++ sep :: x) : u = m := by
  obtain ⟨y, hy⟩ := h
  rw [List.append_assoc] at hy
  exact (append_separator_inj hm hu hy).1.symm

/-- The text ends with a word character. -/
def EndsInWord (t : Text) : Prop := t.getLast?.any isWord = true

instance (t : Text) : Decidable (EndsInWord t) :=
  inferInstanceAs (Decidable (t.getLast?.any isWord = true))

theorem EndsInWord.ne_nil {t : Text} (h : EndsInWord t) : t ≠ [] := by
  rintro rfl
  cases h

theorem endsInWord_append {t u : Text} (h : EndsInWord u) : EndsInWord (t ++ u) := by
  rw [EndsInWord, List.getLast?_append, List.getLast?_eq_some_getLast h.ne_nil, Option.some_or,
    ← List.getLast?_eq_some_getLast h.ne_nil]
  exact h

end Text

namespace Reference

open Text Piece

variable {n : Nat} {p q r t : Text} {c : Char}

/-! ### Runs -/

/-- A run is a part of a reference: at least one character, no blank and no separator. -/
def IsRun (p : Text) : Prop := p ≠ [] ∧ ∀ c ∈ p, isPart c = true

instance (p : Text) : Decidable (IsRun p) :=
  decidable_of_iff (p ≠ [] ∧ p.all isPart = true) (and_congr_right' List.all_eq_true)

theorem not_isPart_separator : ¬isPart '#' = true := by decide

theorem IsRun.separator_not_mem (hp : IsRun p) : '#' ∉ p :=
  fun h => not_isPart_separator (hp.2 _ h)

/-- What is taken off the front of a text are characters of parts. -/
theorem isPart_of_mem_takeWhile (h : c ∈ t.takeWhile isPart) : isPart c = true :=
  List.all_eq_true.1 List.all_takeWhile c h

/-- A run goes on with what stands behind it. -/
theorem takeWhile_append (hp : ∀ c ∈ p, isPart c = true) (r : Text) :
    (p ++ r).takeWhile isPart = p ++ r.takeWhile isPart :=
  List.takeWhile_append_of_pos hp

/-- A separator ends a run. -/
theorem takeWhile_append_separator (hp : ∀ c ∈ p, isPart c = true) (r : Text) :
    (p ++ '#' :: r).takeWhile isPart = p ∧ (p ++ '#' :: r).dropWhile isPart = '#' :: r := by
  constructor
  · rw [takeWhile_append hp, List.takeWhile_cons_of_neg not_isPart_separator, List.append_nil]
  · rw [List.dropWhile_append_of_pos hp, List.dropWhile_cons_of_neg not_isPart_separator]

/-- A run up to its last word character is the part of the run behind which there is none. -/
theorem toLastWord_eq_iff (hp : p ≠ []) :
    toLastWord t = p ↔ EndsInWord p ∧ ∃ tail, t = p ++ tail ∧ ∀ c ∈ tail, isWord c = false := by
  have htoLastWord : toLastWord t = t.rdropWhile (!isWord ·) := rfl
  constructor
  · rintro rfl
    rw [htoLastWord] at hp ⊢
    have hlast := List.rdropWhile_last_not _ _ hp
    refine ⟨?_, t.rtakeWhile (!isWord ·), List.rdropWhile_append_rtakeWhile.symm, ?_⟩
    · rw [EndsInWord, List.getLast?_eq_some_getLast hp]
      simpa using hlast
    · intro c hc
      simpa using List.mem_rtakeWhile_imp hc
  · rintro ⟨hword, tail, rfl, htail⟩
    obtain ⟨q, c, rfl⟩ := (List.eq_nil_or_concat' p).resolve_left hp
    have hc : isWord c = true := by simpa [EndsInWord] using hword
    have hnil : tail.reverse.dropWhile (!isWord ·) = [] := by simpa using htail
    rw [toLastWord, List.reverse_append, List.dropWhile_append, hnil]
    simp [hc]

theorem toLastWord_eq_self_iff (ht : t ≠ []) : toLastWord t = t ↔ EndsInWord t := by
  rw [toLastWord_eq_iff ht]
  constructor
  · intro h
    exact h.1
  · intro h
    exact ⟨h, [], (List.append_nil t).symm, by simp⟩

theorem toLastWord_eq_nil_iff : toLastWord t = [] ↔ ∀ c ∈ t, isWord c = false := by
  have htoLastWord : toLastWord t = t.rdropWhile (!isWord ·) := rfl
  rw [htoLastWord, List.rdropWhile_eq_nil_iff]
  simp

/-- Behind a word character, a text goes on to its own last word character. -/
theorem toLastWord_append (hp : EndsInWord p) (t : Text) :
    toLastWord (p ++ t) = p ++ toLastWord t := by
  by_cases ht : toLastWord t = []
  · rw [ht, List.append_nil, toLastWord_eq_iff hp.ne_nil]
    exact ⟨hp, t, rfl, toLastWord_eq_nil_iff.1 ht⟩
  · obtain ⟨hword, tail, htail, hnone⟩ := (toLastWord_eq_iff ht).1 rfl
    rw [toLastWord_eq_iff (List.append_ne_nil_of_right_ne_nil p ht)]
    refine ⟨endsInWord_append hword, tail, ?_, hnone⟩
    rw [List.append_assoc, ← htail]

/-! ### Payloads -/

/-- The payloads with `n` separators: runs, the last one ending with a word character. -/
inductive IsPayload : Nat → Text → Prop where
  | last {p : Text} (hp : IsRun p) (hword : EndsInWord p) : IsPayload 0 p
  | cons {n : Nat} {p q : Text} (hp : IsRun p) (hq : IsPayload n q) :
      IsPayload (n + 1) (p ++ '#' :: q)

theorem IsPayload.ne_nil (h : IsPayload n p) : p ≠ [] := by
  cases h with
  | last hp _ => exact hp.1
  | cons hp _ => simp [hp.1]

theorem IsPayload.endsInWord (h : IsPayload n p) : EndsInWord p := by
  induction h with
  | last _ hword => exact hword
  | @cons n p q _ _ ih =>
      rw [List.append_cons]
      exact endsInWord_append ih

/-- No word character follows before the run that `r` goes on with is over, so that a reference may
end in front of `r`. -/
def Settled (r : Text) : Prop := ∀ c ∈ r.takeWhile isPart, isWord c = false

instance (r : Text) : Decidable (Settled r) :=
  decidable_of_iff ((r.takeWhile isPart).all (!isWord ·) = true) (by simp [Settled])

theorem settled_nil : Settled [] := by simp [Settled]

/-- What follows a character of a settled text is settled, too, unless the run is over. -/
theorem settled_cons_iff :
    Settled (c :: r) ↔ (isPart c = true → isWord c = false ∧ Settled r) := by
  by_cases hc : isPart c = true
  · simp [Settled, List.takeWhile_cons_of_pos hc, hc]
  · simp [Settled, List.takeWhile_cons_of_neg hc, hc]

/-- Behind a run another character follows, or nothing. -/
theorem takeWhile_dropWhile (t : Text) : (t.dropWhile isPart).takeWhile isPart = [] := by
  cases hr : t.dropWhile isPart with
  | nil => rfl
  | cons c r =>
      have hc := List.head?_dropWhile_not isPart t
      rw [hr] at hc
      exact List.takeWhile_cons_of_neg (by simpa using hc)

/-- **A payload goes on to the last word character** of the run that it is continued by. -/
theorem parts?_append (hp : IsPayload n p) (r : Text) :
    parts? n (p ++ r) = some (p ++ toLastWord (r.takeWhile isPart)) := by
  induction hp with
  | @last p hp hword =>
      have hne : p ++ toLastWord (r.takeWhile isPart) ≠ [] :=
        List.append_ne_nil_of_left_ne_nil hp.1 _
      rw [parts?, takeWhile_append hp.2, toLastWord_append hword]
      simpa using hne
  | @cons n q p hq _ ih =>
      have hne : ¬q.isEmpty = true := by simpa using hq.1
      obtain ⟨htake, hdrop⟩ := takeWhile_append_separator hq.2 (p ++ r)
      rw [List.append_assoc, List.cons_append, parts?, htake, hdrop, if_neg hne]
      simp only [ih, Option.map_some, List.append_assoc, List.cons_append]

/-- **Exactly the payloads are found,** as far as they go. -/
theorem parts?_eq_some_iff :
    parts? n t = some p ↔ ∃ r, t = p ++ r ∧ IsPayload n p ∧ Settled r := by
  constructor
  · intro h
    induction n generalizing t p with
    | zero =>
        obtain ⟨hne, rfl⟩ : ¬toLastWord (t.takeWhile isPart) = [] ∧
            toLastWord (t.takeWhile isPart) = p := by
          simpa only [parts?, List.isEmpty_iff, Option.ite_none_left_eq_some,
            Option.some.injEq] using h
        obtain ⟨hword, tail, htake, htail⟩ := (toLastWord_eq_iff hne).1 rfl
        have hpart : ∀ c ∈ toLastWord (t.takeWhile isPart) ++ tail, isPart c = true := by
          rw [← htake]
          exact fun c => isPart_of_mem_takeWhile
        refine ⟨tail ++ t.dropWhile isPart, ?_, .last ⟨hne, ?_⟩ hword, ?_⟩
        · rw [← List.append_assoc, ← htake, List.takeWhile_append_dropWhile]
        · exact fun c hc => hpart c (List.mem_append_left _ hc)
        · rw [Settled, takeWhile_append (fun c hc => hpart c (List.mem_append_right _ hc)),
            takeWhile_dropWhile, List.append_nil]
          exact htail
    | succ n ih =>
        rw [parts?] at h
        obtain ⟨hne, h⟩ := Option.ite_none_left_eq_some.1 h
        split at h
        · next r hdrop =>
          obtain ⟨p', hp', rfl⟩ := Option.map_eq_some_iff.1 h
          obtain ⟨r', rfl, hpayload, hr'⟩ := ih hp'
          have hrun : IsRun (t.takeWhile isPart) :=
            ⟨by simpa using hne, fun c => isPart_of_mem_takeWhile⟩
          refine ⟨r', ?_, .cons hrun hpayload, hr'⟩
          calc t = t.takeWhile isPart ++ t.dropWhile isPart :=
                List.takeWhile_append_dropWhile.symm
            _ = t.takeWhile isPart ++ '#' :: p' ++ r' := by rw [hdrop]; simp
        · cases h
  · rintro ⟨r, rfl, hp, hr⟩
    rw [parts?_append hp, toLastWord_eq_nil_iff.2 hr, List.append_nil]

/-! ### Tokens -/

variable {e : Reference} {k : Token} {before : Option Char}

/-- A token of a reference consists of the marker and a payload; `r` is what follows it. -/
structure Refers (e : Reference) (k : Token) (r : Text) : Prop where
  opening_eq : k.opening = e.marker
  closing_eq : k.closing = []
  isPayload : IsPayload e.separators k.payload
  settled : Settled r

theorem Refers.envelope_eq (h : e.Refers k r) : k.envelope = e.marker ++ k.payload := by
  rw [Token.envelope, h.opening_eq, h.closing_eq, List.append_nil]

/-- A reference ends with a word character. -/
theorem Refers.endsInWord (h : e.Refers k r) : EndsInWord k.envelope := by
  rw [h.envelope_eq]
  exact endsInWord_append h.isPayload.endsInWord

theorem token?_of_not_marked (h : ¬e.marker <+: t) (before : Option Char) :
    e.token? before t = none := by
  rw [token?, after?_eq_none_iff.2 h, ite_self]

/-- **Exactly these tokens are found,** where no word character stands in front. -/
theorem token?_eq_some_iff :
    e.token? before t = some k ↔
      before.any isWord = false ∧ ∃ r, t = k.envelope ++ r ∧ e.Refers k r := by
  constructor
  · intro h
    obtain ⟨hbefore, h⟩ := Option.ite_none_left_eq_some.1 h
    split at h
    · cases h
    · next u hu =>
      obtain ⟨p, hp, rfl⟩ := Option.map_eq_some_iff.1 h
      obtain ⟨r, rfl, hpayload, hr⟩ := parts?_eq_some_iff.1 hp
      refine ⟨by simpa using hbefore, r, ?_, rfl, rfl, hpayload, hr⟩
      rw [after?_eq_some_iff.1 hu, Token.envelope, List.append_nil, List.append_assoc]
  · rintro ⟨hbefore, r, rfl, hk⟩
    have hp : parts? e.separators (k.payload ++ r) = some k.payload :=
      parts?_eq_some_iff.2 ⟨r, rfl, hk.isPayload, hk.settled⟩
    rw [token?, hbefore, if_neg Bool.false_ne_true, hk.envelope_eq, List.append_assoc,
      after?_append]
    obtain ⟨o, p, z⟩ := k
    obtain ⟨rfl, rfl, -, -⟩ := hk
    simp only [hp, Option.map_some]

/-- What a reference finds stands at the place. -/
theorem lawful (e : Reference) : e.token?.Lawful where
  envelope_isPrefix h := by
    obtain ⟨-, r, rfl, -⟩ := token?_eq_some_iff.1 h
    exact List.prefix_append _ _
  envelope_ne_nil h := by
    obtain ⟨-, r, -, hk⟩ := token?_eq_some_iff.1 h
    exact hk.endsInWord.ne_nil

/-- What follows the marker of a reference that is a whole text is a payload. -/
theorem isPayload_of_scan_eq {s : Span} (hscan : Token.scan e.token? (e.marker ++ p) = [s])
    (hs : s.envelope (e.marker ++ p) = e.marker ++ p) : IsPayload e.separators p := by
  obtain ⟨k, hk, henvelope⟩ := exists_find_of_scan_eq (lawful e) hscan hs
  obtain ⟨-, r, -, hrefers⟩ := token?_eq_some_iff.1 hk
  rw [hrefers.envelope_eq] at henvelope
  exact List.append_cancel_left henvelope ▸ hrefers.isPayload

/-! ### References in the places of references -/

/-- The marker begins with a word character that may stand in parts. -/
def WordMarked (e : Reference) : Prop :=
  ∃ c m, e.marker = c :: m ∧ isPart c = true ∧ isWord c = true

/-- Pieces whose tokens are references where they stand: none behind a word character, and each in
front of a settled text.  Between them there may be anything, even what looks like a reference. -/
inductive Stands (e : Reference) : (before : Option Char) → List Piece → Prop where
  | nil {before : Option Char} : Stands e before []
  | plain {before : Option Char} {c : Char} {ps : List Piece} (h : Stands e (some c) ps) :
      Stands e before (.plain c :: ps)
  | token {before : Option Char} {k : Token} {ps : List Piece}
      (hbefore : before.any isWord = false) (hk : e.Refers k (text ps))
      (h : Stands e k.envelope.getLast? ps) : Stands e before (.token k :: ps)

/-- The tokens that a text is cut into are references where they stand. -/
theorem Stands.of_reads {ps : List Piece} (hps : Reads e.token? before ps) :
    Stands e before ps := by
  induction hps with
  | nil => exact .nil
  | plain _ _ ih => exact .plain ih
  | token hsome _ ih =>
      obtain ⟨hbefore, r, htext, hk⟩ := token?_eq_some_iff.1 hsome
      obtain rfl := List.append_cancel_left htext
      exact .token hbefore hk ih

/-- **What other references are put into a settled text does not matter:** it is settled, still,
since the first one comes behind the end of the run. -/
theorem settled_text_withTokens (he : e.WordMarked) {ps : List Piece} (hps : Stands e before ps)
    (hsettled : Settled (text ps)) (ks : List Token) : Settled (text (withTokens ps ks)) := by
  induction hps with
  | nil => exact hsettled
  | plain _ ih =>
      rw [text, settled_cons_iff] at hsettled
      rw [withTokens, text, settled_cons_iff]
      exact fun hc => ⟨(hsettled hc).1, ih (hsettled hc).2⟩
  | token _ hk _ _ =>
      -- the text would begin with a word character
      obtain ⟨c, m, hmarker, hpart, hword⟩ := he
      rw [text, hk.envelope_eq, hmarker, List.cons_append, List.cons_append,
        settled_cons_iff] at hsettled
      rw [(hsettled hpart).1] at hword
      cases hword

/-- **References put in the places of references are found where they were put,** and nothing else
is found, when the text did not hold their marker.  The two texts may stand behind different
characters, as long as the second one is no word character where the first one is not. -/
theorem reads_withTokens {e' : Reference} (he : e.WordMarked) (hmarker : e'.marker.Borderless)
    {ps : List Piece} {ks : List Token} (hlen : ks.length = (tokens ps).length)
    (hks : ∀ k ∈ ks, e'.Refers k []) (hps : Stands e before ps)
    (hno : ¬e'.marker <:+: text ps) {before' : Option Char}
    (hbefore : before.any isWord = false → before'.any isWord = false) :
    Reads e'.token? before' (withTokens ps ks) := by
  induction hps generalizing ks before' with
  | nil => exact .nil
  | @plain before c ps hps ih =>
      have hlen' : ks.length = (tokens ps).length := hlen
      have hunmarked := not_prefix_text_withTokens hmarker hlen'
        (fun k hk => (hks k hk).opening_eq) hno
      exact .plain (token?_of_not_marked hunmarked before')
        (ih hlen hks (not_isInfix_of_cons hno) id)
  | @token before l ps hword hl hps ih =>
      cases ks with
      | nil => simp [tokens] at hlen
      | cons k ks =>
          have hk := hks k List.mem_cons_self
          have hrefers : e'.Refers k (text (withTokens ps ks)) :=
            ⟨hk.opening_eq, hk.closing_eq, hk.isPayload,
              settled_text_withTokens he hps hl.settled ks⟩
          refine .token (token?_eq_some_iff.2 ⟨hbefore hword, _, rfl, hrefers⟩)
            (ih ?_ (fun k' hk' => hks k' (List.mem_cons_of_mem k hk')) (not_isInfix_of_cons hno) ?_)
          · simpa [tokens] using hlen
          · intro h
            rw [← Bool.not_eq_true] at h
            exact absurd hl.endsInWord h

end Reference

end InlineSecrets
