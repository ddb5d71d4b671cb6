/-
**References in quotes.**

A quotation mark may be a character of a reference, and a reference goes on as far as its last run
can go.  So a reference between quotes ends in front of the closing one only when no word character
follows that before the next blank or separator, or the end of the text.  In a document without
blanks it goes on into what follows, and ends with the last word character there.

Main definitions:

* `InlineSecrets.Text.IsName` — texts of word characters;
* `InlineSecrets.Reference.inQuotes`, `InlineSecrets.Reference.quotedPayload` — a text in quotes,
  and what is read of a payload there;
* `InlineSecrets.Recogniser.first?` — the first token of a text.

Main results:

* `InlineSecrets.Reference.first?_inQuotes` — the first reference of a text is the one in quotes;
* `InlineSecrets.Shape.first?_inQuotes_iff` — **a lookup or a declaration in quotes stays inside of
  them exactly when what follows is settled.**
-/

import InlineSecrets.Proofs.Matching

set_option relaxedAutoImplicit false
set_option autoImplicit false

namespace InlineSecrets

open Reference

namespace Text

/-- A name has at least one character, and word characters only. -/
def IsName (t : Text) : Prop := t ≠ [] ∧ ∀ c ∈ t, isWord c = true

instance (t : Text) : Decidable (IsName t) :=
  decidable_of_iff (t ≠ [] ∧ t.all isWord = true) (and_congr_right' List.all_eq_true)

variable {t : Text}

/-- A word character may stand in parts. -/
theorem isPart_of_isWord {c : Char} (h : isWord c = true) : isPart c = true := by
  rw [isPart, Bool.and_eq_true, bne_iff_ne, Bool.not_eq_true']
  constructor
  · rintro rfl
    exact absurd h (by decide)
  · rw [← Bool.not_eq_true]
    intro hblank
    rw [isWord_eq_false_of_isBlank hblank] at h
    cases h

theorem IsName.isRun (h : IsName t) : IsRun t := ⟨h.1, fun c hc => isPart_of_isWord (h.2 c hc)⟩

theorem IsName.endsInWord (h : IsName t) : EndsInWord t := by
  rw [EndsInWord, List.getLast?_eq_some_getLast h.1]
  exact h.2 _ (List.getLast_mem h.1)

/-- A name is the last run of a payload. -/
theorem IsName.isPayload (h : IsName t) : IsPayload 0 t := .last h.isRun h.endsInWord

end Text

namespace Reference

open Piece Text

variable {e : Reference} {pre p post : Text}

/-- The text `u` in quotes, between two others. -/
def inQuotes (pre u post : Text) : Text := pre ++ '"' :: (u ++ '"' :: post)

/-- What is read of a payload that stands in quotes: it goes on to the last word character behind
the closing quote, in front of the next blank or separator. -/
def quotedPayload (p post : Text) : Text := p ++ toLastWord ('"' :: post.takeWhile isPart)

/-- It stays inside of the quotes when no word character follows. -/
theorem quotedPayload_eq_iff : quotedPayload p post = p ↔ Settled post := by
  have hword : isWord '"' = false := by decide
  rw [quotedPayload, List.append_right_eq_self, toLastWord_eq_nil_iff, List.forall_mem_cons]
  constructor
  · intro h
    exact h.2
  · intro h
    exact ⟨hword, h⟩

/-- The reference that is found behind a quote. -/
theorem token?_quoted (hp : IsPayload e.separators p) (post : Text) :
    e.token? (some '"') (e.marker ++ p ++ '"' :: post) =
      some ⟨e.marker, quotedPayload p post, []⟩ := by
  have hparts := parts?_append hp ('"' :: post)
  rw [List.takeWhile_cons_of_pos (by decide)] at hparts
  rw [token?, if_neg (by decide), List.append_assoc, after?_append]
  simp only [hparts, Option.map_some, quotedPayload]

end Reference

/-- The place and the payload of the first token that a recogniser finds in a text. -/
def Recogniser.first? (find : Recogniser) (t : Text) : Option (Int × Text) :=
  (Token.scan find t).head?.map fun s => (s.envelopeStart, s.payload t)

namespace Reference

open Piece Text

variable {e : Reference} {pre p : Text}

/-- **The first reference of a text is the one behind the first quote,** when the marker does not
occur in front of it. -/
theorem first?_inQuotes (hquote : '"' ∉ e.marker) (hpre : ¬e.marker <:+: pre)
    (hp : IsPayload e.separators p) (post : Text) :
    e.token?.first? (inQuotes pre (e.marker ++ p) post) =
      some ((pre.length : Int) + 1, quotedPayload p post) := by
  have hk := token?_quoted hp post
  generalize htoken : Token.mk e.marker (quotedPayload p post) [] = k at hk
  obtain ⟨rest, hrest⟩ := (lawful e).envelope_isPrefix hk
  obtain ⟨ps, rfl, hps⟩ := exists_reads (lawful e) k.envelope.getLast? rest
  have htext : inQuotes pre (e.marker ++ p) post = (pre ++ ['"']) ++ (k.envelope ++ text ps) := by
    rw [inQuotes, hrest]
    exact List.append_cons pre _ _
  rw [← hrest] at hk
  have hreads : Reads e.token? none ((pre ++ ['"']).map .plain ++ .token k :: ps) := by
    refine reads_map_plain_append (fun before n hn => token?_of_not_marked (fun h => ?_) before) ?_
    · -- the marker would begin in front of the quote, and so it would end there
      rw [List.length_append, List.length_singleton] at hn
      rw [List.drop_append_of_le_length (by omega), List.append_assoc] at h
      have hbegins := prefix_of_prefix_append_cons hquote h
      exact hpre (hbegins.isInfix.trans (List.drop_suffix n pre).isInfix)
    · rw [List.getLast?_append]
      exact .token hk hps
  have hscan := scan_text (lawful e) hreads
  have hpayload := (span_slices k (pre ++ ['"']) (text ps)).1
  rw [text_append, text_map_plain, text, spansFrom_map_plain_append, spansFrom, Nat.zero_add,
    ← htext] at hscan
  rw [← htext] at hpayload
  rw [Recogniser.first?, hscan, List.head?_cons, Option.map_some, hpayload, ← htoken]
  simp [Token.span]

/-- **What was written is found exactly when what follows the quotes is settled.** -/
theorem first?_inQuotes_eq_iff (hquote : '"' ∉ e.marker) (hpre : ¬e.marker <:+: pre)
    (hp : IsPayload e.separators p) (post : Text) :
    e.token?.first? (inQuotes pre (e.marker ++ p) post) = some ((pre.length : Int) + 1, p) ↔
      Settled post := by
  rw [first?_inQuotes hquote hpre hp, Option.some.injEq, Prod.mk.injEq, quotedPayload_eq_iff]
  exact and_iff_right rfl

end Reference

/-! ### Lookups and declarations -/

namespace Shape

open Text

/-- **A lookup or a declaration in quotes stays inside of them exactly when what follows is
settled.**  Behind a text in which no marker occurs, the first lookup, or the first declaration, is
the one behind the quote.  When its key, and its value, are names, its payload is what was written
if and only if no word character follows the closing quote before the next blank or separator or the
end of the text; else it goes on up to the last one of these. -/
theorem first?_inQuotes_iff {pre path key : Text} (hpre : ¬"vault".toList <:+: pre)
    (hpath : IsRun path) (hkey : IsName key) (post : Text) :
    (lookup.token?.first? (inQuotes pre (lookupMarker ++ (path ++ '#' :: key)) post) =
        some ((pre.length : Int) + 1,
          path ++ '#' :: key ++ toLastWord ('"' :: post.takeWhile isPart)) ∧
      (lookup.token?.first? (inQuotes pre (lookupMarker ++ (path ++ '#' :: key)) post) =
          some ((pre.length : Int) + 1, path ++ '#' :: key) ↔
        ∀ c ∈ post.takeWhile isPart, isWord c = false)) ∧
    ∀ value, IsName value →
      declaration.token?.first?
          (inQuotes pre (declarationMarker ++ (path ++ '#' :: (key ++ '#' :: value))) post) =
        some ((pre.length : Int) + 1,
          path ++ '#' :: (key ++ '#' :: value) ++ toLastWord ('"' :: post.takeWhile isPart)) ∧
      (declaration.token?.first?
          (inQuotes pre (declarationMarker ++ (path ++ '#' :: (key ++ '#' :: value))) post) =
          some ((pre.length : Int) + 1, path ++ '#' :: (key ++ '#' :: value)) ↔
        ∀ c ∈ post.takeWhile isPart, isWord c = false) := by
  constructor
  · have hmarker : ¬lookupMarker <:+: pre := fun h => hpre (List.IsInfix.trans (by decide) h)
    have hpayload : IsPayload 1 (path ++ '#' :: key) := .cons hpath hkey.isPayload
    have hquote : '"' ∉ lookupMarker := by decide
    exact ⟨first?_inQuotes (e := ⟨lookupMarker, 1⟩) hquote hmarker hpayload post,
      first?_inQuotes_eq_iff (e := ⟨lookupMarker, 1⟩) hquote hmarker hpayload post⟩
  · intro value hvalue
    have hmarker : ¬declarationMarker <:+: pre := fun h => hpre (List.IsInfix.trans (by decide) h)
    have hpayload : IsPayload 2 (path ++ '#' :: (key ++ '#' :: value)) :=
      .cons hpath (.cons hkey.isRun hvalue.isPayload)
    have hquote : '"' ∉ declarationMarker := by decide
    exact ⟨first?_inQuotes (e := ⟨declarationMarker, 2⟩) hquote hmarker hpayload post,
      first?_inQuotes_eq_iff (e := ⟨declarationMarker, 2⟩) hquote hmarker hpayload post⟩

/-- A list over two lines, in which both stay inside of their quotes. -/
theorem first?_inQuotes_iff_lines :
    lookup.token?.first? (inQuotes "[".toList "vault:a/b#k".toList ",\n1]".toList) =
        some (2, "a/b#k".toList) ∧
      declaration.token?.first? (inQuotes "[".toList "vault-secret:a/b#k#v".toList ",\n1]".toList) =
        some (2, "a/b#k#v".toList) := by
  have hpre : ¬"vault".toList <:+: "[".toList := by decide
  have hpath : IsRun "a/b".toList := by decide
  have hkey : IsName "k".toList := by decide
  have hvalue : IsName "v".toList := by decide
  have hpost : Settled ",\n1]".toList := by decide
  obtain ⟨⟨-, hlookup⟩, hdeclaration⟩ := first?_inQuotes_iff hpre hpath hkey ",\n1]".toList
  exact ⟨hlookup.2 hpost, (hdeclaration "v".toList hvalue).2.2 hpost⟩

/-- **In a list without blanks, a lookup and a declaration go on behind their quotes.** -/
theorem first?_inQuotes_compact :
    ¬"vault".toList <:+: "[".toList ∧ IsRun "p".toList ∧ IsName "k".toList ∧ IsName "v".toList ∧
      lookup.token?.first? (inQuotes "[".toList "vault:p#k".toList ",1]".toList) =
        some (2, "p#k\",1".toList) ∧
      declaration.token?.first? (inQuotes "[".toList "vault-secret:p#k#v".toList ",1]".toList) =
        some (2, "p#k#v\",1".toList) :=
  ⟨by decide, by decide, by decide, by decide, rfl, rfl⟩

end Shape

end InlineSecrets
