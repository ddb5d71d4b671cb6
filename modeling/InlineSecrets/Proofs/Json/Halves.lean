/-
**Values with halves of characters in them.**

The writer of texts for secrets takes values that no JSON text stands for: a text in them may have
halves of characters, and an integer more digits than are written.  Where a value has none of that,
what is written is its plain text.

Main results:

* `InlineSecrets.Json.canonicalWith_mapTexts` — a canonical text depends on how texts are ordered
  and written, and on nothing else about them;
* `InlineSecrets.Json.stringify_of_not_fits` — integers that are too long are not written;
* `InlineSecrets.Json.stringify_ofTexts` — **a value of characters and of integers that are not too
  long is written as its plain text.**
-/

import InlineSecrets.Proofs.Json.Reordering

set_option relaxedAutoImplicit false
set_option autoImplicit false

namespace InlineSecrets

namespace Json

variable {τ τ' : Type}

/-- **A canonical text depends on how texts are ordered and written,** and on nothing else about
them. -/
theorem canonicalWith_mapTexts {le : τ → τ → Bool} {quote : τ → Text}
    {le' : τ' → τ' → Bool} {quote' : τ' → Text} {f : τ → τ'}
    (hle : ∀ a b, le' (f a) (f b) = le a b) (hquote : ∀ a, quote' (f a) = quote a) (j : Json τ) :
    canonicalWith le' quote' (j.mapTexts f) = canonicalWith le quote j := by
  induction j with
  | null | bool | int | float => rfl
  | text t => exact hquote t
  | list items ih =>
      rw [mapTexts_list, canonicalWith_list, canonicalWith_list, List.map_map]
      have heq : items.map (canonicalWith le' quote' ∘ mapTexts f) =
          items.map (canonicalWith le quote) := List.map_congr_left ih
      rw [heq]
  | map es ih =>
      rw [mapTexts_map, canonicalWith_map, canonicalWith_map, Assoc.sortedBy_map _ hle,
        List.map_map]
      have hmem : ∀ e ∈ Assoc.sortedBy le es, e ∈ es :=
        fun e he => (Assoc.perm_sortedBy le es).mem_iff.1 he
      have heq : (Assoc.sortedBy le es).map
          ((fun e => quote' e.1 ++ ':' :: canonicalWith le' quote' e.2) ∘
            fun e => (f e.1, mapTexts f e.2)) =
          (Assoc.sortedBy le es).map fun e => quote e.1 ++ ':' :: canonicalWith le quote e.2 := by
        refine List.map_congr_left fun e he => ?_
        rw [Function.comp_apply, hquote, ih e (hmem e he)]
      rw [heq]

/-- A text without halves is written as it is among texts. -/
theorem quoteCodes_ofText (t : Text) : quoteCodes (Codes.ofText t) = quote t := by
  have hescape : ∀ c : Char, escapeCode c.toNat = escapeChar c := by
    intro c
    rw [escapeCode, Codes.isHalf_toNat, if_neg Bool.false_ne_true, Char.ofNat_toNat]
  rw [quoteCodes, quote, Codes.ofText, List.flatMap_map, funext hescape]

theorem fits_list (items : List (Json τ)) : (list items).fits = items.all fits := by
  have heq : ∀ items : List (Json τ), fitsItems items = items.all fits := by
    intro items
    induction items with
    | nil => rfl
    | cons j items ih => rw [fitsItems, ih, List.all_cons]
  rw [fits, heq]

theorem fits_map (es : List (τ × Json τ)) : (map es).fits = es.all fun e => e.2.fits := by
  have heq : ∀ es : List (τ × Json τ), fitsEntries es = es.all fun e => e.2.fits := by
    intro es
    induction es with
    | nil => rfl
    | cons e es ih => rw [fitsEntries, ih, List.all_cons]
  rw [fits, heq]

/-- Other texts do not make integers longer. -/
theorem fits_mapTexts (f : τ → τ') (j : Json τ) : (j.mapTexts f).fits = j.fits := by
  induction j with
  | null | bool | int | float | text => rfl
  | list items ih =>
      rw [mapTexts_list, fits_list, fits_list, List.all_map, Bool.eq_iff_iff, List.all_eq_true,
        List.all_eq_true]
      exact forall₂_congr fun j hj => by rw [Function.comp_apply, ih j hj]
  | map es ih =>
      rw [mapTexts_map, fits_map, fits_map, List.all_map, Bool.eq_iff_iff, List.all_eq_true,
        List.all_eq_true]
      exact forall₂_congr fun e he => by rw [Function.comp_apply, ih e he]

/-- What is no text and has no integers that are too long is written as its canonical text. -/
theorem stringify_of_fits {j : Json Codes} (h : j.fits = true) (hj : ∀ t, j ≠ text t) :
    j.stringify = .ok (Codes.ofText (canonicalWith Codes.le quoteCodes j)) := by
  rw [stringify, if_pos h]
  exact hj

/-- **What has integers that are too long is not written.** -/
theorem stringify_of_not_fits {j : Json Codes} (h : j.fits = false) :
    j.stringify = .error .tooManyDigits := by
  rw [stringify, h, if_neg Bool.false_ne_true]
  -- a text has no integers in it
  rintro t rfl
  cases h

/-- **A value of characters and of integers that are not too long is written as its plain text.** -/
theorem stringify_ofTexts {j : Json} (h : j.fits = true) :
    (j.mapTexts Codes.ofText).stringify = .ok (Codes.ofText j.plainText) := by
  have hfits := (fits_mapTexts Codes.ofText j).trans h
  have hcanonical : canonicalWith Codes.le quoteCodes (j.mapTexts Codes.ofText) = j.canonical :=
    canonicalWith_mapTexts (fun _ _ => rfl) quoteCodes_ofText j
  cases j with
  | text t => rfl
  | null | bool | int | float | list | map =>
      rw [stringify_of_fits hfits nofun, hcanonical]
      rfl

end Json

end InlineSecrets
