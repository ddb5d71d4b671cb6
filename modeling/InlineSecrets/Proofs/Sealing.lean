/-
**A text with sealed secrets is opened again.**

A tool with a key puts sealed secrets in the place of plain ones.  However the text around them is
written, the way back finds exactly these sealed secrets, provided that the text did not hold the
marker that opens one: what is sealed is written in signs among which there is neither a colon nor a
line break, and no proper end of the marker is also its beginning.  So the way back yields the text
as it was, or the text with its plain secrets unwrapped.

Main definitions:

* `InlineSecrets.Cipher.IsSealed` — how sealed payloads are written;
* `InlineSecrets.Token.encrypted` — the token of a sealed payload;
* `InlineSecrets.Piece.withSealed` — pieces of a text with sealed payloads in place of its tokens;
* `InlineSecrets.Action.inverse` — the way back of an action.

Main results:

* `InlineSecrets.Cipher.exists_sealText` — every payload is sealed, and opened again;
* `InlineSecrets.Piece.reads_withSealed` — sealed secrets are found where they were put;
* `InlineSecrets.Tool.run_opening` — the sealed secrets of a text give way to their payloads;
* `InlineSecrets.Tool.run_run_inverse` — **a sealed text is opened again.**
-/

import InlineSecrets.Proofs.Base64
import InlineSecrets.Proofs.Enclosed
import InlineSecrets.Proofs.Utf8
import InlineSecrets.Tool
import Mathlib.Data.List.Forall2

set_option relaxedAutoImplicit false
set_option autoImplicit false

namespace InlineSecrets

/-! ### Transformations that do not fail -/

namespace Splicing

variable {σ ε : Type} {f : Transform σ ε}

/-- A transformation that never fails yields a result for each payload. -/
theorem exists_transformAll {R : Text → Text → Prop}
    (hf : ∀ p s, ∃ r s', f p s = (.ok r, s') ∧ R r p) (ps : List Text) (s : σ) :
    ∃ rs s', transformAll f ps s = (.ok rs, s') ∧ List.Forall₂ R rs ps := by
  induction ps generalizing s with
  | nil => exact ⟨[], s, rfl, .nil⟩
  | cons p ps ih =>
      obtain ⟨r, s₁, hr, hR⟩ := hf p s
      obtain ⟨rs, s', hrs, hRs⟩ := ih s₁
      exact ⟨r :: rs, s', transformAll_cons_eq_ok_iff.2 ⟨r, s₁, rs, hr, hrs, rfl⟩, .cons hR hRs⟩

/-- A transformation that succeeds where an invariant holds, and keeps it, succeeds for one payload
after the other. -/
theorem exists_transformAll_of_forall₂ {I : σ → Prop} {R : Text → Text → Prop}
    (hf : ∀ p r s, R p r → I s → ∃ s', f p s = (.ok r, s') ∧ I s') {ps rs : List Text}
    (h : List.Forall₂ R ps rs) {s : σ} (hs : I s) :
    ∃ s', transformAll f ps s = (.ok rs, s') ∧ I s' := by
  induction h generalizing s with
  | nil => exact ⟨s, rfl, hs⟩
  | cons hR _ ih =>
      obtain ⟨s₁, hp, hs₁⟩ := hf _ _ s hR hs
      obtain ⟨s', hps, hs'⟩ := ih hs₁
      exact ⟨s', transformAll_cons_eq_ok_iff.2 ⟨_, s₁, _, hp, hps, rfl⟩, hs'⟩

/-- A transformation that leads back, and leaves the state as it is, leads back for each payload. -/
theorem transformAll_of_forall₂ {R : Text → Text → Prop}
    (hf : ∀ {r p} s, R r p → f r s = (.ok p, s)) {rs ps : List Text} (h : List.Forall₂ R rs ps)
    (s : σ) :
    transformAll f rs s = (.ok ps, s) := by
  have hkeep : ∀ r p s₁, R r p → s₁ = s → ∃ s₂, f r s₁ = (.ok p, s₂) ∧ s₂ = s := by
    rintro r p s₁ hR rfl
    exact ⟨s₁, hf s₁ hR, rfl⟩
  obtain ⟨s', hall, rfl⟩ := exists_transformAll_of_forall₂ hkeep h rfl
  exact hall

end Splicing

/-! ### Sealed payloads -/

namespace Cipher

/-- Sealed payloads are not empty and written in the signs of Base64. -/
def IsSealed (r : Text) : Prop := r ≠ [] ∧ ∀ c ∈ r, Base64.isSign c = true

/-- **Every payload is sealed, and opened again.** -/
theorem exists_sealText (key : Key) (p : Text) (e : Entropy) :
    ∃ r e', sealText (some key) p e = (.ok r, e') ∧ IsSealed r ∧ openText (some key) r = .ok p := by
  obtain ⟨box, hbox⟩ : ∃ box, (encrypt key.bytes (Utf8.encode p) e).1 = .ok box := by
    simp [encrypt, key.length_bytes]
  have hdecrypt := decrypt_encrypt key _ e hbox
  have hne : box ≠ [] := by
    rintro rfl
    simp [decrypt, nonceSize] at hdecrypt
  refine ⟨Base64.encode box, (encrypt key.bytes (Utf8.encode p) e).2, ?_, ?_, ?_⟩
  · simp only [sealText, sealCodes, Utf8.encodeCodes_ofText, hbox, Functor.map, Except.map]
  · exact ⟨Base64.encode_ne_nil hne, fun c hc => Base64.isSign_of_mem_encode hc⟩
  · simp only [openText, Base64.decode_encode, hdecrypt, Utf8.decode_encode]

end Cipher

/-- The token of a sealed payload. -/
def Token.encrypted (r : Text) : Token := ⟨sealedOpener, r, sealedCloser⟩

/-- What is sealed is enclosed by its markers, whatever follows. -/
theorem Token.encloses_encrypted {r : Text} (hr : Cipher.IsSealed r) (rest : Text) :
    Enclosure.Encloses ⟨sealedOpener, sealedCloser, none⟩ (encrypted r) rest := by
  have hcloser : sealedCloser = ':' :: "secret-aes-256-gcm".toList := by decide
  have hcolon : Base64.isSign ':' = false := by decide
  have hbreak : Base64.isSign '\n' = false := by decide
  refine Enclosure.encloses_of_not_mem rfl rfl hr.1 (fun h => ?_) hcloser (fun h => ?_) rest
  · exact Bool.false_ne_true (hbreak.symm.trans (hr.2 _ h))
  · exact Bool.false_ne_true (hcolon.symm.trans (hr.2 _ h))

/-! ### Texts with sealed secrets -/

namespace Piece

/-- The pieces with sealed payloads in place of the tokens. -/
def withSealed (ps : List Piece) (rs : List Text) : List Piece :=
  withTokens ps (rs.map Token.encrypted)

theorem text_withSealed (ps : List Piece) (rs : List Text) :
    text (withSealed ps rs) = fill ps (rs.map fun r => (Token.encrypted r).envelope) := by
  rw [withSealed, text_withTokens, List.map_map]
  rfl

variable {ps : List Piece} {rs : List Text}

theorem tokens_withSealed (hlen : rs.length = (tokens ps).length) :
    tokens (withSealed ps rs) = rs.map Token.encrypted :=
  tokens_withTokens (by rw [List.length_map, hlen])

theorem map_payload_withSealed (hlen : rs.length = (tokens ps).length) :
    (tokens (withSealed ps rs)).map Token.payload = rs := by
  rw [tokens_withSealed hlen, List.map_map]
  exact List.map_id rs

/-- **Sealed secrets are found where they were put,** when the text held no opening marker. -/
theorem reads_withSealed (hlen : rs.length = (tokens ps).length)
    (hrs : ∀ r ∈ rs, Cipher.IsSealed r) (hps : ¬sealedOpener <:+: text ps) :
    Reads Shape.encrypted.token? none (withSealed ps rs) := by
  have hborderless : sealedOpener.Borderless := by decide
  refine Enclosure.reads_withTokens rfl hborderless (by decide : sealedCloser ≠ []) ?_ ?_ hps none
  · rw [List.length_map, hlen]
  · intro k hk
    obtain ⟨r, hr, rfl⟩ := List.mem_map.1 hk
    exact Token.encloses_encrypted (hrs r hr)

end Piece

/-! ### The tokens of a tool with a key -/

namespace Shape

theorem lawful_plain : Shape.plain.token?.Lawful :=
  Enclosure.lawful (by decide : secretOpener ≠ []) (by decide : secretCloser ≠ [])

theorem lawful_encrypted : Shape.encrypted.token?.Lawful :=
  Enclosure.lawful (by decide : sealedOpener ≠ []) (by decide : sealedCloser ≠ [])

/-- The markers of a plain secret. -/
theorem envelope_of_token?_plain {before : Option Char} {t : Text} {k : Token}
    (h : Shape.plain.token? before t = some k) :
    k.envelope = secretOpener ++ k.payload ++ secretCloser := by
  obtain ⟨-, r, -, hk⟩ := (Enclosure.token?_eq_some_iff (by decide : secretCloser ≠ [])).1 h
  rw [Token.envelope, hk.opening_eq, hk.closing_eq]

end Shape

/-! ### There and back -/

/-- The way back of an action. -/
def Action.inverse : Action → Action
  | encode => decode
  | decode => encode
  | redact => unredact
  | unredact => redact

namespace Tool

open Piece Splicing

variable {key : Key} {ps : List Piece} {results : List Text}

/-- A tool with one family runs one engine. -/
theorem run_singleton {family : Family} {a : Action} {e : Engine World Cause}
    (he : family.engine? a = some e) (wrapTokens : Bool) (t : Text) (w : World) :
    (Tool.mk [family]).run a wrapTokens t w = e.run wrapTokens t w := by
  have hengines : (Tool.mk [family]).engines a = [e] := by
    simp [engines, he]
  rw [run, hengines, runEngines]
  split
  · next h => rw [h]
  · next h => rw [h, runEngines]

/-- A tool with a key runs one engine. -/
theorem run_ofParts {a : Action} {e : Engine World Cause}
    (he : (Family.inline key).engine? a = some e) (wrapTokens : Bool) (t : Text) (w : World) :
    (ofParts (some key) false).run a wrapTokens t w = e.run wrapTokens t w :=
  run_singleton he wrapTokens t w

/-- The engine of a tool with a key that seals. -/
theorem exists_engine_sealing (key : Key) {a : Action} (ha : a = .encode ∨ a = .redact)
    (wrapTokens : Bool) :
    ∃ e : Engine World Cause, (Family.inline key).engine? a = some e ∧
      (∀ t, e.locate t = .ok (Shape.plain.spans t)) ∧ e.transform = Family.sealing key ∧
      e.placing? wrapTokens = some fun r _ _ => (Token.encrypted r).envelope := by
  rcases ha with rfl | rfl <;> exact ⟨_, rfl, fun _ => rfl, rfl, rfl⟩

/-- The engine of a tool with a key that opens again. -/
theorem exists_engine_opening (key : Key) {a : Action} (ha : a = .encode ∨ a = .redact) :
    ∃ e : Engine World Cause, (Family.inline key).engine? a.inverse = some e ∧
      (∀ t, e.locate t = .ok (Shape.encrypted.spans t)) ∧ e.transform = Family.opening key ∧
      (e.placing? true = some fun p _ _ => secretOpener ++ p ++ secretCloser) ∧
      e.placing? false = some Engine.bare := by
  rcases ha with rfl | rfl <;> exact ⟨_, rfl, fun _ => rfl, rfl, rfl, rfl⟩

/-- Payloads are sealed one after the other, from the last one to the first. -/
theorem exists_transformAll_sealing (key : Key) (ps : List Text) (w : World) :
    ∃ rs w', transformAll (Family.sealing key) ps.reverse w = (.ok rs.reverse, w') ∧
      (∀ r ∈ rs, Cipher.IsSealed r) ∧
      List.Forall₂ (fun r p => Cipher.openText (some key) r = .ok p) rs ps := by
  have hsealing : ∀ p w, ∃ r w', Family.sealing key p w = (.ok r, w') ∧ Cipher.IsSealed r ∧
      Cipher.openText (some key) r = .ok p := by
    intro p w
    obtain ⟨r, e', hr, hsealed, hopen⟩ := Cipher.exists_sealText key p w.entropy
    exact ⟨r, { w with entropy := e' }, by rw [Family.sealing, hr]; rfl, hsealed, hopen⟩
  obtain ⟨rs, w', hall, hrs⟩ := exists_transformAll hsealing ps.reverse w
  rw [← List.reverse_reverse rs] at hall hrs
  obtain ⟨hsealed, hopen⟩ := (List.forall₂_and_left _ _).1 (List.forall₂_reverse_iff.1 hrs)
  exact ⟨rs.reverse, w', hall, hsealed, hopen⟩

/-- **There:** each plain secret gives way to its payload, sealed. -/
theorem run_sealing {a : Action} (ha : a = .encode ∨ a = .redact) (wrapTokens : Bool)
    (hps : Reads Shape.plain.token? none ps) {rs : List Text} {w w' : World}
    (hall : transformAll (Family.sealing key) ((tokens ps).map Token.payload).reverse w =
      (.ok rs.reverse, w'))
    (hlen : rs.length = (tokens ps).length) :
    (ofParts (some key) false).run a wrapTokens (text ps) w =
      (.ok (text (withSealed ps rs)), w') := by
  obtain ⟨e, he, hlocate, htransform, hplace⟩ := exists_engine_sealing key ha wrapTokens
  have hspans : e.locate (text ps) = .ok (spansFrom 0 ps) := by
    rw [hlocate, Shape.spans, scan_text Shape.lawful_plain hps]
  rw [run_ofParts he, run_text hplace hspans (htransform ▸ hall) hlen, text_withSealed]

@[inherit_doc run_sealing]
theorem exists_run_sealing {a : Action} (ha : a = .encode ∨ a = .redact) (wrapTokens : Bool)
    (hps : Reads Shape.plain.token? none ps) (w : World) :
    ∃ rs w', (ofParts (some key) false).run a wrapTokens (text ps) w =
        (.ok (text (withSealed ps rs)), w') ∧
      (∀ r ∈ rs, Cipher.IsSealed r) ∧
      List.Forall₂ (fun r p => Cipher.openText (some key) r = .ok p) rs
        ((tokens ps).map Token.payload) := by
  obtain ⟨rs, w', hall, hsealed, hopen⟩ :=
    exists_transformAll_sealing key ((tokens ps).map Token.payload) w
  have hlen : rs.length = (tokens ps).length := by rw [hopen.length_eq, List.length_map]
  exact ⟨rs, w', run_sealing ha wrapTokens hps hall hlen, hsealed, hopen⟩

/-- **And back:** each sealed secret of a text gives way to its payload. -/
theorem run_opening {e : Engine World Cause} {wrapTokens : Bool} {wrap : Text → Text}
    (hlocate : ∀ t, e.locate t = .ok (Shape.encrypted.spans t))
    (htransform : e.transform = Family.opening key)
    (hplace : e.placing? wrapTokens = some fun p _ _ => wrap p)
    (hps : Reads Shape.encrypted.token? none ps)
    (hopen : List.Forall₂ (fun r p => Cipher.openText (some key) r = .ok p)
      ((tokens ps).map Token.payload) results) (w : World) :
    e.run wrapTokens (text ps) w = (.ok (fill ps (results.map wrap)), w) := by
  have hspans : e.locate (text ps) = .ok (spansFrom 0 ps) := by
    rw [hlocate, Shape.spans, scan_text Shape.lawful_encrypted hps]
  -- the sealed payloads are opened from the last one to the first
  have hall : transformAll e.transform ((tokens ps).map Token.payload).reverse w =
      (.ok results.reverse, w) := by
    refine transformAll_of_forall₂ (fun w h => ?_) (List.forall₂_reverse_iff.2 hopen) w
    rw [htransform, Family.opening, h]
    rfl
  exact run_text hplace hspans hall (by rw [← hopen.length_eq, List.length_map])

/-- The same for sealed secrets that were put into a text. -/
theorem run_withSealed {e : Engine World Cause} {wrapTokens : Bool} {wrap : Text → Text}
    (hlocate : ∀ t, e.locate t = .ok (Shape.encrypted.spans t))
    (htransform : e.transform = Family.opening key)
    (hplace : e.placing? wrapTokens = some fun p _ _ => wrap p) {rs : List Text}
    (hps : ¬sealedOpener <:+: text ps) (hsealed : ∀ r ∈ rs, Cipher.IsSealed r)
    (hopen : List.Forall₂ (fun r p => Cipher.openText (some key) r = .ok p) rs results)
    (hlen : rs.length = (tokens ps).length) (w : World) :
    e.run wrapTokens (text (withSealed ps rs)) w = (.ok (fill ps (results.map wrap)), w) := by
  have hpayloads := hopen
  rw [← map_payload_withSealed hlen] at hpayloads
  rw [run_opening hlocate htransform hplace (reads_withSealed hlen hsealed hps) hpayloads,
    withSealed, fill_withTokens]
  · rw [List.length_map, ← hopen.length_eq, hlen]
  · rw [List.length_map, hlen]

/-- The plain secrets of a text with their markers are the text. -/
theorem fill_payloads (hps : Reads Shape.plain.token? none ps) :
    fill ps (((tokens ps).map Token.payload).map fun p => secretOpener ++ p ++ secretCloser) =
      text ps := by
  rw [← fill_envelopes ps, List.map_map]
  refine congrArg (fill ps) (List.map_congr_left fun k hk => ?_)
  obtain ⟨before, t, hfind⟩ := hps.exists_find hk
  exact (Shape.envelope_of_token?_plain hfind).symm

/-- **A sealed text is opened again.**  A tool with a key replaces the plain secrets of every text
that does not hold the opening marker of sealed ones by sealed ones, which open to their payloads;
the way back yields the text, when it is to wrap tokens, and else the text with each plain secret
replaced by its payload. -/
theorem run_run_inverse (key : Key) {a : Action} (ha : a = .encode ∨ a = .redact)
    (wrapTokens : Bool) {t : Text} (ht : ¬sealedOpener <:+: t) (w : World) :
    ∃ rs t' w', (ofParts (some key) false).run a wrapTokens t w = (.ok t', w') ∧
      List.Forall₂ (fun r p => Cipher.openText (some key) r = .ok p) rs
        ((Shape.plain.spans t).map (Span.payload · t)) ∧
      t' = substitute t (replacements (fun r _ _ => sealedOpener ++ r ++ sealedCloser) t
        (Shape.plain.spans t) rs) ∧
      ∀ w₂, (ofParts (some key) false).run a.inverse true t' w₂ = (.ok t, w₂) ∧
        (ofParts (some key) false).run a.inverse false t' w₂ =
          (.ok (substitute t ((Shape.plain.spans t).map fun k => (k, k.payload t))), w₂) := by
  obtain ⟨ps, rfl, hps⟩ := exists_reads Shape.lawful_plain none t
  obtain ⟨rs, w', hrun, hsealed, hopen⟩ := exists_run_sealing ha wrapTokens hps w
  have hlen : rs.length = (tokens ps).length := by rw [hopen.length_eq, List.length_map]
  have hspans : Shape.plain.spans (text ps) = spansFrom 0 ps := scan_text Shape.lawful_plain hps
  have hpayloads : (spansFrom 0 ps).map (Span.payload · (text ps)) =
      (tokens ps).map Token.payload := map_payload_spansFrom (List.nil_append _).symm
  obtain ⟨e, he, hlocate, htransform, hwrapped, hbare⟩ := exists_engine_opening key ha
  refine ⟨rs, text (withSealed ps rs), w', hrun, ?_, ?_, fun w₂ => ⟨?_, ?_⟩⟩
  · rw [hspans, hpayloads]
    exact hopen
  · rw [hspans, substitute_wrap _ hlen, text_withSealed]
    rfl
  · rw [run_ofParts he, run_withSealed hlocate htransform hwrapped ht hsealed hopen hlen,
      fill_payloads hps]
  · rw [run_ofParts he, run_withSealed hlocate htransform hbare ht hsealed hopen hlen, hspans,
      substitute_payloads, List.map_id']

/-- A text in which plain secrets touch each other, the end of a marker follows one of them and one
is not closed. -/
def crowded : Text := "secret:a:secretsecret:b:secret-aes-256-gcm secret:".toList

/-- A source of zeros, and a vault without secrets. -/
def zeros : World := ⟨⟨fun _ n => Vector.replicate n 0, 0⟩, .memory [] []⟩

/-- The tool with a key of zeros. -/
def ofZeros : Tool := ofParts (some ⟨List.replicate 32 0, rfl⟩) false

theorem run_run_inverse_crowded :
    ¬sealedOpener <:+: crowded ∧
    ∃ rs t' w', ofZeros.run .encode false crowded zeros = (.ok t', w') ∧
      List.Forall₂ (fun r p => Cipher.openText (some ⟨List.replicate 32 0, rfl⟩) r = .ok p) rs
        ((Shape.plain.spans crowded).map (Span.payload · crowded)) ∧
      t' = substitute crowded (replacements (fun r _ _ => sealedOpener ++ r ++ sealedCloser)
        crowded (Shape.plain.spans crowded) rs) ∧
      ∀ w₂, ofZeros.run .decode true t' w₂ = (.ok crowded, w₂) ∧
        ofZeros.run .decode false t' w₂ =
          (.ok (substitute crowded ((Shape.plain.spans crowded).map fun k =>
            (k, k.payload crowded))), w₂) := by
  have ht : ¬sealedOpener <:+: crowded := by decide +kernel
  exact ⟨ht, run_run_inverse ⟨List.replicate 32 0, rfl⟩ (Or.inl rfl) false ht zeros⟩

end Tool

end InlineSecrets
