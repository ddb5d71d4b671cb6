/-
**What messages quote.**

When one of the two ways back fails, its message quotes the payload of a token.  Each engine quotes
from the text that it was given; but the vault family is given what the inline family has made, in
which sealed secrets have given way to what they were opened to.  So a message may quote what was
opened: a lookup may lie in it, or take up a part of it.

What is quoted stands in the text as it was when the token that it belongs to has no character in
common with what was put in, and does not reach across it.  When it has a character in common with
what was opened, the message shows that.

Main definitions:

* `InlineSecrets.Token.opened`, `InlineSecrets.Piece.withOpened` — what takes the places of sealed
  secrets;
* `InlineSecrets.Span.Apart` — payloads that have no character of an envelope and do not reach
  across it.

Main results:

* `InlineSecrets.Piece.slice_isInfix_of_apart` — what is apart from new tokens was there before;
* `InlineSecrets.Engine.exists_of_run_eq_error` — an engine quotes from the text that it was given;
* `InlineSecrets.Tool.exists_quoted` — **what messages quote;**
* `InlineSecrets.Tool.exists_run_quoting_opened` — a message that quotes what was opened.
-/

import InlineSecrets.Proofs.Failing
import InlineSecrets.Proofs.Lines
import InlineSecrets.Proofs.Opening
import InlineSecrets.Proofs.Pipeline

set_option relaxedAutoImplicit false
set_option autoImplicit false

namespace InlineSecrets

/-! ### Parts of slices -/

namespace Text

/-- A slice of a text lies in it. -/
theorem slice_isInfix (t : Text) {i j i' j' : Nat} (hi : i ≤ i') (hij : i' ≤ j') (hj : j' ≤ j)
    (hlen : j ≤ t.length) : t.slice i' j' <:+: t.slice i j := by
  refine ⟨t.slice i i', t.slice j' j, ?_⟩
  rw [slice_append_slice t hi hij (by omega), slice_append_slice t (by omega) hj hlen]

end Text

/-- The payload of a span lies in the text that it fits. -/
theorem Span.Fits.payload_isInfix {k : Span} {t : Text} (h : k.Fits t) : k.payload t <:+: t := by
  obtain ⟨a, i, j, d, rfl, -, hij, hjd, hd⟩ := h.exists_nat
  rw [Span.payload, Text.slice_natCast _ (by omega) (by omega)]
  exact (List.drop_suffix i _).isInfix.trans (List.take_prefix j t).isInfix

/-! ### What new tokens leave as it was -/

/-- The payload of the first span has no character of the envelope of the second one, and does not
reach across it. -/
def Span.Apart (k s : Span) : Prop :=
  k.payloadEnd ≤ s.envelopeStart ∨ s.envelopeEnd ≤ k.payloadStart

/-- The payloads of two spans have a character in common. -/
def Span.Meets (k s : Span) : Prop :=
  max k.payloadStart s.payloadStart < min k.payloadEnd s.payloadEnd

namespace Piece

variable {ps : List Piece} {ks : List Token}

/-- What stands in front of all new tokens stood there before. -/
theorem take_prefix_of_le (pos : Nat) (hlen : ks.length = (tokens ps).length) {n : Nat}
    (h : ∀ s ∈ spansFrom pos (withTokens ps ks), ((pos + n : Nat) : Int) ≤ s.envelopeStart) :
    (text (withTokens ps ks)).take n <+: text ps := by
  induction ps generalizing ks pos n with
  | nil => exact List.take_prefix _ _
  | cons p ps ih =>
      cases n with
      | zero => exact List.nil_prefix
      | succ n =>
          cases p with
          | plain c =>
              rw [withTokens, spansFrom] at h
              refine List.cons_prefix_cons.2 ⟨rfl, ih (pos + 1) hlen fun s hs => ?_⟩
              rw [Nat.add_assoc, Nat.add_comm 1]
              exact h s hs
          | token k =>
              cases ks with
              | nil => cases hlen
              | cons l ks =>
                  have hstart := h _ List.mem_cons_self
                  simp only [Token.span] at hstart
                  omega

/-- **What is apart from new tokens was there before.** -/
theorem slice_isInfix_of_apart (pos : Nat) (hlen : ks.length = (tokens ps).length) {i j : Nat}
    (hij : i ≤ j)
    (h : ∀ s ∈ spansFrom pos (withTokens ps ks),
      ((pos + j : Nat) : Int) ≤ s.envelopeStart ∨ s.envelopeEnd ≤ (pos + i : Nat)) :
    ((text (withTokens ps ks)).take j).drop i <:+: text ps := by
  induction ps generalizing ks pos i j with
  | nil => simp only [withTokens, text, List.take_nil, List.drop_nil, List.nil_infix]
  | cons p ps ih =>
      cases p with
      | plain c =>
          have hlen' : ks.length = (tokens ps).length := hlen
          rw [withTokens, spansFrom] at h
          cases j with
          | zero =>
              rw [List.take_zero, List.drop_nil]
              exact List.nil_infix
          | succ j =>
              rw [withTokens, text, List.take_succ_cons, text]
              cases i with
              | zero =>
                  -- all new tokens come behind the first character
                  have hstart : ∀ s ∈ spansFrom (pos + 1) (withTokens ps ks),
                      ((pos + 1 + j : Nat) : Int) ≤ s.envelopeStart := by
                    intro s hs
                    have hapart := h s hs
                    obtain ⟨l, -, p, hp, rfl⟩ := exists_of_mem_spansFrom hs
                    simp only [Token.span] at hapart ⊢
                    omega
                  exact (List.cons_prefix_cons.2
                    ⟨rfl, take_prefix_of_le (pos + 1) hlen' hstart⟩).isInfix
              | succ i =>
                  have hapart : ∀ s ∈ spansFrom (pos + 1) (withTokens ps ks),
                      ((pos + 1 + j : Nat) : Int) ≤ s.envelopeStart ∨
                        s.envelopeEnd ≤ (pos + 1 + i : Nat) := by
                    intro s hs
                    have hs := h s hs
                    omega
                  exact (ih (pos + 1) hlen' (Nat.le_of_succ_le_succ hij) hapart).trans
                    (List.suffix_cons c _).isInfix
      | token k =>
          cases ks with
          | nil => cases hlen
          | cons l ks =>
              rw [withTokens, spansFrom] at h
              rw [withTokens, text, text]
              obtain ⟨hl, h⟩ := List.forall_mem_cons.1 h
              simp only [Token.span] at hl
              rcases hl with hl | hl
              · obtain rfl : j = 0 := by omega
                rw [List.take_zero, List.drop_nil]
                exact List.nil_infix
              · have hle : l.envelope.length ≤ i := by
                  rw [Token.length_envelope]
                  omega
                obtain ⟨i, rfl⟩ := Nat.exists_eq_add_of_le hle
                obtain ⟨j, rfl⟩ := Nat.exists_eq_add_of_le (hle.trans hij)
                rw [List.take_length_add_append, List.drop_length_add_append]
                have hlen' : ks.length = (tokens ps).length := Nat.succ.inj hlen
                simp only [← Nat.add_assoc] at h
                exact (ih _ hlen' (by omega) h).trans (List.suffix_append _ _).isInfix

/-- The same for the payload of a span. -/
theorem payload_isInfix_of_apart (hlen : ks.length = (tokens ps).length) {k : Span}
    (hk : k.Fits (text (withTokens ps ks)))
    (hapart : ∀ s ∈ spansFrom 0 (withTokens ps ks), k.Apart s) :
    k.payload (text (withTokens ps ks)) <:+: text ps := by
  obtain ⟨a, i, j, d, rfl, -, hij, hjd, hd⟩ := hk.exists_nat
  rw [Span.payload, Text.slice_natCast _ (by omega) (by omega)]
  refine slice_isInfix_of_apart 0 hlen hij fun s hs => ?_
  rw [Nat.zero_add, Nat.zero_add]
  exact hapart s hs

/-- What a payload has in common with that of a new token is a part of both. -/
theorem exists_common {qs : List Piece} {k s : Span} (hk : k.Fits (text qs))
    (hs : s ∈ spansFrom 0 qs) (hmeets : k.Meets s) :
    ∃ u, u ≠ [] ∧ u <:+: k.payload (text qs) ∧ ∃ l ∈ tokens qs, u <:+: l.payload := by
  have htext : text qs = [] ++ text qs := rfl
  have hpayload : s.payload (text qs) ∈ (tokens qs).map Token.payload :=
    map_payload_spansFrom htext ▸ List.mem_map_of_mem hs
  obtain ⟨l, hl, hl'⟩ := List.mem_map.1 hpayload
  obtain ⟨a, i, j, d, rfl, -, hij, hjd, hd⟩ := hk.exists_nat
  obtain ⟨a', i', j', d', rfl, -, hij', hjd', hd'⟩ := ((fits_spansFrom htext).1 s hs).1.exists_nat
  unfold Span.Meets at hmeets
  dsimp only at hmeets
  have hmax : max i i' < min j j' := by omega
  refine ⟨(text qs).slice (max i i' : Nat) (min j j' : Nat), ?_,
    Text.slice_isInfix _ (by omega) (by omega) (by omega) (by omega), l, hl,
    hl' ▸ Text.slice_isInfix _ (by omega) (by omega) (by omega) (by omega)⟩
  intro hnil
  have hlen := congrArg List.length hnil
  rw [Text.slice_natCast _ (by omega) (by omega), List.length_drop, List.length_take,
    List.length_nil] at hlen
  omega

end Piece

/-! ### What an engine quotes -/

namespace Engine

variable {σ ε : Type}

/-- **An engine quotes from the text that it was given.** -/
theorem exists_of_run_eq_error {e : Engine σ ε} {wrapTokens : Bool} {place : Splicing.Placing}
    {s : Shape} (hlocate : ∀ t, e.locate t = .ok (s.spans t))
    (hplace : e.placing? wrapTokens = some place) {t : Text} {w w' : σ} {f : Failure ε}
    (h : e.run wrapTokens t w = (.error f, w')) :
    ∃ k ∈ s.spans t, ∃ c,
      f = .transforming e.action e.family (k.payload t) k.envelopeStart c := by
  obtain ⟨hfits, hord⟩ := s.fits_spans t
  rcases hall : Splicing.transformAll e.transform ((s.spans t).map (Span.payload · t)).reverse w
    with ⟨c | rs, w₁⟩
  · obtain ⟨front, k, back, -, -, hks, -, -, hrun⟩ :=
      exists_run_eq_error_of_placing? hplace (hlocate t) hfits hord hall
    rw [hrun] at h
    obtain rfl := Except.error.inj (Prod.mk.inj h).1
    exact ⟨k, hks ▸ List.mem_append_right _ List.mem_cons_self, c, rfl⟩
  · rw [← List.reverse_reverse rs] at hall
    rw [run_eq_of_placing? hplace (hlocate t) hfits hord hall] at h
    cases h

end Engine

/-! ### What sealed secrets give way to -/

/-- Sealed forms are written in the signs of Base64. -/
theorem Cipher.isSealed_sealedWith (key : Key) {nonce : Bytes} (h : nonce ≠ []) (p : Text) :
    IsSealed (sealedWith key nonce p) :=
  ⟨Base64.encode_ne_nil (List.append_ne_nil_of_left_ne_nil h _),
    fun _ hc => Base64.isSign_of_mem_encode hc⟩

/-- What takes the place of a sealed secret, as a token: what it was opened to, with the markers of
plain secrets if tokens are wrapped. -/
def Token.opened (wrapTokens : Bool) (r : Text) : Token :=
  if wrapTokens then ⟨secretOpener, r, secretCloser⟩ else ⟨[], r, []⟩

theorem Token.payload_opened (wrapTokens : Bool) (r : Text) :
    (opened wrapTokens r).payload = r := by
  cases wrapTokens <;> rfl

/-- The pieces with what sealed secrets were opened to in their places. -/
def Piece.withOpened (wrapTokens : Bool) (ps : List Piece) (rs : List Text) : List Piece :=
  withTokens ps (rs.map (Token.opened wrapTokens))

/-- What payloads were opened to, one after the other. -/
theorem Family.openText_of_transformAll {key : Key} {ps rs : List Text} {w w' : World}
    (h : Splicing.transformAll (opening key) ps w = (.ok rs, w')) :
    List.Forall₂ (fun p r => Cipher.openText (some key) p = .ok r) ps rs := by
  refine ((steady_opening key fun _ => True).forall₂_of_transformAll_eq_ok trivial h).imp ?_
  intro p r hr
  cases hp : Cipher.openText (some key) p with
  | error f =>
      rw [hp] at hr
      cases hr
  | ok p' =>
      rw [hp] at hr
      exact congrArg Except.ok (Option.some.inj hr)

namespace Tool

open Piece Splicing

variable {a : Action}

/-- The engine of a tool with a key for the two ways back. -/
theorem exists_engine_inline (key : Key) (ha : a = .decode ∨ a = .unredact) (wrapTokens : Bool) :
    ∃ e : Engine World Cause, (Family.inline key).engine? a = some e ∧
      (∀ t, e.locate t = .ok (Shape.encrypted.spans t)) ∧ e.transform = Family.opening key ∧
      (e.placing? wrapTokens = some fun r _ _ => (Token.opened wrapTokens r).envelope) ∧
      e.action = a ∧ e.family = "secret".toList := by
  have hbare : Engine.bare = fun r _ _ => (Token.opened false r).envelope := by
    funext r _ _
    exact (List.append_nil r).symm
  rcases ha with rfl | rfl
  · refine ⟨_, rfl, fun _ => rfl, rfl, ?_, rfl, rfl⟩
    cases wrapTokens with
    | false => exact congrArg some hbare
    | true => rfl
  · refine ⟨_, rfl, fun _ => rfl, rfl, ?_, rfl, rfl⟩
    cases wrapTokens with
    | false => exact congrArg some hbare
    | true => rfl

/-- The engine of a tool with a vault for the two ways back. -/
theorem exists_engine_vault (ha : a = .decode ∨ a = .unredact) (wrapTokens : Bool) :
    ∃ e : Engine World Cause, Family.vault.engine? a = some e ∧
      (∀ t, e.locate t = .ok (Shape.lookup.spans t)) ∧
      (∃ place, e.placing? wrapTokens = some place) ∧ e.action = a ∧
      e.family = "vault".toList := by
  rcases ha with rfl | rfl <;> exact ⟨_, rfl, fun _ => rfl, ⟨_, rfl⟩, rfl, rfl⟩

/-- What the inline family makes of a text on the way back, unless it fails: all sealed secrets are
opened, and give way to what they were opened to. -/
theorem run_inline_cases (key : Key) (ha : a = .decode ∨ a = .unredact) (wrapTokens : Bool)
    {ps : List Piece} (hps : Reads Shape.encrypted.token? none ps) (w : World) :
    (∃ rs, List.Forall₂ (fun k r => Cipher.openText (some key) k.payload = .ok r) (tokens ps) rs ∧
      (ofParts (some key) false).run a wrapTokens (text ps) w =
        (.ok (text (withOpened wrapTokens ps rs)), w)) ∨
    ∃ k ∈ Shape.encrypted.spans (text ps), ∃ c w',
      (ofParts (some key) false).run a wrapTokens (text ps) w =
        (.error (.transforming a "secret".toList (k.payload (text ps)) k.envelopeStart c), w') := by
  obtain ⟨e, he, hlocate, htransform, hplace, haction, hfamily⟩ :=
    exists_engine_inline key ha wrapTokens
  have hspans : Shape.encrypted.spans (text ps) = spansFrom 0 ps := Shape.spans_text hps
  have hpayloads : (spansFrom 0 ps).map (Span.payload · (text ps)) =
      (tokens ps).map Token.payload := map_payload_spansFrom (List.nil_append _).symm
  rw [run_ofParts he]
  rcases hall : transformAll e.transform ((tokens ps).map Token.payload).reverse w with
    ⟨c | rs, w'⟩
  · obtain ⟨hfits, hord⟩ := Shape.encrypted.fits_spans (text ps)
    rw [← hpayloads, ← hspans] at hall
    obtain ⟨front, k, back, -, -, hks, -, -, hrun⟩ :=
      Engine.exists_run_eq_error_of_placing? hplace (hlocate _) hfits hord hall
    refine .inr ⟨k, hks ▸ List.mem_append_right _ List.mem_cons_self, c, w', ?_⟩
    rw [hrun, haction, hfamily]
  · -- payloads are opened from the last one to the first
    have hopen := List.forall₂_reverse_iff.2 (Family.openText_of_transformAll (htransform ▸ hall))
    rw [List.reverse_reverse] at hopen
    refine .inl ⟨rs.reverse, List.forall₂_map_left_iff.1 hopen, ?_⟩
    rw [run_opening hlocate htransform hplace hps hopen, withOpened, text_withTokens, List.map_map]
    rfl

/-- **What messages quote.**  When a tool with a key and a vault fails on one of the two ways back,
its message quotes a payload.  It is that of a sealed secret of the text, which cannot be opened; or
all sealed secrets have been opened, and it is the payload of a lookup in the text with what they
were opened to.  Then it is a part of the text that was given, if it is apart from all that was put
in; and where it has a character in common with what a sealed secret was opened to, it shows that
part of it. -/
theorem exists_quoted (key : Key) (ha : a = .decode ∨ a = .unredact) (wrapTokens : Bool) {t : Text}
    {w w' : World} {f : Engine.Failure Cause}
    (h : (ofParts (some key) true).run a wrapTokens t w = (.error f, w')) :
    ∃ family p offset c, f = .transforming a family p offset c ∧
      f.message Cause.message = String.ofList family ++ ": failed to " ++ a.word ++ " " ++
        ("payload \"" ++ String.ofList p ++ "\"") ++ ": " ++ c.message ∧
      ((family = "secret".toList ∧ ∃ k ∈ Shape.encrypted.spans t, p = k.payload t ∧ p <:+: t) ∨
      (family = "vault".toList ∧ ∃ ps rs, text ps = t ∧ Reads Shape.encrypted.token? none ps ∧
        List.Forall₂ (fun k r => Cipher.openText (some key) k.payload = .ok r) (tokens ps) rs ∧
        ∃ k ∈ Shape.lookup.spans (text (withOpened wrapTokens ps rs)),
          p = k.payload (text (withOpened wrapTokens ps rs)) ∧
          ((∀ s ∈ spansFrom 0 (withOpened wrapTokens ps rs), k.Apart s) → p <:+: t) ∧
          ∀ s ∈ spansFrom 0 (withOpened wrapTokens ps rs), k.Meets s →
            ∃ u, u ≠ [] ∧ u <:+: p ∧ ∃ r ∈ rs, u <:+: r)) := by
  obtain ⟨ps, rfl, hps⟩ := exists_reads Shape.lawful_encrypted none t
  have hmessage : ∀ (family p : Text) (offset : Int) (c : Cause),
      (Engine.Failure.transforming a family p offset c).message Cause.message =
        String.ofList family ++ ": failed to " ++ a.word ++ " " ++
          ("payload \"" ++ String.ofList p ++ "\"") ++ ": " ++ c.message := by
    intro family p offset c
    rcases ha with rfl | rfl <;> rfl
  rw [run_both] at h
  rcases run_inline_cases key ha wrapTokens hps w with
    ⟨rs, hopen, hrun⟩ | ⟨k, hk, c, w₁, hrun⟩
  · rw [hrun] at h
    obtain ⟨e, he, hlocate, ⟨place, hplace⟩, haction, hfamily⟩ := exists_engine_vault ha wrapTokens
    have hfails : e.run wrapTokens (text (withOpened wrapTokens ps rs)) w = (.error f, w') :=
      (run_singleton he wrapTokens _ w).symm.trans h
    obtain ⟨k, hk, c, rfl⟩ := Engine.exists_of_run_eq_error hlocate hplace hfails
    rw [haction, hfamily]
    have hlen : (rs.map (Token.opened wrapTokens)).length = (tokens ps).length := by
      rw [List.length_map, hopen.length_eq]
    have hfits := (Shape.lookup.fits_spans _).1 k hk
    refine ⟨_, _, _, c, rfl, hmessage _ _ _ c, .inr ⟨rfl, ps, rs, rfl, hps, hopen, k, hk, rfl,
      fun hapart => payload_isInfix_of_apart hlen hfits hapart, fun s hs hmeets => ?_⟩⟩
    obtain ⟨u, hu, hin, l, hl, hul⟩ := exists_common hfits hs hmeets
    rw [withOpened, tokens_withTokens hlen] at hl
    obtain ⟨r, hr, rfl⟩ := List.mem_map.1 hl
    exact ⟨u, hu, hin, r, hr, Token.payload_opened wrapTokens r ▸ hul⟩
  · rw [hrun] at h
    obtain rfl := Except.error.inj (Prod.mk.inj h).1
    exact ⟨_, _, _, c, rfl, hmessage _ _ _ c, .inl ⟨rfl, k, hk, rfl,
      ((Shape.encrypted.fits_spans _).1 k hk).payload_isInfix⟩⟩

/-- A sealed secret that is opened to a lookup. -/
def hidden : Text :=
  (Token.encrypted (Cipher.sealedWith ⟨List.replicate 32 0, length_zeros⟩ (List.replicate 12 0)
    "vault:p#hunter2".toList)).envelope

/-- The secret is opened, and the lookup fails. -/
theorem exists_run_hidden :
    ∃ w', ofZerosAndVault.run .decode false hidden zeros =
      (.error (.transforming .decode "vault".toList "p#hunter2".toList 0
        (.vault (.notFound "p".toList "hunter2".toList))), w') := by
  let r := Cipher.sealedWith ⟨List.replicate 32 0, length_zeros⟩ (List.replicate 12 0)
    "vault:p#hunter2".toList
  have hr : Cipher.IsSealed r := Cipher.isSealed_sealedWith _ (by decide) _
  have hps : Reads Shape.encrypted.token? none [.token (Token.encrypted r)] := by
    refine .token ?_ .nil
    exact (Enclosure.token?_eq_some_iff (by decide : sealedCloser ≠ [])).2
      ⟨by decide, _, rfl, Token.encloses_encrypted hr _⟩
  have hopen : Cipher.openText (some ⟨List.replicate 32 0, length_zeros⟩) r =
      .ok "vault:p#hunter2".toList :=
    Cipher.openText_eq_ok_iff.2 (Cipher.opens_sealedWith _ (by decide) _)
  obtain ⟨e, he, hlocate, htransform, hplace, -⟩ :=
    exists_engine_inline ⟨List.replicate 32 0, length_zeros⟩ (Or.inl rfl) false
  have hinline : (ofParts (some ⟨List.replicate 32 0, length_zeros⟩) false).run .decode false hidden
      zeros = (.ok "vault:p#hunter2".toList, zeros) := by
    rw [run_ofParts he, hidden, ← List.append_nil (Token.envelope _)]
    exact run_opening hlocate htransform hplace hps (.cons hopen .nil) zeros
  rw [ofZerosAndVault, run_both, hinline]
  exact ⟨_, rfl⟩

theorem exists_quoted_hidden :
    ∃ f w' ps rs, ofZerosAndVault.run .decode false hidden zeros = (.error f, w') ∧
      text ps = hidden ∧
      List.Forall₂ (fun k r =>
        Cipher.openText (some ⟨List.replicate 32 0, length_zeros⟩) k.payload = .ok r)
        (tokens ps) rs ∧
      ∃ k ∈ Shape.lookup.spans (text (withOpened false ps rs)),
        "p#hunter2".toList = k.payload (text (withOpened false ps rs)) := by
  obtain ⟨w', hrun⟩ := exists_run_hidden
  obtain ⟨family, p, offset, c, hf, -, hquoted⟩ :=
    exists_quoted ⟨List.replicate 32 0, length_zeros⟩ (Or.inl rfl) false hrun
  obtain ⟨-, rfl, rfl, -, -⟩ := Engine.Failure.transforming.inj hf
  rcases hquoted with ⟨hfamily, -⟩ | ⟨-, ps, rs, htext, -, hopen, k, hk, hpayload, -⟩
  · -- it is not the inline family that fails
    exact absurd hfamily (by decide)
  · exact ⟨_, w', ps, rs, hrun, htext, hopen, k, hk, hpayload⟩

/-- What is quoted there is a part of what was opened, and no part of the text that was given. -/
theorem exists_run_quoting_opened :
    ∃ f w', ofZerosAndVault.run .decode false hidden zeros = (.error f, w') ∧
      f.message Cause.message =
        "vault: failed to decode payload \"p#hunter2\": secret 'hunter2' not found at 'p'" ∧
      f.payload? = some "p#hunter2".toList ∧
      "p#hunter2".toList <:+: "vault:p#hunter2".toList ∧ ¬"p#hunter2".toList <:+: hidden := by
  obtain ⟨w', hrun⟩ := exists_run_hidden
  have hpart : "p#hunter2".toList <:+: "vault:p#hunter2".toList := ⟨"vault:".toList, [], by decide⟩
  refine ⟨_, w', hrun, by decide +kernel, rfl, hpart, fun hin => ?_⟩
  have hsharp : '#' ∈ "p#hunter2".toList := by decide
  have hmem : '#' ∈ hidden := hin.subset hsharp
  -- there is no such sign in a sealed secret
  rw [hidden] at hmem
  have hsign := isPart_of_mem_asSealed (Cipher.isSealed_sealedWith _ (by decide) _) '#' hmem
  exact absurd hsign (by decide)

end Tool

end InlineSecrets
