/-
**The pieces of a scanned text.**

Scanning cuts a text into tokens and the characters between them.  Here these pieces are data of
their own: a text is put together from its pieces, the spans that scanning yields are the places of
the tokens among them, and substitution at these spans replaces tokens and keeps characters.

With that, what a scan of a new text finds is a question about its pieces only: it finds its tokens
when no token begins at a character between them and each token is found where it stands.

Main definitions:

* `InlineSecrets.Piece` — pieces, with `text`, `tokens` and `spansFrom` of several of them;
* `InlineSecrets.Piece.Reads` — **a recogniser cuts a text into these pieces**;
* `InlineSecrets.Piece.fill`, `InlineSecrets.Piece.withTokens` — pieces with texts or other tokens
  in place of their tokens;
* `InlineSecrets.Piece.fill?` — the same with texts that are made of the tokens, if they can be.

Main results:

* `InlineSecrets.Piece.exists_reads` — every text is cut into pieces;
* `InlineSecrets.Piece.scan_text` — scanning yields the places of the tokens;
* `InlineSecrets.Piece.run_text` — **the effect of an engine fills the pieces of a text;**
* `InlineSecrets.Piece.toOption_run_text` — what it yields where the state does not matter.
-/

import InlineSecrets.Proofs.Splicing
import InlineSecrets.Token.Scan

set_option relaxedAutoImplicit false
set_option autoImplicit false

namespace InlineSecrets

@[simp] theorem Token.length_envelope (k : Token) :
    k.envelope.length = k.opening.length + k.payload.length + k.closing.length := by
  simp [Token.envelope, Nat.add_assoc]

/-- A recogniser finds what stands at the place, and never nothing. -/
structure Recogniser.Lawful (find : Recogniser) : Prop where
  envelope_isPrefix : ∀ {before t k}, find before t = some k → k.envelope <+: t
  envelope_ne_nil : ∀ {before t k}, find before t = some k → k.envelope ≠ []

/-- A piece of a text: a character outside all tokens, or a token. -/
inductive Piece where
  | plain (c : Char)
  | token (k : Token)
  deriving DecidableEq, Repr

namespace Piece

/-! ### Texts and places of pieces -/

/-- The text that consists of some pieces. -/
def text : List Piece → Text
  | [] => []
  | plain c :: ps => c :: text ps
  | token k :: ps => k.envelope ++ text ps

/-- The tokens among some pieces. -/
def tokens : List Piece → List Token
  | [] => []
  | plain _ :: ps => tokens ps
  | token k :: ps => k :: tokens ps

/-- The spans of the tokens among some pieces that begin at `pos`. -/
def spansFrom : Nat → List Piece → List Span
  | _, [] => []
  | pos, plain _ :: ps => spansFrom (pos + 1) ps
  | pos, token k :: ps => k.span pos :: spansFrom (pos + k.envelope.length) ps

/-- The text with the given texts in place of the tokens. -/
def fill : List Piece → List Text → Text
  | plain c :: ps, rs => c :: fill ps rs
  | token _ :: ps, r :: rs => r ++ fill ps rs
  | token k :: ps, [] => k.envelope ++ fill ps []
  | [], _ => []

/-- The pieces with other tokens in place of the tokens. -/
def withTokens : List Piece → List Token → List Piece
  | plain c :: ps, ks => plain c :: withTokens ps ks
  | token _ :: ps, k :: ks => token k :: withTokens ps ks
  | token k :: ps, [] => token k :: withTokens ps []
  | [], _ => []

@[simp] theorem fill_envelopes (ps : List Piece) :
    fill ps ((tokens ps).map Token.envelope) = text ps := by
  induction ps with
  | nil => rfl
  | cons p ps ih => cases p <;> simp [tokens, fill, text, ih]

/-! ### Pieces one after the other -/

@[simp] theorem text_append (ps qs : List Piece) : text (ps ++ qs) = text ps ++ text qs := by
  induction ps with
  | nil => rfl
  | cons p ps ih => cases p <;> simp [text, ih]

theorem spansFrom_append (ps qs : List Piece) (pos : Nat) :
    spansFrom pos (ps ++ qs) = spansFrom pos ps ++ spansFrom (pos + (text ps).length) qs := by
  induction ps generalizing pos with
  | nil => rfl
  | cons p ps ih => cases p <;> simp [spansFrom, text, ih, Nat.add_assoc, Nat.add_comm]

/-- Behind `n` more characters all tokens are `n` places further on. -/
theorem map_shift_spansFrom (ps : List Piece) (pos n : Nat) :
    (spansFrom pos ps).map (Span.shift · n) = spansFrom (pos + n) ps := by
  induction ps generalizing pos with
  | nil => rfl
  | cons p ps ih =>
      cases p with
      | plain c => rw [spansFrom, spansFrom, ih, Nat.add_right_comm]
      | token k =>
          have hspan : (k.span pos).shift n = k.span (pos + n) := by
            simp only [Token.span, Span.shift, Span.mk.injEq]
            omega
          rw [spansFrom, spansFrom, List.map_cons, ih, hspan, Nat.add_right_comm]

/-! ### Other tokens in the places of tokens -/

/-- Texts in place of tokens are new tokens, when they are written like such. -/
theorem text_withTokens (ps : List Piece) (ks : List Token) :
    text (withTokens ps ks) = fill ps (ks.map Token.envelope) := by
  induction ps generalizing ks with
  | nil => rfl
  | cons p ps ih =>
      cases p with
      | plain c => simp [withTokens, fill, text, ih]
      | token k =>
          cases ks with
          | nil => simpa [withTokens, fill, text] using ih []
          | cons l ks => simp [withTokens, fill, text, ih]

theorem tokens_withTokens {ps : List Piece} {ks : List Token}
    (h : ks.length = (tokens ps).length) : tokens (withTokens ps ks) = ks := by
  induction ps generalizing ks with
  | nil => simpa [withTokens, tokens, eq_comm] using h
  | cons p ps ih =>
      cases p with
      | plain c => exact ih h
      | token k =>
          cases ks with
          | nil => simp [tokens] at h
          | cons l ks => simp [withTokens, tokens, ih (by simpa [tokens] using h)]

/-- Which tokens there were does not matter for what comes in their places. -/
theorem fill_withTokens {ps : List Piece} {ks : List Token} {rs : List Text}
    (hr : rs.length = (tokens ps).length) (hk : ks.length = (tokens ps).length) :
    fill (withTokens ps ks) rs = fill ps rs := by
  induction ps generalizing ks rs with
  | nil => rfl
  | cons p ps ih =>
      cases p with
      | plain c => simp [withTokens, fill, ih hr hk]
      | token k =>
          cases ks with
          | nil => simp [tokens] at hk
          | cons l ks =>
              cases rs with
              | nil => simp [tokens] at hr
              | cons r rs =>
                  simp only [tokens, List.length_cons, Nat.add_right_cancel_iff] at hr hk
                  simp [withTokens, fill, ih hr hk]

/-! ### Characters outside all tokens -/

@[simp] theorem text_map_plain (u : Text) : text (u.map plain) = u := by
  induction u with
  | nil => rfl
  | cons c u ih => rw [List.map_cons, text, ih]

theorem tokens_map_plain_append (u : Text) (ps : List Piece) :
    tokens (u.map plain ++ ps) = tokens ps := by
  induction u with
  | nil => rfl
  | cons c u ih => exact ih

theorem spansFrom_map_plain_append (u : Text) (ps : List Piece) (pos : Nat) :
    spansFrom pos (u.map plain ++ ps) = spansFrom (pos + u.length) ps := by
  induction u generalizing pos with
  | nil => rfl
  | cons c u ih =>
      rw [List.map_cons, List.cons_append, spansFrom, ih, List.length_cons, Nat.add_right_comm,
        Nat.add_assoc]

@[simp] theorem spansFrom_map_plain (u : Text) (pos : Nat) : spansFrom pos (u.map plain) = [] := by
  rw [← List.append_nil (u.map _), spansFrom_map_plain_append, spansFrom]

theorem fill_map_plain_append (u : Text) (ps : List Piece) (rs : List Text) :
    fill (u.map plain ++ ps) rs = u ++ fill ps rs := by
  induction u with
  | nil => rfl
  | cons c u ih => rw [List.map_cons, List.cons_append, fill, ih, List.cons_append]

theorem withTokens_map_plain_append (u : Text) (ps : List Piece) (ks : List Token) :
    withTokens (u.map plain ++ ps) ks = u.map plain ++ withTokens ps ks := by
  induction u with
  | nil => rfl
  | cons c u ih => rw [List.map_cons, List.cons_append, withTokens, ih, List.cons_append]

/-! ### Places -/

/-- The spans of pieces are those of their tokens, wherever they are. -/
theorem exists_of_mem_spansFrom {ps : List Piece} {pos : Nat} {s : Span}
    (hs : s ∈ spansFrom pos ps) : ∃ k ∈ tokens ps, ∃ p, pos ≤ p ∧ s = k.span p := by
  induction ps generalizing pos with
  | nil => cases hs
  | cons p ps ih =>
      cases p with
      | plain c =>
          obtain ⟨k, hk, p, hp, rfl⟩ := ih hs
          exact ⟨k, hk, p, by omega, rfl⟩
      | token k =>
          rcases List.mem_cons.1 hs with rfl | hs
          · exact ⟨k, List.mem_cons_self, pos, Nat.le_refl _, rfl⟩
          · obtain ⟨l, hl, p, hp, rfl⟩ := ih hs
            exact ⟨l, List.mem_cons_of_mem k hl, p, by omega, rfl⟩

/-- The span of a token names its payload and its envelope. -/
theorem span_slices (k : Token) (pre rest : Text) :
    (k.span pre.length).payload (pre ++ (k.envelope ++ rest)) = k.payload ∧
      (k.span pre.length).envelope (pre ++ (k.envelope ++ rest)) = k.envelope := by
  have hlen : (pre ++ (k.envelope ++ rest)).length = pre.length + k.opening.length +
      k.payload.length + k.closing.length + rest.length := by
    simp only [List.length_append, Token.length_envelope]
    omega
  have h₁ : (pre ++ k.opening).length = pre.length + k.opening.length := by simp
  have h₂ : (pre ++ k.opening ++ k.payload).length =
      pre.length + k.opening.length + k.payload.length := by simp [Nat.add_assoc]
  have h₃ : (pre ++ k.envelope).length =
      pre.length + k.opening.length + k.payload.length + k.closing.length := by
    simp [Nat.add_assoc]
  constructor
  · have happ : pre ++ (k.envelope ++ rest) =
        pre ++ k.opening ++ k.payload ++ (k.closing ++ rest) := by simp [Token.envelope]
    rw [Span.payload, Token.span, Text.slice_natCast _ (by omega) (by omega), happ,
      List.take_left' h₂, List.drop_left' h₁]
  · rw [Span.envelope, Token.span, Text.slice_natCast _ (by omega) (by omega),
      ← List.append_assoc, List.take_left' h₃, List.drop_left' rfl]

/-- The spans of pieces fit their text, and they stand in order behind what is in front of the
pieces. -/
theorem fits_spansFrom {ps : List Piece} {pre t : Text} (ht : t = pre ++ text ps) :
    (∀ k ∈ spansFrom pre.length ps, k.Fits t ∧ (pre.length : Int) ≤ k.envelopeStart) ∧
      (spansFrom pre.length ps).Pairwise Span.Precedes := by
  induction ps generalizing pre with
  | nil => simp [spansFrom]
  | cons p ps ih =>
      cases p with
      | plain c =>
          obtain ⟨hfits, hord⟩ := ih (show t = pre ++ [c] ++ text ps by simpa [text] using ht)
          simp only [List.length_append, List.length_singleton] at hfits hord
          refine ⟨fun k hk => ?_, hord⟩
          obtain ⟨h₁, h₂⟩ := hfits k hk
          exact ⟨h₁, by omega⟩
      | token k =>
          have ht' : t = pre ++ k.envelope ++ text ps := by simpa [text] using ht
          obtain ⟨hfits, hord⟩ := ih ht'
          have hlen : t.length = pre.length + k.envelope.length + (text ps).length := by
            simp [ht, text, Nat.add_assoc]
          simp only [List.length_append, Token.length_envelope] at hfits hord hlen
          refine ⟨fun l hl => ?_, List.pairwise_cons.2 ⟨fun l hl => ?_, ?_⟩⟩
          · rcases List.mem_cons.1 hl with rfl | hl
            · constructor
              · constructor <;> simp only [Token.span] <;> omega
              · exact Int.le_refl _
            · obtain ⟨h₁, h₂⟩ := hfits l (by simpa using hl)
              exact ⟨h₁, by omega⟩
          · have h₂ := (hfits l (by simpa using hl)).2
            simp only [Span.Precedes, Token.span]
            omega
          · simpa using hord

/-! ### Substitution -/

open Splicing

variable {σ ε : Type} {f : Transform σ ε} {place : Placing}

/-- What lies in front of all envelopes stays as it is. -/
theorem substituteFrom_of_le {t : Text} {rs : List (Span × Text)} {i j : Nat} (hij : i ≤ j)
    (hj : j ≤ t.length) (h : ∀ p ∈ rs, p.1.Fits t ∧ (j : Int) ≤ p.1.envelopeStart) :
    substituteFrom t i rs = t.slice i j ++ substituteFrom t j rs := by
  cases rs with
  | nil => rw [substituteFrom, substituteFrom, Text.slice_append_slice t hij hj (Nat.le_refl _)]
  | cons p rs =>
      obtain ⟨k, r⟩ := p
      obtain ⟨hk, hle⟩ := h _ List.mem_cons_self
      obtain ⟨a, b, c, d, rfl, hab, hbc, hcd, hd⟩ := hk.exists_nat
      have hja : j ≤ a := by simpa using hle
      simp only [substituteFrom]
      rw [← Text.slice_append_slice t hij hja (by omega)]
      simp only [List.append_assoc]

/-- What is replaced is at the given spans. -/
theorem fst_mem_of_mem_replacements {t : Text} {ks : List Span} {results : List Text}
    {p : Span × Text} (h : p ∈ replacements place t ks results) : p.1 ∈ ks := by
  induction ks generalizing results with
  | nil => simp [replacements] at h
  | cons k ks ih =>
      cases results with
      | nil => simp [replacements] at h
      | cons r rs =>
          rcases List.mem_cons.1 h with rfl | h
          · exact List.mem_cons_self
          · exact List.mem_cons_of_mem k (ih h)

/-- **Substitution at the spans of pieces fills the pieces.** -/
theorem substituteFrom_spansFrom {ps : List Piece} {pre t : Text} {results : List Text}
    (ht : t = pre ++ text ps) (hlen : results.length = (tokens ps).length) :
    substituteFrom t pre.length (replacements place t (spansFrom pre.length ps) results) =
      fill ps (List.zipWith (fun k r => place r k.payload k.envelope) (tokens ps) results) := by
  induction ps generalizing pre results with
  | nil =>
      have hpre : t.length = pre.length := by simp [ht, text]
      simp [spansFrom, replacements, substituteFrom, fill, Text.slice_natCast, hpre]
  | cons p ps ih =>
      cases p with
      | plain c =>
          have ht' : t = pre ++ [c] ++ text ps := by simpa [text] using ht
          have hle : pre.length + 1 ≤ t.length := by simp [ht']
          have hih := ih ht' hlen
          have hfits := (fits_spansFrom ht').1
          simp only [List.length_append, List.length_singleton] at hih hfits
          have hc : t.slice (pre.length : Int) (pre.length + 1 : Nat) = [c] := by
            have htake : t.take (pre.length + 1) = pre ++ [c] := by
              rw [ht']
              exact List.take_left' (by simp)
            rw [Text.slice_natCast _ (by omega) hle, htake, List.drop_left' rfl]
          have hmem : ∀ q ∈ replacements place t (spansFrom (pre.length + 1) ps) results,
              q.1.Fits t ∧ ((pre.length + 1 : Nat) : Int) ≤ q.1.envelopeStart :=
            fun q hq => hfits q.1 (fst_mem_of_mem_replacements hq)
          rw [spansFrom, substituteFrom_of_le (Nat.le_succ _) hle hmem, hc, hih]
          rfl
      | token k =>
          cases results with
          | nil => simp [tokens] at hlen
          | cons r rs =>
              have ht' : t = pre ++ k.envelope ++ text ps := by simpa [text] using ht
              have hih := ih ht' (by simpa [tokens] using hlen)
              obtain ⟨hpayload, henvelope⟩ := span_slices k pre (text ps)
              rw [← List.append_assoc, ← ht'] at hpayload henvelope
              have hle : pre.length ≤ t.length := by simp [ht']
              have hend : (k.span pre.length).envelopeEnd =
                  ((pre ++ k.envelope).length : Int) := by
                simp [Token.span]
                omega
              simp only [spansFrom, replacements, List.zipWith_cons_cons, substituteFrom, tokens,
                hpayload, henvelope, hend, fill]
              rw [replacements, List.length_append] at hih
              rw [List.length_append, hih, Token.span,
                Text.slice_natCast _ hle hle]
              simp

/-- The payloads at the spans of pieces are those of the tokens. -/
theorem map_payload_spansFrom {ps : List Piece} {pre t : Text} (ht : t = pre ++ text ps) :
    (spansFrom pre.length ps).map (Span.payload · t) = (tokens ps).map Token.payload := by
  induction ps generalizing pre with
  | nil => rfl
  | cons p ps ih =>
      cases p with
      | plain c =>
          have hih := ih (show t = pre ++ [c] ++ text ps by simpa [text] using ht)
          rwa [List.length_append] at hih
      | token k =>
          have hih := ih (show t = pre ++ k.envelope ++ text ps by simpa [text] using ht)
          have hpayload := (span_slices k pre (text ps)).1
          rw [List.length_append] at hih
          simp only [spansFrom, tokens, List.map_cons, hih]
          rw [ht, text, hpayload]

theorem substitute_spansFrom {ps : List Piece} {results : List Text}
    (hlen : results.length = (tokens ps).length) :
    substitute (text ps) (replacements place (text ps) (spansFrom 0 ps) results) =
      fill ps (List.zipWith (fun k r => place r k.payload k.envelope) (tokens ps) results) := by
  have ht : text ps = [] ++ text ps := rfl
  exact substituteFrom_spansFrom ht hlen

/-- What depends on the results alone does not need the tokens. -/
theorem zipWith_wrap {ks : List Token} {results : List Text} (wrap : Text → Text)
    (hlen : results.length = ks.length) :
    List.zipWith (fun _ r => wrap r) ks results = results.map wrap :=
  List.ext_getElem (by simp [hlen]) (by simp)

/-- The same, where what takes the place of an envelope depends on the result alone. -/
theorem substitute_wrap {ps : List Piece} {results : List Text} (wrap : Text → Text)
    (hlen : results.length = (tokens ps).length) :
    substitute (text ps) (replacements (fun r _ _ => wrap r) (text ps) (spansFrom 0 ps) results) =
      fill ps (results.map wrap) := by
  rw [substitute_spansFrom hlen, zipWith_wrap wrap hlen]

/-- Every token replaced by what `g` makes of its payload. -/
theorem substitute_map_payload (g : Text → Text) (ps : List Piece) :
    substitute (text ps) ((spansFrom 0 ps).map fun k => (k, g (k.payload (text ps)))) =
      fill ps ((tokens ps).map fun k => g k.payload) := by
  have ht : text ps = [] ++ text ps := rfl
  have hlen : ((tokens ps).map Token.payload).length = (tokens ps).length := List.length_map _
  have hmap : (spansFrom 0 ps).map (fun k => (k, g (k.payload (text ps)))) =
      replacements (fun r _ _ => g r) (text ps) (spansFrom 0 ps)
        ((tokens ps).map Token.payload) := by
    rw [← map_payload_spansFrom ht, replacements, List.zipWith_map_right, List.length_nil,
      List.zipWith_self]
  rw [hmap, substitute_wrap g hlen, List.map_map]
  rfl

/-- Every token replaced by its payload. -/
theorem substitute_payloads (ps : List Piece) :
    substitute (text ps) ((spansFrom 0 ps).map fun k => (k, k.payload (text ps))) =
      fill ps ((tokens ps).map Token.payload) := substitute_map_payload id ps

/-- **The effect of an engine that finds the tokens of a text fills its pieces** with what it puts
in place of each token. -/
theorem run_text_of_placing? {e : Engine σ ε} {wrapTokens : Bool} {ps : List Piece}
    {results : List Text} {s s' : σ} (hplace : e.placing? wrapTokens = some place)
    (hlocate : e.locate (text ps) = .ok (spansFrom 0 ps))
    (hall : transformAll e.transform ((tokens ps).map Token.payload).reverse s =
      (.ok results.reverse, s'))
    (hlen : results.length = (tokens ps).length) :
    e.run wrapTokens (text ps) s =
      (.ok (fill ps (List.zipWith (fun k r => place r k.payload k.envelope) (tokens ps) results)),
        s') := by
  have ht : text ps = [] ++ text ps := rfl
  obtain ⟨hfits, hord⟩ := fits_spansFrom ht
  simp only [List.length_nil] at hfits hord
  rw [← map_payload_spansFrom ht] at hall
  rw [Engine.run_eq_of_placing? hplace hlocate (fun k hk => (hfits k hk).1) hord hall,
    substitute_spansFrom hlen]

/-- The same, where what takes the place of a token depends on the result alone. -/
theorem run_text {e : Engine σ ε} {wrapTokens : Bool} {ps : List Piece} {results : List Text}
    {s s' : σ} {wrap : Text → Text} (hplace : e.placing? wrapTokens = some fun r _ _ => wrap r)
    (hlocate : e.locate (text ps) = .ok (spansFrom 0 ps))
    (hall : transformAll e.transform ((tokens ps).map Token.payload).reverse s =
      (.ok results.reverse, s'))
    (hlen : results.length = (tokens ps).length) :
    e.run wrapTokens (text ps) s = (.ok (fill ps (results.map wrap)), s') := by
  rw [run_text_of_placing? hplace hlocate hall hlen, zipWith_wrap wrap hlen]

/-! ### What an engine yields -/

/-- The text with what `h` makes of each token in its place, when it makes something of each. -/
def fill? (h : Token → Option Text) : List Piece → Option Text
  | [] => some []
  | plain c :: ps => (fill? h ps).map (c :: ·)
  | token k :: ps => (h k).bind fun r => (fill? h ps).map (r ++ ·)

variable {h : Token → Option Text}

/-- Pieces are filled one after the other. -/
theorem fill?_append (ps qs : List Piece) :
    fill? h (ps ++ qs) = (fill? h ps).bind fun t => (fill? h qs).map (t ++ ·) := by
  induction ps with
  | nil => cases hq : fill? h qs <;> simp [fill?, hq]
  | cons p ps ih =>
      cases p with
      | plain c =>
          rw [List.cons_append, fill?, fill?, ih]
          cases fill? h ps <;> cases fill? h qs <;> rfl
      | token k =>
          rw [List.cons_append, fill?, fill?, ih]
          cases h k <;> cases fill? h ps <;> cases fill? h qs <;> simp

/-- Where something is made of each token, the pieces are filled with that. -/
theorem fill?_map_eq_some {g : Token → Option Text} (F : Token → Text → Text) {ps : List Piece}
    {rs : List Text} (hrs : List.Forall₂ (fun k r => g k = some r) (tokens ps) rs) :
    fill? (fun k => (g k).map (F k)) ps = some (fill ps (List.zipWith F (tokens ps) rs)) := by
  induction ps generalizing rs with
  | nil => rfl
  | cons p ps ih =>
      cases p with
      | plain c => rw [fill?, ih hrs, tokens, fill, Option.map_some]
      | token k =>
          cases hrs with
          | cons hr hrs =>
              rw [fill?, hr, ih hrs, tokens, List.zipWith_cons_cons, fill, Option.map_some,
                Option.bind_some, Option.map_some]

theorem fill?_eq_none {ps : List Piece} {k : Token} (hk : k ∈ tokens ps) (hnone : h k = none) :
    fill? h ps = none := by
  induction ps with
  | nil => cases hk
  | cons p ps ih =>
      cases p with
      | plain c => rw [fill?, ih hk, Option.map_none]
      | token l =>
          rw [fill?]
          rcases List.mem_cons.1 hk with rfl | hk
          · rw [hnone, Option.bind_none]
          · rw [ih hk]
            cases h l <;> rfl

/-- **What an engine yields** depends on the tokens of the text only, when the state does not matter
for what becomes of a payload. -/
theorem toOption_run_text {e : Engine σ ε} {wrapTokens : Bool} {I : σ → Prop}
    {g : Text → Option Text} (hplace : e.placing? wrapTokens = some place)
    (hsteady : Steady e.transform I g) {ps : List Piece}
    (hlocate : e.locate (text ps) = .ok (spansFrom 0 ps)) {s : σ} (hs : I s) :
    (e.run wrapTokens (text ps) s).1.toOption =
      fill? (fun k => (g k.payload).map fun r => place r k.payload k.envelope) ps := by
  have ht : text ps = [] ++ text ps := rfl
  have hpayloads := map_payload_spansFrom ht
  rcases hall : transformAll e.transform ((tokens ps).map Token.payload).reverse s with
    ⟨c | rs, s'⟩
  · -- the payload at which it fails is that of one of the tokens
    obtain ⟨p, hp, hnone⟩ := hsteady.exists_of_transformAll_eq_error hs hall
    obtain ⟨k, hk, rfl⟩ := List.mem_map.1 (List.mem_reverse.1 hp)
    obtain ⟨hfits, hord⟩ := fits_spansFrom ht
    rw [← hpayloads] at hall
    obtain ⟨_, _, _, _, _, -, -, -, hrun⟩ := Engine.exists_run_eq_error_of_placing? hplace hlocate
      (fun k hk => (hfits k hk).1) hord hall
    rw [hrun]
    exact (fill?_eq_none hk (by rw [hnone, Option.map_none])).symm
  · obtain ⟨results, rfl⟩ : ∃ results, rs = results.reverse :=
      ⟨rs.reverse, (List.reverse_reverse rs).symm⟩
    have hrs := List.forall₂_reverse_iff.1 (hsteady.forall₂_of_transformAll_eq_ok hs hall)
    have hlen : results.length = (tokens ps).length := by
      rw [← hrs.length_eq, List.length_map]
    rw [run_text_of_placing? hplace hlocate hall hlen]
    rw [List.forall₂_map_left_iff] at hrs
    exact (fill?_map_eq_some _ hrs).symm

/-! ### Scanning -/

/-- **A recogniser cuts a text into pieces:** no token begins at a character between tokens, and
each token is found where it stands.  The text begins behind the character `before`. -/
inductive Reads (find : Recogniser) : (before : Option Char) → List Piece → Prop where
  | nil {before : Option Char} : Reads find before []
  | plain {before : Option Char} {c : Char} {ps : List Piece}
      (hnone : find before (c :: text ps) = none) (h : Reads find (some c) ps) :
      Reads find before (plain c :: ps)
  | token {before : Option Char} {k : Token} {ps : List Piece}
      (hsome : find before (k.envelope ++ text ps) = some k)
      (h : Reads find k.envelope.getLast? ps) : Reads find before (token k :: ps)

instance decidableReads (find : Recogniser) :
    (before : Option Char) → (ps : List Piece) → Decidable (Reads find before ps)
  | _, [] => isTrue .nil
  | before, plain c :: ps =>
      have := decidableReads find (some c) ps
      decidable_of_iff (find before (c :: text ps) = none ∧ Reads find (some c) ps)
        ⟨fun ⟨hnone, h⟩ => .plain hnone h, fun | .plain hnone h => ⟨hnone, h⟩⟩
  | before, token k :: ps =>
      have := decidableReads find k.envelope.getLast? ps
      decidable_of_iff (find before (k.envelope ++ text ps) = some k ∧
          Reads find k.envelope.getLast? ps)
        ⟨fun ⟨hsome, h⟩ => .token hsome h, fun | .token hsome h => ⟨hsome, h⟩⟩

variable {find : Recogniser}

theorem getLast?_cons_or (c : Char) (a : Text) (before : Option Char) :
    (c :: a).getLast?.or before = a.getLast?.or (some c) := by
  cases a with
  | nil => simp
  | cons d a => simp [List.getLast?_cons]

/-- Characters that belong to a token already found are passed over. -/
theorem scanFrom_append (find : Recogniser) (before : Option Char) (pos : Nat) (a r : Text) :
    Token.scanFrom find a.length pos before (a ++ r) =
      Token.scanFrom find 0 (pos + a.length) (a.getLast?.or before) r := by
  induction a generalizing pos before with
  | nil => simp
  | cons c a ih =>
      have hpos : pos + 1 + a.length = pos + (a.length + 1) := by omega
      rw [List.length_cons, List.cons_append, Token.scanFrom, ih, getLast?_cons_or, hpos]

/-- **Scanning yields the places of the tokens.** -/
theorem scanFrom_text (hfind : find.Lawful) {ps : List Piece} {before : Option Char}
    (h : Reads find before ps) (pos : Nat) :
    Token.scanFrom find 0 pos before (text ps) = spansFrom pos ps := by
  induction h generalizing pos with
  | nil => rw [text, Token.scanFrom, spansFrom]
  | plain hnone _ ih => simp only [text, Token.scanFrom, hnone, ih, spansFrom]
  | @token before k ps hsome _ ih =>
      obtain ⟨c, a, hk⟩ := List.exists_cons_of_ne_nil (hfind.envelope_ne_nil hsome)
      have hlen : pos + 1 + a.length = pos + k.envelope.length := by
        rw [hk, List.length_cons]
        omega
      have hlast : k.envelope.getLast? = a.getLast?.or (some c) := by
        rw [hk, ← getLast?_cons_or c a none, Option.or_none]
      have hskip : k.envelope.length - 1 = a.length := by rw [hk, List.length_cons]; omega
      have htext : text (token k :: ps) = c :: (a ++ text ps) := by rw [text, hk, List.cons_append]
      rw [hk, List.cons_append] at hsome
      simp only [htext, Token.scanFrom, hsome, hskip]
      rw [scanFrom_append, hlen, ← hlast, ih, spansFrom]

theorem scan_text (hfind : find.Lawful) {ps : List Piece} (h : Reads find none ps) :
    Token.scan find (text ps) = spansFrom 0 ps := scanFrom_text hfind h 0

/-- The payloads that scanning finds are those of the tokens. -/
theorem map_payload_scan (hfind : find.Lawful) {ps : List Piece} (h : Reads find none ps) :
    (Token.scan find (text ps)).map (Span.payload · (text ps)) =
      (tokens ps).map Token.payload := by
  rw [scan_text hfind h]
  exact map_payload_spansFrom (List.nil_append _).symm

/-- **Every text is cut into pieces.** -/
theorem exists_reads (hfind : find.Lawful) (before : Option Char) (t : Text) :
    ∃ ps, text ps = t ∧ Reads find before ps := by
  -- behind a token the text is shorter by the whole envelope
  induction hn : t.length using Nat.strongRecOn generalizing t before with
  | ind n ih =>
      cases t with
      | nil => exact ⟨[], rfl, .nil⟩
      | cons c r =>
          cases hk : find before (c :: r) with
          | none =>
              obtain ⟨ps, rfl, hps⟩ := ih r.length (by simp [← hn]) (some c) r rfl
              exact ⟨plain c :: ps, rfl, .plain hk hps⟩
          | some k =>
              obtain ⟨rest, hrest⟩ := hfind.envelope_isPrefix hk
              have hpos := List.length_pos_iff.2 (hfind.envelope_ne_nil hk)
              have hlen : rest.length < n := by
                rw [← hn, ← hrest, List.length_append]
                omega
              obtain ⟨ps, rfl, hps⟩ := ih rest.length hlen k.envelope.getLast? rest rfl
              refine ⟨token k :: ps, hrest, .token ?_ hps⟩
              rw [hrest, hk]

/-- Each token that a text is cut into was found somewhere. -/
theorem Reads.exists_find {ps : List Piece} {before : Option Char} (h : Reads find before ps)
    {k : Token} (hk : k ∈ tokens ps) : ∃ before t, find before t = some k := by
  induction h with
  | nil => simp [tokens] at hk
  | plain _ _ ih => exact ih hk
  | token hsome _ ih =>
      rcases List.mem_cons.1 hk with rfl | hk
      · exact ⟨_, _, hsome⟩
      · exact ih hk

/-- What begins behind a character is read as it is behind another one, when recognising does not
tell them apart. -/
theorem Reads.congr_before {ps : List Piece} {before before' : Option Char}
    (hfind : ∀ t, find before' t = find before t) (h : Reads find before ps) :
    Reads find before' ps := by
  cases h with
  | nil => exact .nil
  | plain hnone h => exact .plain (by rw [hfind, hnone]) h
  | token hsome h => exact .token (by rw [hfind, hsome]) h

/-- Characters at which no token begins stay characters in front of what is read behind them. -/
theorem reads_map_plain_append {u : Text} {ps : List Piece} {before : Option Char}
    (hnone : ∀ before, ∀ n < u.length, find before (u.drop n ++ text ps) = none)
    (hps : Reads find (u.getLast?.or before) ps) : Reads find before (u.map .plain ++ ps) := by
  induction u generalizing before with
  | nil => exact hps
  | cons c u ih =>
      have hc : find before (c :: text (u.map .plain ++ ps)) = none := by
        rw [text_append, text_map_plain]
        exact hnone before 0 (Nat.succ_pos _)
      rw [getLast?_cons_or] at hps
      exact .plain hc (ih (fun before n hn => hnone before (n + 1) (Nat.succ_lt_succ hn)) hps)

/-- Where no token begins, the text is its characters. -/
theorem reads_map_plain {u : Text} {before : Option Char}
    (hnone : ∀ before, ∀ n < u.length, find before (u.drop n) = none) :
    Reads find before (u.map .plain) := by
  rw [← List.append_nil (u.map _)]
  refine reads_map_plain_append (fun before n hn => ?_) .nil
  rw [text, List.append_nil, hnone before n hn]

/-- A token that takes up a whole text is found at its beginning. -/
theorem exists_find_of_scan_eq (hfind : find.Lawful) {t : Text} {s : Span}
    (hscan : Token.scan find t = [s]) (hs : s.envelope t = t) :
    ∃ k, find none t = some k ∧ k.envelope = t := by
  obtain ⟨ps, rfl, hps⟩ := exists_reads hfind none t
  rw [scan_text hfind hps] at hscan
  cases hps with
  | nil => cases hscan
  | @plain _ c ps _ _ =>
      -- the envelope would not have the first character
      have ht : c :: text ps = [c] ++ text ps := rfl
      have hmem : s ∈ spansFrom [c].length ps := by
        rw [spansFrom, Nat.zero_add] at hscan
        rw [List.length_singleton, hscan]
        exact List.mem_singleton_self s
      obtain ⟨hfits, hle⟩ := (fits_spansFrom ht).1 s hmem
      obtain ⟨i, j, l, m, rfl, hij, hjl, hlm, hm⟩ := hfits.exists_nat
      have hlen := congrArg List.length hs
      rw [text, Span.envelope, Text.slice_natCast _ (by omega) (by omega), List.length_drop,
        List.length_take, Nat.min_eq_left hm] at hlen
      simp only [List.length_cons] at hle hlen hm
      omega
  | @token _ k ps hsome _ =>
      have hspan : k.span ([] : Text).length = s := (List.cons.inj hscan).1
      have henvelope := (span_slices k [] (text ps)).2
      rw [List.nil_append, hspan] at henvelope
      rw [text, henvelope] at hs
      exact ⟨k, hsome, hs⟩

end Piece

end InlineSecrets
