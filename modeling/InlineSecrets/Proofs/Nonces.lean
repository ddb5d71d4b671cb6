/-
**No nonce is used twice.**

A tool with a key seals each secret under a nonce of its own, which is the next draw from the source
of random bytes.  Within a text it goes from the last secret to the first; sealing does not fail, so
that all secrets of a text are sealed, also when the vault family fails on what comes out.  Nothing
else draws.  So whatever calls a tool has served, the nonces in what it sealed are the draws, one
after the other.  A text with halves of characters in its secrets is not sealed, and there are fewer
draws than secrets in it.

Main definitions:

* `InlineSecrets.Cipher.sealedFrom` — payloads sealed with one draw each;
* `InlineSecrets.Cipher.nonce?` — the nonce that a sealed payload carries;
* `InlineSecrets.Tool.Call`, `InlineSecrets.Tool.history` — calls of a tool, and the worlds in which
  they are made;
* `InlineSecrets.Tool.Emits` — what a call puts in the places of secrets.

Main results:

* `InlineSecrets.Family.transformAll_sealing` — the sealed forms of several payloads;
* `InlineSecrets.Tool.run_of_seals` — the inline family comes first, and draws once for each secret;
* `InlineSecrets.Tool.entropy_run_of_opens` — **opening does not draw;**
* `InlineSecrets.Tool.exists_emitted` — **the nonces of any calls are the draws;**
* `InlineSecrets.Codes.exists_draws_sealEach` — texts with halves of characters draw less if they
  are not sealed.
-/

import InlineSecrets.Proofs.Failing
import InlineSecrets.Proofs.Opening
import InlineSecrets.Proofs.Pipeline
import InlineSecrets.Torn
import Mathlib.Data.List.Nodup
import Mathlib.Data.Option.Basic

set_option relaxedAutoImplicit false
set_option autoImplicit false

namespace InlineSecrets

/-! ### Draws -/

namespace Entropy

/-- The source behind `n` more draws. -/
def advance (e : Entropy) (n : Nat) : Entropy := { e with drawn := e.drawn + n }

/-- The draw number `i` from here on, when it is for a nonce. -/
def nonce (e : Entropy) (i : Nat) : Bytes := (e.draw (e.drawn + i) Cipher.nonceSize).toList

@[simp] theorem length_nonce (e : Entropy) (i : Nat) : (e.nonce i).length = Cipher.nonceSize :=
  Vector.length_toList

@[simp] theorem advance_advance (e : Entropy) (m n : Nat) :
    (e.advance m).advance n = e.advance (m + n) := by
  simp only [advance, Nat.add_assoc]

@[simp] theorem nonce_advance (e : Entropy) (n i : Nat) :
    (e.advance n).nonce i = e.nonce (n + i) := by
  simp only [nonce, advance, Nat.add_assoc]

end Entropy

/-- The world behind `n` more draws. -/
def World.advance (w : World) (n : Nat) : World := { w with entropy := w.entropy.advance n }

/-! ### Sealing with one draw each -/

namespace Cipher

/-- The sealed forms of payloads, each with the next draw for its nonce. -/
def sealedFrom (key : Key) (e : Entropy) (ps : List Text) : List Text :=
  ps.mapIdx fun i p => sealedWith key (e.nonce i) p

@[simp] theorem length_sealedFrom (key : Key) (e : Entropy) (ps : List Text) :
    (sealedFrom key e ps).length = ps.length := List.length_mapIdx

theorem sealedFrom_cons (key : Key) (e : Entropy) (p : Text) (ps : List Text) :
    sealedFrom key e (p :: ps) =
      sealedWith key (e.nonce 0) p :: sealedFrom key (e.advance 1) ps := by
  rw [sealedFrom, List.mapIdx_cons]
  simp only [sealedFrom, Entropy.nonce_advance, Nat.add_comm 1]

/-- The nonce that a sealed payload carries: the first bytes of what it stands for. -/
def nonce? (r : Text) : Option Bytes := (Base64.decode r).toOption.map (·.take nonceSize)

theorem nonce?_sealedWith (key : Key) {nonce : Bytes} (h : nonce.length = nonceSize) (p : Text) :
    nonce? (sealedWith key nonce p) = some nonce := by
  rw [nonce?, sealedWith, Base64.decode_encode, ← h]
  exact congrArg some List.take_left

/-- **The nonces of payloads that were sealed one after the other are the draws.** -/
theorem map_nonce?_sealedFrom (key : Key) (e : Entropy) (ps : List Text) :
    (sealedFrom key e ps).map nonce? = (List.range ps.length).map fun i => some (e.nonce i) := by
  refine List.ext_getElem (by simp) fun i _ _ => ?_
  simp only [sealedFrom, List.getElem_map, List.getElem_mapIdx, List.getElem_range]
  exact nonce?_sealedWith key (e.length_nonce i) _

end Cipher

namespace Family

theorem sealing_eq (key : Key) (p : Text) (w : World) :
    sealing key p w = (.ok (Cipher.sealedWith key (w.entropy.nonce 0) p), w.advance 1) := by
  rw [sealing, Cipher.sealText_eq]
  rfl

/-- **Payloads are sealed with one draw each.** -/
theorem transformAll_sealing (key : Key) (ps : List Text) (w : World) :
    Splicing.transformAll (sealing key) ps w =
      (.ok (Cipher.sealedFrom key w.entropy ps), w.advance ps.length) := by
  induction ps generalizing w with
  | nil => rfl
  | cons p ps ih =>
      refine Splicing.transformAll_cons_eq_ok_iff.2 ⟨_, _, _, sealing_eq key p w, ?_,
        Cipher.sealedFrom_cons key w.entropy p ps⟩
      rw [ih, List.length_cons, Nat.add_comm]
      simp only [World.advance, Entropy.advance_advance]

end Family

/-! ### Calls -/

namespace Tool

open Piece Splicing

/-- A call of a tool. -/
structure Call where
  action : Action
  wrapTokens : Bool
  text : Text

namespace Call

/-- What a tool makes of a call. -/
def run (c : Call) (tool : Tool) (w : World) : Except (Engine.Failure Cause) Text × World :=
  tool.run c.action c.wrapTokens c.text w

/-- The payloads that a call is to seal, in the order in which they are sealed: those of the plain
secrets of its text, from the last one to the first. -/
def payloads (c : Call) : List Text :=
  match c.action with
  | .encode | .redact => ((Shape.plain.spans c.text).map (Span.payload · c.text)).reverse
  | .decode | .unredact => []

/-- The text of a call with sealed payloads, listed from the last one to the first, in the places of
its plain secrets. -/
def sealedText (c : Call) (rs : List Text) : Text :=
  substitute c.text (replacements (fun r _ _ => sealedOpener ++ r ++ sealedCloser) c.text
    (Shape.plain.spans c.text) rs.reverse)

end Call

variable {key : Key} {usesVault : Bool} {c : Call}

/-- The text of a call, cut at its secrets, with sealed payloads in their places. -/
theorem Call.sealedText_eq {ps : List Piece} (hps : Reads Shape.plain.token? none ps)
    (htext : Piece.text ps = c.text) {rs : List Text} (hlen : rs.length = (tokens ps).length) :
    c.sealedText rs = Piece.text (withSealed ps rs.reverse) := by
  rw [Call.sealedText, ← htext, Shape.spans_text hps,
    substitute_wrap _ (by rw [List.length_reverse, hlen]), text_withSealed]
  rfl

/-- **The inline family comes first, and draws once for each secret.**  What becomes of its result
is up to the vault family. -/
theorem run_of_seals (key : Key) (usesVault : Bool)
    (ha : c.action = .encode ∨ c.action = .redact) (w : World) :
    c.run (ofParts (some key) usesVault) w =
      (ofParts none usesVault).run c.action c.wrapTokens
        (c.sealedText (Cipher.sealedFrom key w.entropy c.payloads))
        (w.advance c.payloads.length) := by
  obtain ⟨ps, htext, hps⟩ := exists_reads Shape.lawful_plain none c.text
  have hpayloads : c.payloads = ((tokens ps).map Token.payload).reverse := by
    rw [← map_payload_scan Shape.lawful_plain hps, htext]
    rcases ha with ha | ha <;> simp only [Call.payloads, ha] <;> rfl
  have hlen : (Cipher.sealedFrom key w.entropy c.payloads).length = (tokens ps).length := by
    rw [Cipher.length_sealedFrom, hpayloads, List.length_reverse, List.length_map]
  have hall : transformAll (Family.sealing key) ((tokens ps).map Token.payload).reverse w =
      (.ok (Cipher.sealedFrom key w.entropy c.payloads).reverse.reverse,
        w.advance c.payloads.length) := by
    rw [← hpayloads, List.reverse_reverse, Family.transformAll_sealing]
  have hsealing : c.run (ofParts (some key) false) w =
      (.ok (c.sealedText (Cipher.sealedFrom key w.entropy c.payloads)),
        w.advance c.payloads.length) := by
    rw [Call.sealedText_eq hps htext hlen, Call.run, ← htext]
    exact run_sealing ha c.wrapTokens hps hall (by rw [List.length_reverse, hlen])
  cases usesVault with
  | false => exact hsealing
  | true => rw [Call.run, run_both, ← Call.run, hsealing]

/-! ### What does not draw -/

/-- Transformations other than sealing do not draw. -/
theorem entropy_transform {family : Family} {a : Action} {e : Engine World Cause}
    (he : family.engine? a = some e) (hopens : a = .decode ∨ a = .unredact ∨ family = .vault)
    (p : Text) (w : World) : (e.transform p w).2.entropy = w.entropy := by
  cases family with
  | inline key =>
      rcases hopens with rfl | rfl | h
      · cases he
        rfl
      · cases he
        rfl
      · cases h
  | vault => cases a <;> cases he <;> rfl

/-- Engines that do not seal do not draw. -/
theorem entropy_run_engine {family : Family} {a : Action} {e : Engine World Cause}
    (he : family.engine? a = some e) (hopens : a = .decode ∨ a = .unredact ∨ family = .vault)
    (wrapTokens : Bool) (t : Text) (w : World) :
    (e.run wrapTokens t w).2.entropy = w.entropy := by
  obtain ⟨place, hplace⟩ := family.exists_placing? he wrapTokens
  refine Engine.keeps_run_of_placing? (I := fun w' => w'.entropy = w.entropy) hplace ?_ t rfl
  intro p w' hw'
  rw [entropy_transform he hopens, hw']

/-- **Opening does not draw,** whatever families a tool has. -/
theorem entropy_run_of_opens (tool : Tool) (ha : c.action = .decode ∨ c.action = .unredact)
    (w : World) : (c.run tool w).2.entropy = w.entropy := by
  refine keeps_runEngines (I := fun w' => w'.entropy = w.entropy) (fun e he t w' hw' => ?_)
    c.text rfl
  obtain ⟨family, -, he⟩ := List.mem_filterMap.1 he
  rw [entropy_run_engine he (ha.imp_right Or.inl), hw']

/-- Nor does the vault family. -/
theorem entropy_run_vault (usesVault : Bool) (a : Action) (wrapTokens : Bool) (t : Text)
    (w : World) : ((ofParts none usesVault).run a wrapTokens t w).2.entropy = w.entropy := by
  refine keeps_runEngines (I := fun w' => w'.entropy = w.entropy) (fun e he t w' hw' => ?_) t rfl
  obtain ⟨family, hfamily, he⟩ := List.mem_filterMap.1 he
  have hvault : family = .vault := by
    cases usesVault with
    | false => cases hfamily
    | true => exact List.mem_singleton.1 hfamily
  rw [entropy_run_engine he (Or.inr (Or.inr hvault)), hw']

/-- **The source behind a call** is behind one draw for each payload that it sealed. -/
theorem entropy_run (key : Key) (usesVault : Bool) (c : Call) (w : World) :
    (c.run (ofParts (some key) usesVault) w).2.entropy = w.entropy.advance c.payloads.length := by
  cases ha : c.action with
  | encode => rw [run_of_seals key usesVault (Or.inl ha), entropy_run_vault]; rfl
  | redact => rw [run_of_seals key usesVault (Or.inr ha), entropy_run_vault]; rfl
  | decode =>
      rw [entropy_run_of_opens _ (Or.inl ha), Call.payloads, ha]
      rfl
  | unredact =>
      rw [entropy_run_of_opens _ (Or.inr ha), Call.payloads, ha]
      rfl

/-! ### Calls one after the other -/

/-- Calls made one after the other, each with the world in which it is made. -/
def history (tool : Tool) : List Call → World → List (Call × World)
  | [], _ => []
  | c :: cs, w => (c, w) :: history tool cs (c.run tool w).2

/-- The world behind several calls. -/
def after (tool : Tool) : List Call → World → World
  | [], w => w
  | c :: cs, w => after tool cs (c.run tool w).2

/-- The number of secrets that a call is to seal: the plain secrets located in its text. -/
def Call.secrets (c : Call) : Nat :=
  match c.action with
  | .encode | .redact => (Shape.plain.spans c.text).length
  | .decode | .unredact => 0

theorem Call.length_payloads (c : Call) : c.payloads.length = c.secrets := by
  unfold Call.payloads Call.secrets
  split <;> simp

/-- The number of secrets that several calls are to seal. -/
def secretsOf : List Call → Nat
  | [] => 0
  | c :: cs => c.secrets + secretsOf cs

/-- **What a call puts in the places of secrets,** listed from the last one to the first: one sealed
payload for each secret; from the text with these, a tool that is without the key goes on.  Calls
that do not seal leave the source of random bytes alone. -/
def Emits (key : Key) (usesVault : Bool) (m : Call × World) (rs : List Text) : Prop :=
  rs.length = m.1.secrets ∧
    match m.1.action with
    | .encode | .redact =>
        m.1.run (ofParts (some key) usesVault) m.2 =
          (ofParts none usesVault).run m.1.action m.1.wrapTokens (m.1.sealedText rs)
            (m.2.advance rs.length)
    | .decode | .unredact =>
        (m.1.run (ofParts (some key) usesVault) m.2).2.entropy = m.2.entropy

theorem emits_sealedFrom (key : Key) (usesVault : Bool) (c : Call) (w : World) :
    Emits key usesVault (c, w) (Cipher.sealedFrom key w.entropy c.payloads) := by
  rw [Emits, Cipher.length_sealedFrom]
  refine ⟨c.length_payloads, ?_⟩
  split
  · next ha => exact run_of_seals key usesVault (Or.inl ha) w
  · next ha => exact run_of_seals key usesVault (Or.inr ha) w
  · next ha => exact entropy_run_of_opens _ (Or.inl ha) w
  · next ha => exact entropy_run_of_opens _ (Or.inr ha) w

/-- The source behind several calls is behind one draw for each secret in their texts. -/
theorem entropy_after (key : Key) (usesVault : Bool) (calls : List Call) (w : World) :
    (after (ofParts (some key) usesVault) calls w).entropy =
      w.entropy.advance (secretsOf calls) := by
  induction calls generalizing w with
  | nil => rfl
  | cons c calls ih =>
      rw [after, ih, entropy_run, c.length_payloads, Entropy.advance_advance, secretsOf]

/-- The nonces in what several calls seal. -/
theorem flatMap_nonce?_history (key : Key) (usesVault : Bool) (calls : List Call) (w : World) :
    ((history (ofParts (some key) usesVault) calls w).flatMap fun m =>
        (Cipher.sealedFrom key m.2.entropy m.1.payloads).map Cipher.nonce?) =
      (List.range (secretsOf calls)).map fun k => some (w.entropy.nonce k) := by
  induction calls generalizing w with
  | nil => rfl
  | cons c calls ih =>
      -- the draws behind the first call are those from its number of secrets on
      rw [history, List.flatMap_cons, ih, Cipher.map_nonce?_sealedFrom, entropy_run,
        c.length_payloads, secretsOf, List.range_add, List.map_append, List.map_map]
      simp only [Entropy.nonce_advance, Function.comp_def]

/-- **No nonce is used twice.**  For any calls that a tool with a key has served, there are the
sealed payloads that each of them has put in the places of secrets, from the last secret of its text
to the first; the number of draws is that of all secrets in the texts that were to be sealed, and
the nonces of all that was sealed are these draws, in this order.  So they differ from each other if
the draws do. -/
theorem exists_emitted (key : Key) (usesVault : Bool) (calls : List Call) (w : World) :
    ∃ emitted : List (List Text),
      List.Forall₂ (Emits key usesVault) (history (ofParts (some key) usesVault) calls w) emitted ∧
      (after (ofParts (some key) usesVault) calls w).entropy =
        w.entropy.advance (secretsOf calls) ∧
      emitted.flatten.map Cipher.nonce? =
        (List.range (secretsOf calls)).map (fun k => some (w.entropy.nonce k)) ∧
      (((List.range (secretsOf calls)).map w.entropy.nonce).Nodup →
        (emitted.flatten.map Cipher.nonce?).Nodup) := by
  have hnonces := flatMap_nonce?_history key usesVault calls w
  rw [← List.map_flatMap, List.flatMap_def] at hnonces
  refine ⟨_, ?_, entropy_after key usesVault calls w, hnonces, fun hdraws => ?_⟩
  · rw [List.forall₂_map_right_iff, List.forall₂_same]
    exact fun m _ => emits_sealedFrom key usesVault m.1 m.2
  · have hsome := List.Nodup.map (Option.some_injective Bytes) hdraws
    rw [List.map_map] at hsome
    rw [hnonces]
    exact hsome

/-- A source whose draws are all different, up to the number of values of a byte. -/
def counting : World := ⟨⟨fun i n => Vector.replicate n (UInt8.ofNat i), 0⟩, .memory [] []⟩

/-- Two secrets that touch each other, a text that is opened, and one more secret, which stands in a
declaration. -/
def interleaved : List Call :=
  [⟨.encode, false, "secret:a:secretsecret:b:secret".toList⟩,
    ⟨.decode, true, "secret:a:secret".toList⟩,
    ⟨.redact, false, "vault-secret:p#k#secret:a:secret".toList⟩]

theorem exists_emitted_interleaved :
    ((List.range 3).map counting.entropy.nonce).Nodup ∧
    ∃ emitted : List (List Text),
      List.Forall₂ (Emits ⟨List.replicate 32 0, length_zeros⟩ true)
        (history ofZerosAndVault interleaved counting) emitted ∧
      (after ofZerosAndVault interleaved counting).entropy = counting.entropy.advance 3 ∧
      (emitted.flatten.map Cipher.nonce?).Nodup := by
  have hsecrets : secretsOf interleaved = 3 := by decide +kernel
  have hdraws : ((List.range 3).map counting.entropy.nonce).Nodup := by decide
  obtain ⟨emitted, hemits, hafter, -, hnodup⟩ :=
    exists_emitted ⟨List.replicate 32 0, length_zeros⟩ true interleaved counting
  rw [hsecrets] at hafter hnodup
  exact ⟨hdraws, emitted, hemits, hafter, hnodup hdraws⟩

end Tool

/-! ### Texts with halves of characters -/

namespace Codes

open Splicing

/-- A payload is sealed with one draw, or it has no bytes, and nothing is drawn. -/
theorem sealCodes_cases (key : Key) (t : Codes) (e : Entropy) :
    (∃ f, Cipher.sealCodes (some key) t e = (.error (.unencodable f), e)) ∨
      ∃ r, Cipher.sealCodes (some key) t e = (.ok r, e.advance 1) := by
  rcases h : Utf8.encodeCodes t with f | data
  · exact .inl ⟨f, by simp only [Cipher.sealCodes, h]⟩
  · refine .inr ⟨Base64.encode (e.nonce 0 ++ Cipher.sealed key.bytes (e.nonce 0) data), ?_⟩
    simp only [Cipher.sealCodes, h, Cipher.encrypt, if_pos key.length_bytes]
    rfl

/-- **A text is sealed with one draw for each span, or with fewer of them it is not sealed.** -/
theorem exists_draws_sealEach (key : Key) (ks : List Span) (t : Codes) (e : Entropy) :
    ∃ n ≤ ks.length, (sealEach key ks t e).2 = e.advance n ∧
      ((∃ r, (sealEach key ks t e).1 = .ok r) ↔ n = ks.length) := by
  induction ks generalizing t e with
  | nil => exact ⟨0, Nat.le_refl 0, rfl, iff_of_true ⟨t, rfl⟩ rfl⟩
  | cons k ks ih =>
      rcases sealCodes_cases key (slice t k.payloadStart k.payloadEnd) e with ⟨f, h⟩ | ⟨r, h⟩
      · refine ⟨0, Nat.zero_le _, by simp only [sealEach, h]; rfl, ?_⟩
        simp only [sealEach, h]
        exact iff_of_false (fun ⟨_, hr⟩ => nomatch hr) (Nat.succ_ne_zero _).symm
      · obtain ⟨n, hn, hdrawn, hok⟩ := ih (splice t k.envelopeStart k.envelopeEnd
          (ofText (sealedOpener ++ r ++ sealedCloser))) (e.advance 1)
        refine ⟨n + 1, Nat.succ_le_succ hn, ?_, ?_⟩
        · simp only [sealEach, h]
          rw [hdrawn, Entropy.advance_advance, Nat.add_comm]
        · simp only [sealEach, h]
          rw [hok, List.length_cons, Nat.add_right_cancel_iff]

/-- **Without halves of characters a text is sealed as by a tool,** with one draw for each
secret. -/
theorem encoded_ofText (key : Key) (wrapTokens : Bool) (t : Text) (w : World) :
    ∃ r, (Tool.ofParts (some key) false).run .encode wrapTokens t w =
        (.ok r, w.advance (Shape.plain.spans t).length) ∧
      (ofText t).encoded key w.entropy =
        (.ok (ofText r), w.entropy.advance (Shape.plain.spans t).length) := by
  have heach : ∀ (ks : List Span) (t : Text) (w : World), ∃ r,
      spliceEach (Family.sealing key) (fun r _ _ => (Token.encrypted r).envelope) ks t w =
        (.ok r, w.advance ks.length) ∧
      sealEach key ks (ofText t) w.entropy = (.ok (ofText r), w.entropy.advance ks.length) := by
    intro ks
    induction ks with
    | nil => exact fun t w => ⟨t, rfl, rfl⟩
    | cons k ks ih =>
        intro t w
        have hseal : Cipher.sealCodes (some key)
            (slice (ofText t) k.payloadStart k.payloadEnd) w.entropy =
            (.ok (Cipher.sealedWith key (w.entropy.nonce 0) (k.payload t)),
              w.entropy.advance 1) := by
          rw [← ofText_slice]
          exact Cipher.sealText_eq key (k.payload t) w.entropy
        obtain ⟨r, hr, hr'⟩ := ih (k.replace t (Token.encrypted (Cipher.sealedWith key
          (w.entropy.nonce 0) (k.payload t))).envelope) (w.advance 1)
        refine ⟨r, ?_, ?_⟩
        · simp only [spliceEach, Family.sealing_eq]
          rw [hr, List.length_cons, Nat.add_comm]
          simp only [World.advance, Entropy.advance_advance]
        · simp only [sealEach, hseal]
          rw [← ofText_splice, List.length_cons, Nat.add_comm, ← Entropy.advance_advance]
          exact hr'
  obtain ⟨engine, he, hlocate, htransform, hplace⟩ :=
    Tool.exists_engine_sealing key (.inl rfl) wrapTokens
  obtain ⟨r, hr, hr'⟩ := heach (Shape.plain.spans t).reverse t w
  rw [List.length_reverse] at hr hr'
  refine ⟨r, ?_, ?_⟩
  · rw [Tool.run_ofParts he, Engine.run_of_placing? hplace, hlocate]
    simp only [Engine.splice, spliceBack, htransform, hr]
  · rw [encoded, toText_ofText]
    exact hr'

/-- A secret that is half a character. -/
def torn : Codes := ofText "secret:".toList ++ 0xDCFF :: ofText ":secret".toList

/-- **Halves of characters in a secret keep the nonce from being drawn.**  There is one secret in
the text, which is not sealed, and nothing is drawn for it. -/
theorem encoded_torn :
    (Shape.plain.spans (toText torn)).length = 1 ∧
    (∃ f, torn.encoded ⟨List.replicate 32 0, rfl⟩ Tool.counting.entropy =
        (.error f, Tool.counting.entropy) ∧
      f.message Cause.message = "secret: failed to encode token at offset 0: " ++
        "'utf-8' codec can't encode character '\\udcff' in position 0: surrogates not allowed") ∧
    Tool.counting.entropy ≠ Tool.counting.entropy.advance 1 := by
  refine ⟨rfl, ⟨_, rfl, rfl⟩, fun h => ?_⟩
  cases congrArg Entropy.drawn h

end Codes

end InlineSecrets
