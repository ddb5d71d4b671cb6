/-
**Exactly the sealed payloads open.**

A sealed payload is the Base64 text of a nonce and the payload's bytes sealed under it.  Each step
of opening undoes one step of sealing and nothing else: strict Base64 yields bytes or a fault, the
first twelve bytes are the nonce or there are too few, exactly the sealed messages are authentic,
and exactly the bytes of texts are read as UTF-8.  So the texts that open are characterised, each
other one is rejected for one of four reasons, and each reason says something of the text.

Main definitions:

* `InlineSecrets.Cipher.Opens` — sealed payloads;
* `InlineSecrets.Cipher.Rejects` — what a reason for rejection says of a text;
* `InlineSecrets.Cipher.sealedWith` — the sealed form of a payload under a given nonce.

Main results:

* `InlineSecrets.Cipher.decrypt_eq_ok_iff`, `InlineSecrets.Cipher.decrypt_eq_error_iff` — bytes;
* `InlineSecrets.Cipher.openText_eq_ok_iff`, `InlineSecrets.Cipher.openText_eq_error_iff` — texts;
* `InlineSecrets.Cipher.openText_characterised` — **exactly the sealed payloads open.**
-/

import InlineSecrets.Cipher.Payload
import InlineSecrets.Proofs.Base64
import InlineSecrets.Proofs.Utf8

set_option relaxedAutoImplicit false
set_option autoImplicit false

namespace InlineSecrets

namespace Cipher

variable {key : Key} {t p : Text} {box message : Bytes} {f : Failure}

/-! ### Bytes -/

/-- A nonce, and behind it a message sealed under it. -/
def Boxes (key : Key) (box message : Bytes) : Prop :=
  ∃ nonce, nonce.length = nonceSize ∧ box = nonce ++ sealed key.bytes nonce message

/-- There is room for a nonce and a tag around a sealed message. -/
theorem Boxes.length_eq (h : Boxes key box message) :
    box.length = nonceSize + message.length + 16 := by
  obtain ⟨nonce, hnonce, rfl⟩ := h
  rw [List.length_append, length_sealed, hnonce, Nat.add_assoc]

/-- Decrypting bytes that have room for a nonce. -/
theorem decrypt_of_le (h : nonceSize ≤ box.length) :
    decrypt key.bytes box =
      match opened? key.bytes (box.take nonceSize) (box.drop nonceSize) with
      | none => .error .unauthentic
      | some m => .ok m :=
  (if_neg (Nat.not_lt.2 h)).trans (if_neg fun h => h key.length_bytes)

theorem decrypt_of_lt (h : box.length < nonceSize) :
    decrypt key.bytes box = .error .malformed := if_pos h

/-- **Exactly the boxes of messages are decrypted.** -/
theorem decrypt_eq_ok_iff : decrypt key.bytes box = .ok message ↔ Boxes key box message := by
  constructor
  · intro h
    rcases Nat.lt_or_ge box.length nonceSize with hlt | hle
    · rw [decrypt_of_lt hlt] at h
      cases h
    · rw [decrypt_of_le hle] at h
      split at h
      · cases h
      · next m hm =>
          cases h
          refine ⟨box.take nonceSize, List.length_take_of_le hle, ?_⟩
          rw [← opened?_eq_some_iff.1 hm, List.take_append_drop]
  · rintro ⟨nonce, hnonce, rfl⟩
    have hle : nonceSize ≤ (nonce ++ sealed key.bytes nonce message).length := by
      rw [List.length_append]
      omega
    rw [decrypt_of_le hle, ← hnonce, List.take_left, List.drop_left, opened?_sealed]

/-- Bytes are not decrypted when there is no room for a nonce, or when they are no message's box. -/
theorem decrypt_eq_error_iff :
    decrypt key.bytes box = .error f ↔
      (box.length < nonceSize ∧ f = .malformed) ∨
      (nonceSize ≤ box.length ∧ (∀ m, ¬Boxes key box m) ∧ f = .unauthentic) := by
  rcases Nat.lt_or_ge box.length nonceSize with hlt | hle
  · rw [decrypt_of_lt hlt, Except.error.injEq]
    constructor
    · rintro rfl
      exact .inl ⟨hlt, rfl⟩
    · rintro (⟨-, rfl⟩ | ⟨hle, -, -⟩)
      · rfl
      · exact absurd hlt (Nat.not_lt.2 hle)
  · have hunboxed : (∀ m, ¬Boxes key box m) ↔ ∀ m, decrypt key.bytes box ≠ .ok m :=
      forall_congr' fun _ => not_congr decrypt_eq_ok_iff.symm
    rw [hunboxed, decrypt_of_le hle]
    rcases opened? key.bytes (box.take nonceSize) (box.drop nonceSize) with - | m
    · simp only [Except.error.injEq]
      constructor
      · rintro rfl
        exact .inr ⟨hle, nofun, rfl⟩
      · rintro (⟨hlt, -⟩ | ⟨-, -, rfl⟩)
        · exact absurd hlt (Nat.not_lt.2 hle)
        · rfl
    · constructor
      · nofun
      · rintro (⟨hlt, -⟩ | ⟨-, hm, -⟩)
        · exact absurd hlt (Nat.not_lt.2 hle)
        · exact absurd rfl (hm m)

/-! ### Texts -/

/-- The sealed form of a payload under a nonce. -/
def sealedWith (key : Key) (nonce : Bytes) (p : Text) : Text :=
  Base64.encode (nonce ++ sealed key.bytes nonce (Utf8.encode p))

/-- Sealing takes the next draw for the nonce. -/
theorem sealText_eq (key : Key) (p : Text) (e : Entropy) :
    sealText (some key) p e =
      (.ok (sealedWith key (e.next nonceSize).1.toList p), (e.next nonceSize).2) := by
  simp only [sealText, sealCodes, Utf8.encodeCodes_ofText, encrypt, if_pos key.length_bytes]
  rfl

/-- A text that stands for a payload sealed under the key and some nonce. -/
def Opens (key : Key) (t p : Text) : Prop :=
  ∃ nonce, nonce.length = nonceSize ∧
    Base64.decode t = .ok (nonce ++ sealed key.bytes nonce (Utf8.encode p))

theorem opens_sealedWith (key : Key) {nonce : Bytes} (h : nonce.length = nonceSize) (p : Text) :
    Opens key (sealedWith key nonce p) p := ⟨nonce, h, Base64.decode_encode _⟩

/-- What a reason for rejection says of a text: it is not Base64; there is no room for a nonce; no
message is sealed like that; or the message that is sealed is not UTF-8.  There is no other reason
under a key. -/
def Rejects (key : Key) (t : Text) : Failure → Prop
  | .undecodable f => Base64.decode t = .error f
  | .malformed => ∃ box, Base64.decode t = .ok box ∧ box.length < nonceSize
  | .unauthentic => ∃ box, Base64.decode t = .ok box ∧ nonceSize ≤ box.length ∧
      ∀ message, ¬Boxes key box message
  | .notText f => ∃ box message, Base64.decode t = .ok box ∧ Boxes key box message ∧
      Utf8.decode message = .error f
  | .missingKey => False
  | .unusableKey => False
  | .unencodable _ => False

/-- What becomes of a text at each step of opening it. -/
theorem openText_cases (key : Key) (t : Text) :
    (∃ g, Base64.decode t = .error g ∧ openText (some key) t = .error (.undecodable g)) ∨
    ∃ box, Base64.decode t = .ok box ∧
      ((∃ f, decrypt key.bytes box = .error f ∧ openText (some key) t = .error f) ∨
      ∃ message, decrypt key.bytes box = .ok message ∧
        ((∃ g, Utf8.decode message = .error g ∧ openText (some key) t = .error (.notText g)) ∨
        ∃ p, Utf8.decode message = .ok p ∧ openText (some key) t = .ok p)) := by
  rcases hbox : Base64.decode t with g | box
  · exact .inl ⟨g, rfl, by simp only [openText, hbox]⟩
  · refine .inr ⟨box, rfl, ?_⟩
    rcases hmessage : decrypt key.bytes box with f | message
    · exact .inl ⟨f, rfl, by simp only [openText, hbox, hmessage]⟩
    · refine .inr ⟨message, rfl, ?_⟩
      rcases hp : Utf8.decode message with g | p
      · exact .inl ⟨g, rfl, by simp only [openText, hbox, hmessage, hp]⟩
      · exact .inr ⟨p, rfl, by simp only [openText, hbox, hmessage, hp]⟩

/-- **Exactly the sealed payloads open.** -/
theorem openText_eq_ok_iff : openText (some key) t = .ok p ↔ Opens key t p := by
  constructor
  · intro h
    rcases openText_cases key t with ⟨g, -, hg⟩ | ⟨box, hbox, ⟨f, -, hf⟩ | ⟨message, hmessage, hp⟩⟩
    · cases hg.symm.trans h
    · cases hf.symm.trans h
    · rcases hp with ⟨g, -, hg⟩ | ⟨p', hp, hp'⟩
      · cases hg.symm.trans h
      · cases hp'.symm.trans h
        obtain ⟨nonce, hnonce, rfl⟩ := decrypt_eq_ok_iff.1 hmessage
        rw [Utf8.decode_eq_ok_iff.1 hp] at hbox
        exact ⟨nonce, hnonce, hbox⟩
  · rintro ⟨nonce, hnonce, hbox⟩
    have hmessage : decrypt key.bytes (nonce ++ sealed key.bytes nonce (Utf8.encode p)) =
        .ok (Utf8.encode p) := decrypt_eq_ok_iff.2 ⟨nonce, hnonce, rfl⟩
    simp only [openText, hbox, hmessage, Utf8.decode_encode]

/-- **Each other text is rejected for a reason that applies to it.** -/
theorem openText_eq_error_iff : openText (some key) t = .error f ↔ Rejects key t f := by
  constructor
  · intro h
    rcases openText_cases key t with ⟨g, hbox, hg⟩ | ⟨box, hbox, ⟨f', hf, hf'⟩ | ⟨message, hm, hp⟩⟩
    · cases hg.symm.trans h
      exact hbox
    · cases hf'.symm.trans h
      rcases decrypt_eq_error_iff.1 hf with ⟨hlt, rfl⟩ | ⟨hle, hunboxed, rfl⟩
      · exact ⟨box, hbox, hlt⟩
      · exact ⟨box, hbox, hle, hunboxed⟩
    · rcases hp with ⟨g, hp, hg⟩ | ⟨p, -, hp⟩
      · cases hg.symm.trans h
        exact ⟨box, message, hbox, decrypt_eq_ok_iff.1 hm, hp⟩
      · cases hp.symm.trans h
  · intro h
    -- one case for each reason
    cases f with
    | missingKey => exact h.elim
    | unusableKey => exact h.elim
    | unencodable => exact h.elim
    | undecodable g => simp only [openText, show Base64.decode t = .error g from h]
    | malformed =>
        obtain ⟨box, hbox, hlt⟩ := h
        simp only [openText, hbox, decrypt_of_lt hlt]
    | unauthentic =>
        obtain ⟨box, hbox, hle, hunboxed⟩ := h
        have hmessage := decrypt_eq_error_iff.2 (.inr ⟨hle, hunboxed, rfl⟩)
        simp only [openText, hbox, hmessage]
    | notText g =>
        obtain ⟨box, message, hbox, hboxes, hp⟩ := h
        simp only [openText, hbox, decrypt_eq_ok_iff.2 hboxes, hp]

/-- Too few bytes for a nonce and a tag. -/
theorem rejects_of_lt (hbox : Base64.decode t = .ok box) (h : box.length < nonceSize + 16) :
    Rejects key t (if box.length < nonceSize then .malformed else .unauthentic) := by
  split
  · next hlt => exact ⟨box, hbox, hlt⟩
  · next hle =>
      refine ⟨box, hbox, Nat.not_lt.1 hle, fun message hboxes => ?_⟩
      have hlength := hboxes.length_eq
      omega

/-- A text that is not ASCII. -/
theorem rejects_of_mem {c : Char} (hc : c ∈ t) (h : 0x80 ≤ c.toNat) :
    Rejects key t (.undecodable .nonAscii) := by
  have hany : t.any (fun c => 0x80 ≤ c.toNat) = true :=
    List.any_eq_true.2 ⟨c, hc, decide_eq_true h⟩
  simp only [Rejects, Base64.decode, Base64.letters, hany, if_true]
  rfl

/-- **Exactly the sealed payloads open.**  A text opens to a payload if and only if it is the Base64
text of a nonce and of the payload's bytes sealed under it; every other text is rejected, and for a
reason if and only if the reason applies to it.  In particular what is not ASCII is rejected, what
has no room for a nonce and a tag is rejected, and every payload is opened that was sealed, with
whatever nonce. -/
theorem openText_characterised (key : Key) (t : Text) :
    (∀ p, openText (some key) t = .ok p ↔ Opens key t p) ∧
    ((¬∃ p, Opens key t p) → ∃ f, Rejects key t f ∧ openText (some key) t = .error f) ∧
    (∀ f, openText (some key) t = .error f ↔ Rejects key t f) ∧
    (∀ c ∈ t, 0x80 ≤ c.toNat → openText (some key) t = .error (.undecodable .nonAscii)) ∧
    (∀ box, Base64.decode t = .ok box → box.length < nonceSize + 16 →
      openText (some key) t =
        .error (if box.length < nonceSize then .malformed else .unauthentic)) ∧
    ∀ p e, ∃ r e', sealText (some key) p e = (.ok r, e') ∧ openText (some key) r = .ok p := by
  refine ⟨fun _ => openText_eq_ok_iff, fun hnone => ?_, fun _ => openText_eq_error_iff,
    fun c hc h => openText_eq_error_iff.2 (rejects_of_mem hc h),
    fun box hbox h => openText_eq_error_iff.2 (rejects_of_lt hbox h), fun p e => ?_⟩
  · rcases h : openText (some key) t with f | p
    · exact ⟨f, openText_eq_error_iff.1 h, rfl⟩
    · exact absurd ⟨p, openText_eq_ok_iff.1 h⟩ hnone
  · refine ⟨_, _, sealText_eq key p e, openText_eq_ok_iff.2 (opens_sealedWith key ?_ p)⟩
    exact Vector.length_toList

/-- Letters that stand for twelve bytes, a nonce with nothing behind it, and a letter that is not
ASCII. -/
theorem openText_characterised_bare :
    Base64.decode (List.replicate 16 'A') = .ok (List.replicate 12 0) ∧
    openText (some ⟨List.replicate 32 0, rfl⟩) (List.replicate 16 'A') = .error .unauthentic ∧
    openText (some ⟨List.replicate 32 0, rfl⟩) ['A', 'é'] = .error (.undecodable .nonAscii) := by
  have hbox : Base64.decode (List.replicate 16 'A') = .ok (List.replicate 12 0) := rfl
  obtain ⟨-, -, -, -, hshort, -⟩ :=
    openText_characterised ⟨List.replicate 32 0, rfl⟩ (List.replicate 16 'A')
  obtain ⟨-, -, -, hascii, -⟩ := openText_characterised ⟨List.replicate 32 0, rfl⟩ ['A', 'é']
  exact ⟨hbox, hshort _ hbox (by decide), hascii 'é' (by decide) (by decide)⟩

end Cipher

end InlineSecrets
