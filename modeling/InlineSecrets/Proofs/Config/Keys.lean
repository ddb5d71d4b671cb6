/-
**A key that is accepted does not fail later.**

The text of a key is stripped and read when the settings are checked, stored without the blanks
around it, and stripped and read again when the key is asked for.  Stripping twice is stripping
once, and blanks around a text do not matter to it; so both readings agree, whatever the text is.

Main definitions:

* `InlineSecrets.Text.AllBlank` — texts of blanks;
* `InlineSecrets.Settings.keyEntry` — the text of a key in configuration data;
* `InlineSecrets.Settings.IsKeyedBy` — **what becomes of a text that is accepted as a key.**

Main results:

* `InlineSecrets.Text.strip_append`, `InlineSecrets.Text.strip_strip` — what stripping leaves out;
* `InlineSecrets.Settings.checkKey_text` — when a text is accepted;
* `InlineSecrets.Settings.check_keyEntry` — **a key that is accepted does not fail later.**
-/

import InlineSecrets.Proofs.Base64
import InlineSecrets.Proofs.Basic
import InlineSecrets.Tool
import Mathlib.Data.List.TakeWhile

set_option relaxedAutoImplicit false
set_option autoImplicit false

namespace InlineSecrets

/-! ### Stripped texts -/

namespace Text

variable {a b t : Text}

/-- Texts of blanks. -/
def AllBlank (t : Text) : Prop := ∀ c ∈ t, isBlank c = true

instance (t : Text) : Decidable t.AllBlank := List.decidableBAll (fun c => isBlank c = true) t

theorem AllBlank.stripLeft_eq (h : t.AllBlank) : t.stripLeft = [] := List.dropWhile_eq_nil_iff.2 h

theorem stripLeft_append (ha : a.AllBlank) (t : Text) : (a ++ t).stripLeft = t.stripLeft :=
  List.dropWhile_append_of_pos ha

theorem stripRight_append (t : Text) (hb : b.AllBlank) : (t ++ b).stripRight = t.stripRight := by
  rw [stripRight, List.reverse_append, List.dropWhile_append_of_pos, stripRight]
  exact fun c hc => hb c (List.mem_reverse.1 hc)

/-- **Blanks around a text do not matter.** -/
theorem strip_append (ha : a.AllBlank) (hb : b.AllBlank) : (a ++ t ++ b).strip = t.strip := by
  rw [strip, strip, List.append_assoc, stripLeft_append ha]
  by_cases ht : t.AllBlank
  · rw [stripLeft_append ht, hb.stripLeft_eq, ht.stripLeft_eq]
  · have hne : (t.dropWhile isBlank).isEmpty = false := by
      rw [List.isEmpty_eq_false_iff]
      exact fun h => ht (List.dropWhile_eq_nil_iff.1 h)
    have hleft : (t ++ b).stripLeft = t.stripLeft ++ b := by
      rw [stripLeft, List.dropWhile_append, hne]
      rfl
    rw [hleft, stripRight_append _ hb]

/-- What is left out are blanks. -/
theorem exists_eq_strip (t : Text) :
    ∃ a b : Text, a.AllBlank ∧ b.AllBlank ∧ t = a ++ t.strip ++ b := by
  refine ⟨t.takeWhile isBlank, (t.stripLeft.reverse.takeWhile isBlank).reverse,
    fun c hc => List.mem_takeWhile_imp hc, fun c hc => ?_, ?_⟩
  · exact List.mem_takeWhile_imp (List.mem_reverse.1 hc)
  · rw [strip, stripRight, List.append_assoc, ← List.reverse_append,
      List.takeWhile_append_dropWhile, List.reverse_reverse]
    exact List.takeWhile_append_dropWhile.symm

/-- **Stripping twice is stripping once.** -/
@[simp] theorem strip_strip (t : Text) : t.strip.strip = t.strip := by
  obtain ⟨a, b, ha, hb, heq⟩ := exists_eq_strip t
  have hstrip : (a ++ t.strip ++ b).strip = t.strip.strip := strip_append ha hb
  rw [← hstrip, ← heq]

theorem strip_eq_nil_iff : t.strip = [] ↔ t.AllBlank := by
  constructor
  · intro h
    obtain ⟨a, b, ha, hb, heq⟩ := exists_eq_strip t
    rw [heq, h, List.append_nil]
    exact List.forall_mem_append.2 ⟨ha, hb⟩
  · intro h
    have hstrip : (t ++ [] ++ []).strip = strip [] := strip_append h (List.forall_mem_nil _)
    rwa [List.append_nil, List.append_nil] at hstrip

/-- A text without blanks is stripped already. -/
theorem strip_eq_self (h : ∀ c ∈ t, isBlank c = false) : t.strip = t := by
  have hleft : t.stripLeft = t := by
    cases t with
    | nil => rfl
    | cons c t => exact List.dropWhile_cons_of_neg (by simp [h c])
  rw [strip, hleft, stripRight]
  cases hrev : t.reverse with
  | nil => rw [List.reverse_eq_nil_iff.1 hrev]; rfl
  | cons c r =>
      have hc : c ∈ t := List.mem_reverse.1 (hrev ▸ List.mem_cons_self)
      rw [List.dropWhile_cons_of_neg (by simp [h c hc]), ← hrev, List.reverse_reverse]

end Text

/-! ### Texts of keys -/

namespace Key

variable {t a b : Text}

/-- Only what is left by stripping is read. -/
theorem parse_congr {t' : Text} (h : t.strip = t'.strip) : parse t = parse t' := by
  rw [parse, h, parse]

@[simp] theorem parse_strip (t : Text) : parse t.strip = parse t := parse_congr t.strip_strip

/-- There are no blanks in the text of a key. -/
theorem isBlank_of_mem_text {k : Key} {c : Char} (h : c ∈ k.text) : Text.isBlank c = false := by
  have hsign := Base64.isSign_of_mem_encode h
  exact Text.forall_ascii (P := fun c => Base64.isSign c = true → Text.isBlank c = false)
    (by decide +kernel) c (Base64.toNat_lt_of_isSign hsign) hsign

/-- **The text of a key is read, with blanks around it, too.** -/
theorem parse_text (k : Key) (ha : a.AllBlank) (hb : b.AllBlank) :
    parse (a ++ k.text ++ b) = .ok k := by
  have hstrip : (a ++ k.text ++ b).strip = k.text := by
    rw [Text.strip_append ha hb, Text.strip_eq_self fun _ => isBlank_of_mem_text]
  rw [parse, hstrip, text, Base64.decode_encode]
  exact ofBytes_bytes k

/-- A blank text is no key. -/
theorem parse_of_allBlank (h : t.AllBlank) : parse t = .error (.wrongSize 0) := by
  rw [parse, Text.strip_eq_nil_iff.2 h]
  rfl

end Key

/-! ### Settings with a key -/

namespace Settings

variable {v : Text} {es : Assoc Scalar Setting} {s : Settings}

/-- **When a text is accepted as a key:** a blank one is none, and any other one has to be read. -/
theorem checkKey_text (v : Text) :
    checkKey (.text v) =
      if v.AllBlank then .ok none
      else match Key.parse v with
        | .ok _ => .ok (some v.strip)
        | .error f => .error (.notKey f) := by
  by_cases h : v.AllBlank
  · have hempty : v.strip.isEmpty = true := by rw [Text.strip_eq_nil_iff.2 h]; rfl
    simp only [checkKey, Setting.text, checkText, bind, Except.bind, hempty, if_pos h, if_true]
    rfl
  · have hempty : v.strip.isEmpty = false :=
      List.isEmpty_eq_false_iff.2 (mt Text.strip_eq_nil_iff.1 h)
    simp only [checkKey, Setting.text, checkText, bind, Except.bind, hempty, if_neg h]
    cases Key.parse v <;> rfl

/-- The text of a key in configuration data. -/
def keyEntry (v : Setting) : Scalar × Setting := (.text "aes_key".toList, v)

/-- The data that the text of a key is set from, if there is one. -/
def ofKeyText : Option Text → Setting
  | none => .scalar .null
  | some t => .text t

/-- The field of the key, whatever else the data say. -/
theorem field_keyEntry (v : Setting) (es : Assoc Scalar Setting) :
    field (keyEntry v :: es) "aes_key" none checkKey =
      match checkKey v with
      | .ok t => (t, [])
      | .error o => (none, [⟨["aes_key"], o⟩]) := by
  cases h : checkKey v <;> simp only [field, keyEntry, Assoc.get?_cons, if_true, h]

/-- Without other data, what is said about the key decides. -/
theorem check_keyEntry_eq (v : Setting) :
    check [keyEntry v] =
      match checkKey v with
      | .ok t => .ok { keyText := t }
      | .error o => .error [⟨["aes_key"], o⟩] := by
  have hvault : Assoc.get? [keyEntry v] (.text "vault".toList) = none := rfl
  simp only [check, field_keyEntry, hvault]
  cases checkKey v <;> rfl

/-- Settings are only accepted with a key that is. -/
theorem field_of_check {es : Assoc Scalar Setting} (h : check es = .ok s) :
    field es "aes_key" none checkKey = (s.keyText, []) := by
  rcases hfield : field es "aes_key" none checkKey with ⟨t, complaints⟩
  simp only [check, hfield] at h
  -- whatever is said about the vault
  obtain ⟨vault, others, h⟩ : ∃ (vault : VaultSettings) (others : List Complaint),
      (if (complaints ++ others).isEmpty then Except.ok ⟨t, vault⟩
        else .error (complaints ++ others)) = Except.ok s := ⟨_, _, h⟩
  split at h
  · next hnone =>
      cases h
      rw [(List.append_eq_nil_iff.1 (List.isEmpty_iff.1 hnone)).1]
  · cases h

theorem checkKey_of_check (h : check (keyEntry (.text v) :: es) = .ok s) :
    checkKey (.text v) = .ok s.keyText := by
  have hfield := field_of_check h
  rw [field_keyEntry] at hfield
  cases hkey : checkKey (.text v) with
  | ok t =>
      rw [hkey] at hfield
      rw [(Prod.mk.inj hfield).1]
  | error o =>
      rw [hkey] at hfield
      exact absurd (Prod.mk.inj hfield).2 (List.cons_ne_nil _ _)

/-- **What becomes of a text that is accepted as a key.**  A blank one means that there is no key;
otherwise the key is the one that the text stands for.  The text that is stored is accepted again
and stays as it is, and a tool can be made. -/
structure IsKeyedBy (s : Settings) (v : Text) : Prop where
  blank : v.AllBlank → s.keyText = none ∧ s.key = .ok none
  key : ¬v.AllBlank → ∃ k, Key.parse v = .ok k ∧ s.keyText = some v.strip ∧ s.key = .ok (some k)
  again : ∃ s', check [keyEntry (ofKeyText s.keyText)] = .ok s' ∧ s'.keyText = s.keyText ∧
    s'.key = s.key
  tool : ∀ vaultGiven, ∃ k, s.key = .ok k ∧
    Tool.ofSettings s vaultGiven = .ok (.ofParts k (vaultGiven || s.vault.enabled))

/-- The key is read once more from the text that is stored. -/
theorem key_of_keyText {k : Key} (hv : ¬v.AllBlank) (hparse : Key.parse v = .ok k)
    (hs : s.keyText = some v.strip) : s.key = .ok (some k) := by
  obtain ⟨c, r, hstrip⟩ := List.exists_cons_of_ne_nil (mt Text.strip_eq_nil_iff.1 hv)
  have hkey : Key.parse (c :: r) = .ok k := by rw [← hstrip, Key.parse_strip, hparse]
  rw [key, hs, hstrip]
  simp only [hkey]
  rfl

theorem isKeyedBy_of_checkKey (h : checkKey (.text v) = .ok s.keyText) : s.IsKeyedBy v := by
  have htool : ∀ {k}, s.key = .ok k → ∀ vaultGiven, ∃ k, s.key = .ok k ∧
      Tool.ofSettings s vaultGiven = .ok (.ofParts k (vaultGiven || s.vault.enabled)) :=
    fun {k} hk _ => ⟨k, hk, by rw [Tool.ofSettings, hk]; rfl⟩
  rw [checkKey_text] at h
  by_cases hv : v.AllBlank
  · rw [if_pos hv] at h
    have hnone : s.keyText = none := (Except.ok.inj h).symm
    have hkey : s.key = .ok none := by rw [key, hnone]
    refine ⟨fun _ => ⟨hnone, hkey⟩, absurd hv, ⟨{}, ?_, hnone.symm, hkey.symm⟩, htool hkey⟩
    rw [hnone]
    rfl
  · rw [if_neg hv] at h
    cases hparse : Key.parse v with
    | error f =>
        rw [hparse] at h
        cases h
    | ok k =>
        rw [hparse] at h
        have hsome : s.keyText = some v.strip := (Except.ok.inj h).symm
        have hkey := key_of_keyText hv hparse hsome
        refine ⟨fun h => absurd h hv, fun _ => ⟨k, hparse, hsome, hkey⟩, ?_, htool hkey⟩
        -- the text that is stored is stripped
        have hstored : ¬v.strip.AllBlank := by
          rwa [← Text.strip_eq_nil_iff, Text.strip_strip, Text.strip_eq_nil_iff]
        refine ⟨{ keyText := some v.strip }, ?_, hsome.symm, ?_⟩
        · rw [hsome, check_keyEntry_eq, ofKeyText, checkKey_text, if_neg hstored, Key.parse_strip,
            hparse, Text.strip_strip]
        · rw [hkey]
          exact key_of_keyText hv hparse rfl

/-- **A key that is accepted does not fail later.**  A text is rejected exactly when it is not blank
and stands for no key, with a complaint that says why it does not.  Whatever else the data say, what
is accepted becomes the key of the settings, is accepted again in the form in which it is stored,
and makes a tool.  And the text of every key is accepted as that key, with any blanks around it. -/
theorem check_keyEntry :
    (∀ v complaints, check [keyEntry (.text v)] = .error complaints ↔
      ¬v.AllBlank ∧ ∃ f, Key.parse v = .error f ∧ complaints = [⟨["aes_key"], .notKey f⟩]) ∧
    (∀ v es s, check (keyEntry (.text v) :: es) = .ok s → s.IsKeyedBy v) ∧
    ∀ (k : Key) (a b : Text), a.AllBlank → b.AllBlank →
      ∃ s, check [keyEntry (.text (a ++ k.text ++ b))] = .ok s ∧ s.key = .ok (some k) := by
  refine ⟨fun v complaints => ?_, fun v es s h => isKeyedBy_of_checkKey (checkKey_of_check h),
    fun k a b ha hb => ?_⟩
  · rw [check_keyEntry_eq, checkKey_text]
    by_cases hv : v.AllBlank
    · simp [hv]
    · cases Key.parse v <;> simp [hv, eq_comm]
  · have hparse := k.parse_text ha hb
    have hnonblank : ¬(a ++ k.text ++ b).AllBlank := fun h => by
      rw [Key.parse_of_allBlank h] at hparse
      cases hparse
    refine ⟨{ keyText := some (a ++ k.text ++ b).strip }, ?_,
      key_of_keyText hnonblank hparse rfl⟩
    rw [check_keyEntry_eq, checkKey_text, if_neg hnonblank, hparse]

/-- A key with blanks around it, one of them beyond ASCII, and a bit in its last letter that does
not count. -/
def looseText : Text := "\u00A0AAAAAAAAAAAAAAAAAAAAAAAAAAAAAAAAAAAAAAAAAAB=\r\n".toList

/-- The settings with that key and without a vault. -/
def looseSettings : Settings := ⟨some looseText.strip, { enabled := false }⟩

theorem length_zeroKey : (List.replicate 32 (0 : UInt8)).length = 32 := rfl

/-- The key of zeros, which it is. -/
def zeroKey : Key := ⟨List.replicate 32 0, length_zeroKey⟩

theorem check_keyEntry_loose :
    check [keyEntry (.text looseText),
        (.text "vault".toList, .map [(.text "enabled".toList, .scalar (.bool false))])] =
      .ok looseSettings ∧
    looseSettings.IsKeyedBy looseText ∧ Key.parse looseText = .ok zeroKey ∧
    Text.AllBlank "\u00A0".toList ∧ Text.AllBlank "\r\n".toList ∧
    ∃ s, check [keyEntry (.text ("\u00A0".toList ++ zeroKey.text ++ "\r\n".toList))] = .ok s ∧
      s.key = .ok (some zeroKey) := by
  have hcheck : check [keyEntry (.text looseText),
      (.text "vault".toList, .map [(.text "enabled".toList, .scalar (.bool false))])] =
      .ok looseSettings := by rfl
  have hfront : Text.AllBlank "\u00A0".toList := by decide
  have hback : Text.AllBlank "\r\n".toList := by decide
  exact ⟨hcheck, check_keyEntry.2.1 _ _ _ hcheck, by rfl, hfront, hback,
    check_keyEntry.2.2 zeroKey _ _ hfront hback⟩

end Settings

end InlineSecrets
