/-
**Checked settings.**

Settings are made from configuration data by checking every field.  A field that is missing has its
default, fields that are not known do not matter, and all complaints are collected in the order of
the fields.

Main definitions:

* `InlineSecrets.VaultSettings`, `InlineSecrets.Settings` — the settings of a tool;
* `InlineSecrets.Complaint` — a field whose value is not accepted, and why;
* `InlineSecrets.Settings.check` — settings from configuration data;
* `InlineSecrets.Settings.key` — the key that the settings hold.
-/

import InlineSecrets.Config.Setting
import InlineSecrets.Key
import InlineSecrets.Utf8
import InlineSecrets.Vault.Server

set_option relaxedAutoImplicit false
set_option autoImplicit false

namespace InlineSecrets

/-- Where the vault is, and how new secrets are laid out in it. -/
structure VaultSettings where
  enabled : Bool := true
  url : Option Text := none
  token : Option Text := none
  space : Option Text := none
  layout : Option Vault.Layout := none
  deriving DecidableEq, Repr

/-- The settings of a tool: the text of its key, and its vault. -/
structure Settings where
  keyText : Option Text := none
  vault : VaultSettings := {}
  deriving DecidableEq, Repr

/-- Why the value of a field is not accepted. -/
inductive Objection where
  | notText
  /-- A text that is not all characters, or bytes that are no text. -/
  | notUnicode
  | notKey (fault : Key.Fault)
  | notMapping
  | notBool
  /-- A text or a number that stands for no boolean. -/
  | unclearBool
  | notVersion
  /-- A whole number of more than 64 bits. -/
  | hugeVersion
  | notNumber
  /-- A text that writes no number. -/
  | unclearNumber
  | negative
  | notChoice
  deriving DecidableEq, Repr

/-- A field, by the names that lead to it, and why its value is not accepted. -/
structure Complaint where
  field : List String
  objection : Objection
  deriving DecidableEq, Repr

namespace Settings

/-! ### Fields -/

/-- The value of an optional text. -/
def checkText : Setting → Except Objection (Option Text)
  | .scalar .null => .ok none
  | .scalar (.text t) => .ok (some t)
  | .scalar (.torn _) => .error .notUnicode
  | .scalar (.bytes b) =>
      match Utf8.decode b with
      | .ok t => .ok (some t)
      | .error _ => .error .notUnicode
  | _ => .error .notText

/-- The text of a key without the blanks around it; a blank text is no key, and any other one has to
be one. -/
def checkKey (v : Setting) : Except Objection (Option Text) := do
  match ← checkText v with
  | none => return none
  | some t =>
      if t.strip.isEmpty then return none
      else match Key.parse t with
        | .ok _ => return some t.strip
        | .error f => throw (.notKey f)

/-- The words for booleans, in lower case. -/
def boolWords : List (String × Bool) :=
  [ ("0", false), ("off", false), ("f", false), ("false", false), ("n", false), ("no", false),
    ("1", true), ("on", true), ("t", true), ("true", true), ("y", true), ("yes", true) ]

/-- The boolean that a word stands for. -/
def boolOf (t : Text) : Except Objection Bool :=
  match boolWords.lookup (String.ofList (Text.lowerAscii t)) with
  | some b => .ok b
  | none => .error .unclearBool

/-- The least number that is too large for a word of 64 bits with a sign. -/
def wordBound : Int := 9223372036854775808

/-- The value of a boolean. -/
def checkBool : Setting → Except Objection Bool
  | .scalar (.bool b) => .ok b
  | .scalar (.int i) =>
      if i = 0 then .ok false
      else if i = 1 then .ok true
      else if i < -wordBound ∨ wordBound ≤ i then .error .notBool
      else .error .unclearBool
  | .scalar (.float x) =>
      if x.equalsInt 0 then .ok false
      else if x.equalsInt 1 then .ok true
      else match x.toRat? with
        | some r =>
            .error (if r.den = 1 ∧ r.num.natAbs < wordBound then .unclearBool else .notBool)
        | none => .error .notBool
  | .scalar (.text t) => boolOf t
  | .scalar (.torn _) => .error .notUnicode
  | .scalar (.bytes b) =>
      match Utf8.decode b with
      | .ok t => boolOf t
      | .error _ => .error .unclearBool
  | _ => .error .notBool

/-- The layout with a number. -/
def layoutOf (i : Int) : Except Objection (Option Vault.Layout) :=
  if i = 1 then .ok (some .plain)
  else if i = 2 then .ok (some .versioned)
  else if i < -wordBound ∨ wordBound ≤ i then .error .hugeVersion
  else .error .notVersion

/-- The layout of new secrets. -/
def checkLayout : Setting → Except Objection (Option Vault.Layout)
  | .scalar .null => .ok none
  | .scalar (.int i) => layoutOf i
  | .scalar (.bool true) => .ok (some .plain)
  | .scalar (.float x) =>
      if x.equalsInt 1 then .ok (some .plain)
      else if x.equalsInt 2 then .ok (some .versioned)
      else .error .notVersion
  | _ => .error .notVersion

/-- The value of a field, or its default, and the complaint if it is not accepted. -/
def field {α : Type} (es : Assoc Scalar Setting) (name : String) (default : α)
    (check : Setting → Except Objection α) : α × List Complaint :=
  match Assoc.get? es (.text name.toList) with
  | none => (default, [])
  | some v =>
      match check v with
      | .ok a => (a, [])
      | .error o => (default, [⟨[name], o⟩])

/-- The settings of the vault, and the complaints about them. -/
def checkVault (es : Assoc Scalar Setting) : VaultSettings × List Complaint :=
  let (enabled, c₁) := field es "enabled" true checkBool
  let (url, c₂) := field es "url" none checkText
  let (token, c₃) := field es "token" none checkText
  let (space, c₄) := field es "namespace" none checkText
  let (layout, c₅) := field es "kv_version" none checkLayout
  (⟨enabled, url, token, space, layout⟩, c₁ ++ c₂ ++ c₃ ++ c₄ ++ c₅)

/-- **Settings from the entries of a mapping.** -/
def check (es : Assoc Scalar Setting) : Except (List Complaint) Settings :=
  let (keyText, c₁) := field es "aes_key" none checkKey
  let (vault, c₂) : VaultSettings × List Complaint :=
    match Assoc.get? es (.text "vault".toList) with
    | none => ({}, [])
    | some (.map vs) =>
        let (vault, complaints) := checkVault vs
        (vault, complaints.map fun c => { c with field := "vault" :: c.field })
    | some _ => ({}, [⟨["vault"], .notMapping⟩])
  let complaints := c₁ ++ c₂
  if complaints.isEmpty then .ok ⟨keyText, vault⟩ else .error complaints

/-! ### The key -/

/-- The key that the settings hold. -/
def key (s : Settings) : Except Key.Fault (Option Key) :=
  match s.keyText with
  | none | some [] => .ok none
  | some t => some <$> Key.parse t

end Settings

end InlineSecrets
