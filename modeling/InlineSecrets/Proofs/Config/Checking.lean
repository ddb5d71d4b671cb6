/-
**Settings are checked field by field.**

Whether the data for a field are accepted, and what the setting is then, depends on what stands at
the path of that field alone.  So the settings can be described field by field: each is what the
data for its field are checked to be, or the default, if there are none; and the complaints are
those about the fields whose data are not accepted, in the order of the fields.

Main definitions:

* `InlineSecrets.Settings.AreTakenFrom` — settings each of which is taken from some data;
* `InlineSecrets.Settings.complaints` — what there is to object to the data;
* `InlineSecrets.Settings.taken` — what is read of the data.

Main results:

* `InlineSecrets.Settings.check_eq` — **settings are checked field by field;**
* `InlineSecrets.Settings.areTakenFrom_iff` — when the settings are those that are read.
-/

import InlineSecrets.Proofs.Config.Fields

set_option relaxedAutoImplicit false
set_option autoImplicit false

namespace InlineSecrets

namespace Settings

open Config (Field)

variable {α : Type}

/-- Whether a value is the one that is taken from some data: what they are checked to be, or the
default, if there are none. -/
def Takes (check : Setting → Except Objection α) (default : α) (v : Option Setting) (a : α) :
    Prop :=
  match v with
  | some v => check v = .ok a
  | none => a = default

/-- **Settings each of which is taken from the data for its field.** -/
structure AreTakenFrom (choose : Field → Option Setting) (s : Settings) : Prop where
  keyText : Takes checkKey none (choose .keyText) s.keyText
  enabled : Takes checkBool true (choose .enabled) s.vault.enabled
  url : Takes checkText none (choose .url) s.vault.url
  token : Takes checkText none (choose .token) s.vault.token
  space : Takes checkText none (choose .space) s.vault.space
  layout : Takes checkLayout none (choose .layout) s.vault.layout

/-- Why something is not accepted. -/
def objection? (x : Except Objection α) : Option Objection :=
  match x with
  | .ok _ => none
  | .error o => some o

/-- Why data for a field are not accepted. -/
def objectionTo : Field → Setting → Option Objection
  | .keyText, v => objection? (checkKey v)
  | .enabled, v => objection? (checkBool v)
  | .url, v | .token, v | .space, v => objection? (checkText v)
  | .layout, v => objection? (checkLayout v)

/-- The complaints about the data for the fields, in the order of these. -/
def complaints (choose : Field → Option Setting) : List Complaint :=
  [Field.keyText, .enabled, .url, .token, .space, .layout].flatMap fun fd =>
    (((choose fd).bind (objectionTo fd)).map fun o => ⟨fd.names, o⟩).toList

/-- The value of a field at a path, and the complaint if it is not accepted. -/
def reading (names : List String) (default : α) (check : Setting → Except Objection α)
    (v : Option Setting) : α × List Complaint :=
  match v with
  | none => (default, [])
  | some v =>
      match check v with
      | .ok a => (a, [])
      | .error o => (default, [⟨names, o⟩])

variable {names : List String} {default : α} {check : Setting → Except Objection α}
variable {v : Option Setting}

theorem reading_complaints : (reading names default check v).2 =
    ((v.bind fun v => objection? (check v)).map fun o => ⟨names, o⟩).toList := by
  cases v with
  | none => rfl
  | some v =>
      rw [reading, Option.bind_some]
      cases check v <;> rfl

theorem takes_iff {a : α} : Takes check default v a ↔
    (reading names default check v).2 = [] ∧ a = (reading names default check v).1 := by
  cases v with
  | none => simp [Takes, reading]
  | some v =>
      simp only [Takes, reading]
      cases check v with
      | ok b => simp [eq_comm]
      | error o => simp

/-- A field of a mapping, by its name. -/
theorem field_eq (es : Entries Setting) (name : String) (default : α)
    (check : Setting → Except Objection α) : field es name default check =
      reading [name] default check ((Setting.map es).at? [.text name.toList]) := by
  rw [field, Config.at?_name, Entries.get?_text]
  rfl

/-- A field of the vault, with the complaint about it there. -/
theorem field_vault {es vs : Entries Setting}
    (hvault : Entries.get? es (.text "vault".toList) = some (.map vs)) (name : String) (default : α)
    (check : Setting → Except Objection α) :
    (field vs name default check).1 = (reading ["vault", name] default check
      ((Setting.map es).at? [.text "vault".toList, .text name.toList])).1 ∧
    ((field vs name default check).2.map fun c => { c with field := "vault" :: c.field }) =
      (reading ["vault", name] default check
        ((Setting.map es).at? [.text "vault".toList, .text name.toList])).2 := by
  have hpath : (Setting.map es).at? [.text "vault".toList, .text name.toList] =
      (Setting.map vs).at? [.text name.toList] := by
    rw [Setting.at?, Setting.value?_map, hvault, Option.bind_some]
  rw [field_eq, hpath]
  cases (Setting.map vs).at? [.text name.toList] with
  | none => exact ⟨rfl, rfl⟩
  | some v =>
      simp only [reading]
      cases check v <;> exact ⟨rfl, rfl⟩

/-- The settings that are taken from the data for the fields, with defaults for what is not
accepted. -/
def taken (choose : Field → Option Setting) : Settings where
  keyText := (reading Field.keyText.names none checkKey (choose .keyText)).1
  vault :=
    { enabled := (reading Field.enabled.names true checkBool (choose .enabled)).1
      url := (reading Field.url.names none checkText (choose .url)).1
      token := (reading Field.token.names none checkText (choose .token)).1
      space := (reading Field.space.names none checkText (choose .space)).1
      layout := (reading Field.layout.names none checkLayout (choose .layout)).1 }

/-- The complaints are those about the fields, one after the other. -/
theorem complaints_eq (choose : Field → Option Setting) : complaints choose =
    (reading Field.keyText.names none checkKey (choose .keyText)).2 ++
      ((reading Field.enabled.names true checkBool (choose .enabled)).2 ++
        (reading Field.url.names none checkText (choose .url)).2 ++
        (reading Field.token.names none checkText (choose .token)).2 ++
        (reading Field.space.names none checkText (choose .space)).2 ++
        (reading Field.layout.names none checkLayout (choose .layout)).2) := by
  simp only [complaints, reading_complaints, List.flatMap_cons, List.flatMap_nil,
    List.append_assoc, List.append_nil]
  rfl

/-- **Settings are checked field by field.** -/
theorem check_eq {es vs : Entries Setting}
    (hvault : Entries.get? es (.text "vault".toList) = some (.map vs)) :
    Settings.check es =
      let choose := fun fd : Field => (Setting.map es).at? fd.path
      if (complaints choose).isEmpty then .ok (taken choose) else .error (complaints choose) := by
  have hget := (Entries.get?_text es _).symm.trans hvault
  have hkey := field_eq es "aes_key" none checkKey
  obtain ⟨henabled, hc₁⟩ := field_vault hvault "enabled" true checkBool
  obtain ⟨hurl, hc₂⟩ := field_vault hvault "url" none checkText
  obtain ⟨htoken, hc₃⟩ := field_vault hvault "token" none checkText
  obtain ⟨hspace, hc₄⟩ := field_vault hvault "namespace" none checkText
  obtain ⟨hlayout, hc₅⟩ := field_vault hvault "kv_version" none checkLayout
  simp only [Settings.check, hget, checkVault, List.map_append, hc₁, hc₂, hc₃, hc₄, hc₅, henabled,
    hurl, htoken, hspace, hlayout, hkey, complaints_eq, taken]
  rfl

/-- Settings are taken from some data when these are accepted, and they are what is read. -/
theorem areTakenFrom_iff {choose : Field → Option Setting} {s : Settings} :
    s.AreTakenFrom choose ↔ complaints choose = [] ∧ s = taken choose := by
  constructor
  · rintro ⟨h₀, h₁, h₂, h₃, h₄, h₅⟩
    obtain ⟨hc₀, hkey⟩ := takes_iff.1 h₀
    obtain ⟨hc₁, henabled⟩ := takes_iff.1 h₁
    obtain ⟨hc₂, hurl⟩ := takes_iff.1 h₂
    obtain ⟨hc₃, htoken⟩ := takes_iff.1 h₃
    obtain ⟨hc₄, hspace⟩ := takes_iff.1 h₄
    obtain ⟨hc₅, hlayout⟩ := takes_iff.1 h₅
    refine ⟨?_, ?_⟩
    · rw [complaints_eq, hc₀, hc₁, hc₂, hc₃, hc₄, hc₅]
      rfl
    · obtain ⟨keyText, enabled, url, token, space, layout⟩ := s
      simp only [taken, ← hkey, ← henabled, ← hurl, ← htoken, ← hspace, ← hlayout]
  · rintro ⟨hnone, rfl⟩
    simp only [complaints_eq, List.append_eq_nil_iff] at hnone
    obtain ⟨h₀, ⟨⟨⟨h₁, h₂⟩, h₃⟩, h₄⟩, h₅⟩ := hnone
    exact ⟨takes_iff.2 ⟨h₀, rfl⟩, takes_iff.2 ⟨h₁, rfl⟩, takes_iff.2 ⟨h₂, rfl⟩,
      takes_iff.2 ⟨h₃, rfl⟩, takes_iff.2 ⟨h₄, rfl⟩, takes_iff.2 ⟨h₅, rfl⟩⟩

end Settings

end InlineSecrets
