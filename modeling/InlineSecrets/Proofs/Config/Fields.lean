/-
**The fields of the settings, and what the variables say about them.**

A field of the settings stands at a path of the configuration data, and there is a variable for it.
A variable that is empty says nothing about its field, and neither does the one that switches the
vault off, unless it does so.

Main definitions:

* `InlineSecrets.Config.Field` — the fields;
* `InlineSecrets.Config.Field.path`, `InlineSecrets.Config.Field.source` — where a field stands,
  and the variable for it;
* `InlineSecrets.Config.Field.read` — what the value of that variable says about it.

Main results:

* `InlineSecrets.Config.ofVariables_cases` — only the number of a layout can be unclear;
* `InlineSecrets.Config.at?_of_ofVariables` — **what the variables say about a field;**
* `InlineSecrets.Config.all_isTextKey_merge` — merging brings no other keys in.
-/

import InlineSecrets.Config.Sources
import InlineSecrets.Proofs.Config.Merging

set_option relaxedAutoImplicit false
set_option autoImplicit false

namespace InlineSecrets

namespace Entries

variable {α : Type}

/-- What is at a key of the entries of two lists. -/
theorem get?_append (es fs : Entries α) (k : Scalar) :
    get? (es ++ fs) k = (get? es k).or (get? fs k) := by
  induction es with
  | nil => rfl
  | cons e r ih =>
      simp only [List.cons_append, get?, ih]
      split <;> rfl

/-- What is at a key of an entry that there may be. -/
theorem get?_optional {β : Type} (o : Option β) (l k : Scalar) (v : β → α) :
    get? (o.toList.flatMap fun b => [(l, v b)]) k = if l.isSameKey k then o.map v else none := by
  cases o with
  | none => simp [get?]
  | some b => simp [get?]

end Entries

namespace Config

variable {vars : Assoc Text Text} {es : Entries Setting}

/-! ### Fields -/

/-- The fields of the settings. -/
inductive Field where
  | keyText
  | enabled
  | url
  | token
  | space
  | layout
  deriving DecidableEq, Repr

namespace Field

/-- The names that lead to a field. -/
def names : Field → List String
  | keyText => ["aes_key"]
  | enabled => ["vault", "enabled"]
  | url => ["vault", "url"]
  | token => ["vault", "token"]
  | space => ["vault", "namespace"]
  | layout => ["vault", "kv_version"]

/-- Where a field stands in configuration data. -/
def path (fd : Field) : List Scalar := fd.names.map fun name => .text name.toList

/-- The variable for a field. -/
def source : Field → String
  | keyText => "AES_KEY"
  | enabled => "SECRETSPLICE_VAULT_DISABLED"
  | url => "VAULT_ADDR"
  | token => "VAULT_TOKEN"
  | space => "VAULT_NAMESPACE"
  | layout => versionVariable

/-- What the value of the variable says about a field.  The vault can only be switched off. -/
def read : Field → Text → Option Setting
  | enabled, t =>
      if switches.contains (String.ofList (Text.lowerAscii t)) then some (.scalar (.bool false))
      else none
  | layout, t => (Text.readInt? t).map fun i => .scalar (.int i)
  | keyText, t | url, t | token, t | space, t => some (.text t)

/-- What the variables say about a field. -/
def said (vars : Assoc Text Text) (fd : Field) : Option Setting :=
  (nonEmpty? vars fd.source).bind fd.read

end Field

/-! ### What the variables say -/

/-- The entry for a variable that is not empty. -/
def entryOf (vars : Assoc Text Text) (name source : String) : Entries Setting :=
  (nonEmpty? vars source).toList.flatMap fun t => [(.text name.toList, .text t)]

/-- Whether the vault is switched off. -/
def isDisabled (vars : Assoc Text Text) : Bool :=
  (Assoc.get? vars "SECRETSPLICE_VAULT_DISABLED".toList).any fun t =>
    switches.contains (String.ofList (Text.lowerAscii t))

/-- What the variables say about the vault, with what they say about the layout. -/
def vaultWith (vars : Assoc Text Text) (version : Entries Setting) : Entries Setting :=
  entryOf vars "url" "VAULT_ADDR" ++ entryOf vars "token" "VAULT_TOKEN" ++
    entryOf vars "namespace" "VAULT_NAMESPACE" ++ version ++
    if isDisabled vars then [(.text "enabled".toList, .scalar (.bool false))] else []

/-- What the variables say, with what they say about the layout. -/
def entriesWith (vars : Assoc Text Text) (version : Entries Setting) : Entries Setting :=
  [(.text "vault".toList, .map (vaultWith vars version))] ++ entryOf vars "aes_key" "AES_KEY"

theorem ofVariables_of_none (h : nonEmpty? vars versionVariable = none) :
    ofVariables vars = .ok (entriesWith vars []) := by
  unfold ofVariables
  rw [h]
  rfl

theorem ofVariables_of_some {t : Text} (h : nonEmpty? vars versionVariable = some t) :
    ofVariables vars =
      match Text.readInt? t with
      | some i => .ok (entriesWith vars [(.text "kv_version".toList, .scalar (.int i))])
      | none => .error (.unclearVersion t) := by
  unfold ofVariables
  rw [h]
  cases hi : Text.readInt? t with
  | none =>
      simp only [hi]
      rfl
  | some i =>
      simp only [hi]
      rfl

/-- The entry for the layout that the variables ask for. -/
def versionEntry (vars : Assoc Text Text) : Entries Setting :=
  (Field.layout.said vars).toList.flatMap fun v => [(.text "kv_version".toList, v)]

/-- **Only the number of a layout can be unclear.** -/
theorem ofVariables_cases (vars : Assoc Text Text) :
    ofVariables vars = .ok (entriesWith vars (versionEntry vars)) ∨
      ∃ t, nonEmpty? vars versionVariable = some t ∧ Text.readInt? t = none ∧
        ofVariables vars = .error (.unclearVersion t) := by
  cases h : nonEmpty? vars versionVariable with
  | none =>
      left
      rw [ofVariables_of_none h, versionEntry, Field.said, Field.source, h]
      rfl
  | some t =>
      rw [ofVariables_of_some h]
      cases hi : Text.readInt? t with
      | none => exact .inr ⟨t, rfl, hi, rfl⟩
      | some i =>
          left
          simp only [versionEntry, Field.said, Field.source, h, Option.bind_some, Field.read, hi]
          rfl

/-- Texts are the same key when they are the same. -/
theorem isSameKey_name (a b : String) :
    (Scalar.text a.toList).isSameKey (.text b.toList) = decide (a = b) := by
  rw [Bool.eq_iff_iff, Scalar.isSameKey_text, decide_eq_true_iff, Scalar.text.injEq,
    String.toList_inj]

theorem get?_entryOf (name source k : String) :
    Entries.get? (entryOf vars name source) (.text k.toList) =
      if name = k then (nonEmpty? vars source).bind fun t => some (.text t) else none := by
  simp only [entryOf, Entries.get?_optional, isSameKey_name, decide_eq_true_eq, Option.map_eq_bind]
  rfl

theorem get?_versionEntry (k : String) :
    Entries.get? (versionEntry vars) (.text k.toList) =
      if "kv_version" = k then Field.layout.said vars else none := by
  simp only [versionEntry, Entries.get?_optional, isSameKey_name, decide_eq_true_eq, Option.map_id']

/-- What switches the vault off is not empty. -/
theorem said_enabled (vars : Assoc Text Text) : Field.enabled.said vars =
    if isDisabled vars then some (.scalar (.bool false)) else none := by
  unfold Field.said isDisabled nonEmpty?
  change _ = if (Assoc.get? vars Field.enabled.source.toList).any _ then _ else _
  cases Assoc.get? vars Field.enabled.source.toList with
  | none => rfl
  | some t =>
      cases t with
      | nil => rfl
      | cons c t => rfl

theorem get?_disabled (k : String) :
    Entries.get? (if isDisabled vars then [(.text "enabled".toList, .scalar (.bool false))] else [])
      (.text k.toList) = if "enabled" = k then Field.enabled.said vars else none := by
  rw [said_enabled]
  cases isDisabled vars with
  | false => simp [Entries.get?]
  | true => simp only [if_true, Entries.get?, isSameKey_name, decide_eq_true_eq]

/-- What the variables say about the vault, by name. -/
theorem get?_vaultWith (k : String) :
    Entries.get? (vaultWith vars (versionEntry vars)) (.text k.toList) =
      ((((if "url" = k then Field.url.said vars else none).or
        (if "token" = k then Field.token.said vars else none)).or
        (if "namespace" = k then Field.space.said vars else none)).or
        (if "kv_version" = k then Field.layout.said vars else none)).or
        (if "enabled" = k then Field.enabled.said vars else none) := by
  simp only [vaultWith, Entries.get?_append, get?_entryOf, get?_versionEntry, get?_disabled]
  rfl

/-- What stands at a name. -/
theorem at?_name (k : String) :
    (Setting.map es).at? [.text k.toList] = Entries.get? es (.text k.toList) := by
  rw [Setting.at?, Setting.value?_map]
  cases Entries.get? es (.text k.toList) <;> rfl

/-- What stands at a name of the vault. -/
theorem at?_vault {version : Entries Setting} (k : String) :
    (Setting.map (entriesWith vars version)).at? [.text "vault".toList, .text k.toList] =
      Entries.get? (vaultWith vars version) (.text k.toList) := by
  have hvault : Entries.get? (entriesWith vars version) (.text "vault".toList) =
      some (.map (vaultWith vars version)) := rfl
  rw [Setting.at?, Setting.value?_map, hvault, Option.bind_some, at?_name]

/-- **What the variables say about a field.** -/
theorem at?_of_ofVariables (h : ofVariables vars = .ok es) (fd : Field) :
    (Setting.map es).at? fd.path = fd.said vars := by
  rcases ofVariables_cases vars with h' | ⟨t, -, -, h'⟩
  · cases h.symm.trans h'
    cases fd with
    | keyText =>
        refine (at?_name "aes_key").trans ?_
        rw [entriesWith, Entries.get?_append, get?_entryOf]
        rfl
    | enabled | layout | url | token | space =>
        refine (at?_vault _).trans ?_
        rw [get?_vaultWith]
        simp
  · cases h.symm.trans h'

/-- The variables say something about the vault. -/
theorem exists_vault_of_ofVariables (h : ofVariables vars = .ok es) :
    ∃ vs, Entries.get? es (.text "vault".toList) = some (.map vs) := by
  rcases ofVariables_cases vars with h' | ⟨t, -, -, h'⟩
  · cases h.symm.trans h'
    exact ⟨vaultWith vars (versionEntry vars), rfl⟩
  · cases h.symm.trans h'

/-- The keys of what the variables say are texts. -/
theorem isTextKey_of_ofVariables (h : ofVariables vars = .ok es) :
    ∀ e ∈ es, isTextKey e.1 = true := by
  rcases ofVariables_cases vars with h' | ⟨t, -, -, h'⟩
  · cases h.symm.trans h'
    intro e he
    rcases List.mem_append.1 he with he | he
    · rw [List.mem_singleton.1 he]
      rfl
    · obtain ⟨t, -, ht⟩ := List.mem_flatMap.1 he
      rw [List.mem_singleton.1 ht]
      rfl
  · cases h.symm.trans h'

/-! ### Keys -/

/-- No number is a text. -/
theorem isTextKey_eq (a : Scalar) : isTextKey a = a.asKey.elim (fun _ => false) isTextKey := by
  unfold Scalar.asKey
  cases h : a.number? with
  | none => rfl
  | some x => cases a <;> first | rfl | cases h

/-- Of two equal keys, both are texts or none is. -/
theorem isTextKey_congr {a b : Scalar} (h : a.isSameKey b = true) : isTextKey a = isTextKey b := by
  rw [isTextKey_eq a, isTextKey_eq b, Scalar.isSameKey_iff.1 h]

theorem all_isTextKey_put (es : Entries Setting) (x : Scalar) (v : Setting) :
    ((es.put x v).all fun e => isTextKey e.1) =
      ((es.all fun e => isTextKey e.1) && isTextKey x) := by
  induction es with
  | nil => simp [Entries.put]
  | cons e r ih =>
      obtain ⟨k, w⟩ := e
      rw [Entries.put]
      split
      · next hk =>
          rw [List.all_cons, List.all_cons, ← isTextKey_congr hk, Bool.and_right_comm,
            Bool.and_self]
      · rw [List.all_cons, List.all_cons, ih, Bool.and_assoc]

/-- **Merging brings no other keys in.** -/
theorem all_isTextKey_merge (base es : Entries Setting) :
    ((Setting.merge base es).all fun e => isTextKey e.1) =
      ((base.all fun e => isTextKey e.1) && es.all fun e => isTextKey e.1) := by
  induction es generalizing base with
  | nil => rw [Setting.merge, List.all_nil, Bool.and_true]
  | cons e r ih =>
      obtain ⟨k, v⟩ := e
      rw [Setting.merge, ih, all_isTextKey_put, List.all_cons, Bool.and_assoc]

end Config

end InlineSecrets
