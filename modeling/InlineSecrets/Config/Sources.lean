/-
**The sources of a configuration.**

Settings come from the variables of the environment, from a file of variables under it, and from a
configuration file, which is merged over both.  A variable of the environment hides the one of the
file of variables, also when it is empty; and an empty variable says nothing.

Main definitions:

* `InlineSecrets.Config.Failure` — the ways in which a configuration fails;
* `InlineSecrets.Config.readVariables` — the variables;
* `InlineSecrets.Config.ofVariables` — what the variables say;
* `InlineSecrets.Config.ofFile` — what a configuration file says;
* `InlineSecrets.Config.load` — the settings from all sources.
-/

import InlineSecrets.Config.Settings
import InlineSecrets.Dotenv
import InlineSecrets.Files
import InlineSecrets.Utf8
import InlineSecrets.Yaml.Document

set_option relaxedAutoImplicit false
set_option autoImplicit false

namespace InlineSecrets

namespace Config

/-- The ways in which a configuration fails. -/
inductive Failure where
  /-- There is no file of variables of this name. -/
  | noVariables (name : Text)
  /-- The name of a file is one that no file can have. -/
  | unusableName (name : Text) (fault : Files.Fault)
  | unclearVersion (value : Text)
  | unreadable (name : Text) (fault : Files.Fault)
  | unparsable (name : Text)
  /-- The configuration file is no mapping. -/
  | notMapping (name : Text)
  | rejected (source : Text) (complaints : List Complaint)
  /-- A setting has a key that is not a text. -/
  | nonTextKey
  | notText (fault : Utf8.Fault)
  /-- A scalar in the configuration file does not fit its tag. -/
  | misfit (misfit : Yaml.Misfit)
  /-- Collections in the configuration file are nested too deep. -/
  | tooDeep
  /-- A collection in the configuration file is in itself. -/
  | endless
  deriving DecidableEq, Repr

/-- The variable for the layout of new secrets. -/
def versionVariable : String := "SECRETSPLICE_VAULT_KV_VERSION"

/-- The wording of a failure; complaints are not part of it. -/
def Failure.message : Failure → String
  | noVariables name => "dotenv file not found: " ++ String.ofList name
  | unusableName name f => f.message name
  | unclearVersion value => versionVariable ++ " must be 1 or 2, got " ++ Text.quoted value
  | unreadable name f =>
      "failed to load config file " ++ String.ofList name ++ ": " ++ f.message name
  | unparsable name => "failed to load config file " ++ String.ofList name
  | notMapping name => "config file " ++ String.ofList name ++ " must contain a mapping"
  | rejected source _ => "invalid configuration from " ++ String.ofList source
  | nonTextKey => "keywords must be strings"
  | notText f => f.message
  | misfit (.impossible message) => message
  | misfit .empty => "string index out of range"
  | misfit .unknownWord => "no such word"
  | misfit .formless => "no such date"
  | misfit .collection => "expected string or bytes-like object"
  | misfit .tooLarge => "int too large to convert to float"
  | tooDeep | endless => "maximum recursion depth exceeded"

/-! ### Variables -/

/-- The text of a file. -/
def readText (files : Files) (name : Text) : Except Failure (Except Files.Fault Text) :=
  match files.read name with
  | .error f => .ok (.error f)
  | .ok b =>
      match Utf8.decode b with
      | .error f => .error (.notText f)
      | .ok t => .ok (.ok t.unifyBreaks)

/-- The variables: those of `given`, and under them those of a file.  References in the file are to
the variables of `surrounding`. -/
def readVariables (files : Files) (file : Option Text) (surrounding given : Assoc Text Text) :
    Except Failure (Assoc Text Text) :=
  match file.map Files.tidy with
  | none => .ok (Assoc.ofEntries given)
  | some name => do
      match ← readText files name with
      | .ok t => return Assoc.update (Dotenv.load surrounding t) given
      | .error .isDirectory => return Assoc.ofEntries given
      | .error .tooLong => throw (.unusableName name .tooLong)
      | .error _ => throw (.noVariables name)

/-- The value of a variable that is set and not empty. -/
def nonEmpty? (vars : Assoc Text Text) (name : String) : Option Text :=
  (Assoc.get? vars name.toList).filter (!·.isEmpty)

/-- The words by which the vault is switched off, in lower case. -/
def switches : List String := ["1", "true", "yes", "on"]

/-- **What the variables say,** as configuration data. -/
def ofVariables (vars : Assoc Text Text) : Except Failure (Assoc Scalar Setting) := do
  let entry := fun (name : String) (v : Setting) => [(Scalar.text name.toList, v)]
  let optional := fun (name source : String) =>
    (nonEmpty? vars source).toList.flatMap fun t => entry name (.text t)
  let version ← match nonEmpty? vars versionVariable with
    | none => pure []
    | some t =>
        match Text.readInt? t with
        | some i => pure (entry "kv_version" (.scalar (.int i)))
        | none => throw (.unclearVersion t)
  let disabled := (Assoc.get? vars "SECRETSPLICE_VAULT_DISABLED".toList).any fun t =>
    switches.contains (String.ofList (Text.lowerAscii t))
  let vault := optional "url" "VAULT_ADDR" ++ optional "token" "VAULT_TOKEN" ++
    optional "namespace" "VAULT_NAMESPACE" ++ version ++
    if disabled then entry "enabled" (.scalar (.bool false)) else []
  return entry "vault" (.map vault) ++ optional "aes_key" "AES_KEY"

/-! ### Files -/

/-- The document in a configuration file. -/
def document (files : Files) (name : Text) : Except Failure Yaml.Document := do
  match ← readText files name with
  | .error .zeroByte => throw (.unusableName name .zeroByte)
  | .error f => throw (.unreadable name f)
  | .ok t =>
      (Yaml.Document.ofText t).mapError fun
        | .malformed => .unparsable name
        | .misfit m => .misfit m
        | .tooDeep => .tooDeep

/-- The entries of the data of a configuration file, which are a mapping or nothing. -/
def entriesOf (name : Text) : Setting → Except Failure (Assoc Scalar Setting)
  | .scalar .null => .ok []
  | .map es => .ok es
  | _ => .error (.notMapping name)

/-- The depth down to which data can matter: settings, those of the vault, and their values. -/
def settingsDepth : Nat := 3

/-- What a configuration file says, as far as it can matter.  An empty file says nothing. -/
def outlineOfFile (files : Files) (name : Text) : Except Failure (Assoc Scalar Setting) := do
  let name := Files.tidy name
  entriesOf name ((← document files name).outline settingsDepth)

/-- **What a configuration file says.** -/
def ofFile (files : Files) (name : Text) : Except Failure (Assoc Scalar Setting) := do
  let name := Files.tidy name
  let d ← document files name
  let _ ← entriesOf name (d.outline 0)
  match d.toSetting? with
  | some v => entriesOf name v
  | none => throw .endless

/-! ### Settings -/

/-- Whether a key is a text. -/
def isTextKey : Scalar → Bool
  | .text _ | .torn _ => true
  | _ => false

/-- Settings from the entries of a mapping, which come from `source`. -/
def build (es : Assoc Scalar Setting) (source : Text) : Except Failure Settings :=
  if es.all fun e => isTextKey e.1 then (Settings.check es).mapError (.rejected source)
  else .error .nonTextKey

/-- What the settings that come from no file come from. -/
def environmentSource : Text := "environment".toList

/-- **The settings from all sources.** -/
def load (files : Files) (file variablesFile : Option Text) (surrounding given : Assoc Text Text) :
    Except Failure Settings := do
  let base ← ofVariables (← readVariables files variablesFile surrounding given)
  match file with
  | none => build base environmentSource
  | some name => build (Setting.merge base (← outlineOfFile files name)) (Files.tidy name)

end Config

end InlineSecrets
