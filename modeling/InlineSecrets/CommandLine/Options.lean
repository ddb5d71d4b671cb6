/-
**Options and arguments.**

The words of a command line are options, with their values, and arguments.  A long option begins
with two dashes and may have its value behind an equals sign; several options of one letter may
stand behind one dash, and the last of them may have its value there as well.  All other values are
the next word, whatever it is.  Two dashes alone end the options.

Main definitions:

* `InlineSecrets.CommandLine.Rules` — the options that a command knows;
* `InlineSecrets.CommandLine.UsageFault` — the ways in which a command line is misused;
* `InlineSecrets.CommandLine.Rules.parse` — the options and the arguments in a list of words.
-/

import InlineSecrets.Text.Basic

set_option relaxedAutoImplicit false
set_option autoImplicit false

namespace InlineSecrets

namespace CommandLine

/-- An option: the key that stands for it, its names, and whether it has a value. -/
structure OptionRule (κ : Type) where
  key : κ
  names : List String
  takesValue : Bool := false

/-- What a command knows: its options, whether they may stand behind arguments, and whether an
option that it does not know is an argument. -/
structure Rules (κ : Type) where
  options : List (OptionRule κ)
  optionsAnywhere : Bool := true
  passesUnknown : Bool := false

/-- The ways in which a command line is misused. -/
inductive UsageFault where
  | unknownOption (name : Text)
  | missingValue
  | unexpectedValue (name : Text)
  | missingCommand
  | unknownCommand (name : Text)
  | missingArgument
  | extraArgument (word : Text)
  | notNumber (word : Text)
  deriving DecidableEq, Repr

/-- The wording of a fault. -/
def UsageFault.message : UsageFault → String
  | unknownOption name => "No such option: " ++ String.ofList name
  | missingValue => "An option requires a value"
  | unexpectedValue name => "Option " ++ String.ofList name ++ " does not take a value"
  | missingCommand => "Missing command"
  | unknownCommand name => "No such command: " ++ String.ofList name
  | missingArgument => "Missing argument"
  | extraArgument word => "Got unexpected extra argument: " ++ String.ofList word
  | notNumber word => "Not a valid number: " ++ String.ofList word

/-- The options with their values, and the arguments, in order; an option without a value has an
empty one. -/
structure Parsed (κ : Type) where
  options : List (κ × Text) := []
  arguments : List Text := []

namespace Parsed

variable {κ : Type} [DecidableEq κ]

/-- The last value of an option. -/
def value? (p : Parsed κ) (key : κ) : Option Text :=
  (p.options.filter fun o => o.1 = key).getLast?.map Prod.snd

/-- Whether an option is given. -/
def has (p : Parsed κ) (key : κ) : Bool := (p.value? key).isSome

end Parsed

namespace Rules

variable {κ : Type} (rules : Rules κ)

/-- The option of a name. -/
def find? (name : Text) : Option (OptionRule κ) :=
  rules.options.find? fun o => o.names.contains (String.ofList name)

/-- What one word says: options with their values, one more whose value is the next word, and what
is no option that is known. -/
structure Reading (κ : Type) where
  options : List (κ × Text) := []
  pending : Option κ := none
  unknown : Text := []

/-- The options of one letter in a word. -/
def readLetters : Text → Except UsageFault (Reading κ)
  | [] => .ok {}
  | c :: r =>
      match rules.find? ['-', c] with
      | none =>
          if rules.passesUnknown then
            (fun k => { k with unknown := c :: k.unknown }) <$> readLetters r
          else .error (.unknownOption ['-', c])
      | some o =>
          if !o.takesValue then
            (fun k => { k with options := (o.key, []) :: k.options }) <$> readLetters r
          else if r.isEmpty then .ok { pending := some o.key }
          else .ok { options := [(o.key, r)] }

/-- The long option in a word. -/
def readLong (word : Text) : Except UsageFault (Reading κ) :=
  let (name, value) : Text × Option Text :=
    match word.cut? '=' with
    | some (name, value) => (name, some value)
    | none => (word, none)
  match rules.find? name, value with
  | none, _ => if rules.passesUnknown then .ok { unknown := word } else .error (.unknownOption name)
  | some o, some value =>
      if o.takesValue then .ok { options := [(o.key, value)] } else .error (.unexpectedValue name)
  | some o, none =>
      if o.takesValue then .ok { pending := some o.key } else .ok { options := [(o.key, [])] }

/-- What a word says that begins with a dash and is not a dash alone. -/
def readWord (word : Text) : Except UsageFault (Reading κ) :=
  match word with
  | '-' :: '-' :: _ => rules.readLong word
  | _ :: letters =>
      (fun k => { k with unknown := if k.unknown.isEmpty then [] else '-' :: k.unknown }) <$>
        rules.readLetters letters
  | [] => .ok {}

/-- Whether a word stands for options. -/
def isOptionWord (word : Text) : Bool := word.head? == some '-' && word.length != 1

/-- Adds the words to what has been parsed; `pending` is the option whose value comes next. -/
def parseFrom (parsed : Parsed κ) : (pending : Option κ) → List Text → Except UsageFault (Parsed κ)
  | none, [] => .ok parsed
  | some _, [] => .error .missingValue
  | some key, w :: ws =>
      parseFrom { parsed with options := parsed.options ++ [(key, w)] } none ws
  | none, w :: ws =>
      if w = ['-', '-'] then .ok { parsed with arguments := parsed.arguments ++ ws }
      else if isOptionWord w then
        match rules.readWord w with
        | .error f => .error f
        | .ok k =>
            parseFrom
              { options := parsed.options ++ k.options
                arguments :=
                  parsed.arguments ++ if k.unknown.isEmpty then [] else [k.unknown] }
              k.pending ws
      else if rules.optionsAnywhere then
        parseFrom { parsed with arguments := parsed.arguments ++ [w] } none ws
      else .ok { parsed with arguments := parsed.arguments ++ w :: ws }

/-- **The options and the arguments in a list of words.** -/
def parse (words : List Text) : Except UsageFault (Parsed κ) := rules.parseFrom {} none words

end Rules

end CommandLine

end InlineSecrets
