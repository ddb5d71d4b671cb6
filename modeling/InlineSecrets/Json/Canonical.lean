/-
**Canonical JSON texts.**

A JSON text on one line, in ASCII and without blanks, with the entries of every mapping in the order
of their keys.  Two values that differ only in the order of entries have the same text.  How texts
are ordered and written is a parameter, so that the values may have halves of characters in them.

Main definitions:

* `InlineSecrets.Text.le` — the order of texts by code points;
* `InlineSecrets.Json.quote` — the JSON form of a text;
* `InlineSecrets.Json.canonical` — the canonical text of a value;
* `InlineSecrets.Json.plainText` — the text that stands for a secret: a text as it is, any other
  value in its canonical form;
* `InlineSecrets.Json.stringify` — the same for a value that may have halves of characters and
  integers of any length in it, of which the longest have no text.
-/

import InlineSecrets.Json.Basic
import InlineSecrets.Number.Layout
import InlineSecrets.Number.Reading
import InlineSecrets.Text.Codes
import InlineSecrets.Text.Quoted

set_option relaxedAutoImplicit false
set_option autoImplicit false

namespace InlineSecrets

/-! ### Order -/

/-- The order of texts by their code points. -/
def Text.le (s t : Text) : Bool := Codes.le (Codes.ofText s) (Codes.ofText t)

namespace Assoc

variable {κ κ' α β : Type}

/-- Inserts an entry in front of the first one whose key does not come before its own. -/
def insertSorted (le : κ → κ → Bool) (e : κ × α) : Assoc κ α → Assoc κ α
  | [] => [e]
  | d :: r => if le e.1 d.1 then e :: d :: r else d :: insertSorted le e r

/-- The entries in the order of their keys. -/
def sortedBy (le : κ → κ → Bool) (es : Assoc κ α) : Assoc κ α := es.foldr (insertSorted le) []

/-- The entries in the order of their keys, by code points. -/
def sorted (es : Assoc Text α) : Assoc Text α := sortedBy Text.le es

/-- Entries with other keys are sorted alike, if the keys are. -/
theorem sortedBy_map {le : κ → κ → Bool} {le' : κ' → κ' → Bool} {f : κ → κ'} (g : α → β)
    (hle : ∀ a b, le' (f a) (f b) = le a b) (es : Assoc κ α) :
    sortedBy le' (es.map fun e => (f e.1, g e.2)) =
      (sortedBy le es).map fun e => (f e.1, g e.2) := by
  have hinsert : ∀ (e : κ × α) (es : Assoc κ α),
      insertSorted le' (f e.1, g e.2) (es.map fun e => (f e.1, g e.2)) =
        (insertSorted le e es).map fun e => (f e.1, g e.2) := by
    intro e es
    induction es with
    | nil => rfl
    | cons d es ih =>
        rw [List.map_cons, insertSorted, insertSorted, hle, ih]
        split <;> rfl
  unfold sortedBy
  induction es with
  | nil => rfl
  | cons e es ih => rw [List.map_cons, List.foldr_cons, List.foldr_cons, ih, hinsert]

end Assoc

namespace Json

/-! ### Texts -/

/-- The escape of a unit of 16 bits. -/
def escapeUnit (n : Nat) : Text := '\\' :: 'u' :: Text.hexadecimal 4 n

/-- How a character is written in a JSON text; one beyond 16 bits is written as two units. -/
def escapeChar (c : Char) : Text :=
  if c = '"' ∨ c = '\\' then ['\\', c]
  else if c = '\n' then ['\\', 'n']
  else if c = '\r' then ['\\', 'r']
  else if c = '\t' then ['\\', 't']
  else if c = '\x0C' then ['\\', 'f']
  else if c = '\x08' then ['\\', 'b']
  else if ' ' ≤ c ∧ c ≤ '~' then [c]
  else if c.toNat < 0x10000 then escapeUnit c.toNat
  else
    let n := c.toNat - 0x10000
    escapeUnit (0xD800 + n / 0x400) ++ escapeUnit (0xDC00 + n % 0x400)

/-- The JSON form of a text. -/
def quote (t : Text) : Text := '"' :: t.flatMap escapeChar ++ ['"']

/-! ### Values -/

section

variable {τ τ' : Type} (le : τ → τ → Bool) (quote : τ → Text)

mutual

/-- The canonical text of a value whose texts are ordered and written as given. -/
def canonicalWith : Json τ → Text
  | null => "null".toList
  | bool b => if b then "true".toList else "false".toList
  | int i => Text.ofInt i
  | float x => Double.Layout.json.write x
  | text t => quote t
  | list items => '[' :: Text.join [','] (canonicalItems items) ++ [']']
  | map es =>
      '\x7B' :: Text.join [','] ((Assoc.sortedBy le (canonicalEntries es)).map fun e =>
        quote e.1 ++ ':' :: e.2) ++ ['\x7D']

/-- The canonical texts of some values. -/
def canonicalItems : List (Json τ) → List Text
  | [] => []
  | j :: r => canonicalWith j :: canonicalItems r

/-- The entries with the canonical texts of their values. -/
def canonicalEntries : List (τ × Json τ) → List (τ × Text)
  | [] => []
  | (k, j) :: r => (k, canonicalWith j) :: canonicalEntries r

end

theorem canonicalWith_list (items : List (Json τ)) :
    canonicalWith le quote (list items) =
      '[' :: Text.join [','] (items.map (canonicalWith le quote)) ++ [']'] := by
  have heq : ∀ items : List (Json τ),
      canonicalItems le quote items = items.map (canonicalWith le quote) := by
    intro items
    induction items with
    | nil => rfl
    | cons j items ih => rw [canonicalItems, ih, List.map_cons]
  rw [canonicalWith, heq]

/-- The canonical text of a mapping is written from its entries in the order of their keys. -/
theorem canonicalWith_map (es : Assoc τ (Json τ)) :
    canonicalWith le quote (map es) =
      '\x7B' :: Text.join [','] ((Assoc.sortedBy le es).map fun e =>
        quote e.1 ++ ':' :: canonicalWith le quote e.2) ++ ['\x7D'] := by
  have heq : ∀ es : Assoc τ (Json τ),
      canonicalEntries le quote es = es.map fun e => (id e.1, canonicalWith le quote e.2) := by
    intro es
    induction es with
    | nil => rfl
    | cons e es ih =>
        rw [canonicalEntries, ih, List.map_cons]
        rfl
  rw [canonicalWith, heq, Assoc.sortedBy_map _ fun _ _ => rfl, List.map_map]
  rfl

end

/-- **The canonical text of a value.** -/
def canonical : Json → Text := canonicalWith Text.le quote

/-- The text that stands for a secret: a text as it is, any other value in its canonical form. -/
def plainText : Json → Text
  | text t => t
  | j => canonical j

/-! ### Values with halves of characters -/

/-- How a number in a text is written; a half of a character is a unit of 16 bits. -/
def escapeCode (n : Nat) : Text :=
  if Codes.isHalf n then escapeUnit n else escapeChar (Char.ofNat n)

/-- The JSON form of a text that may have halves of characters in it. -/
def quoteCodes (t : Codes) : Text := '"' :: t.flatMap escapeCode ++ ['"']

mutual

/-- Whether all integers in a value may be written. -/
def fits {τ : Type} : Json τ → Bool
  | int i => i.natAbs < Nat.pow 10 Text.digitLimit
  | list items => fitsItems items
  | map es => fitsEntries es
  | _ => true

/-- Whether all integers in some values may be written. -/
def fitsItems {τ : Type} : List (Json τ) → Bool
  | [] => true
  | j :: r => fits j && fitsItems r

/-- Whether all integers in some entries may be written. -/
def fitsEntries {τ : Type} : List (τ × Json τ) → Bool
  | [] => true
  | (_, j) :: r => fits j && fitsEntries r

end

/-- Why a value has no text. -/
inductive Unwritable where
  | tooManyDigits
  deriving DecidableEq, Repr

/-- The wording for a value without a text. -/
def Unwritable.message : Unwritable → String
  | tooManyDigits =>
      "Exceeds the limit (" ++ toString Text.digitLimit ++ " digits) for integer string " ++
        "conversion; use sys.set_int_max_str_digits() to increase the limit"

/-- **The text that stands for a secret** which may have halves of characters and integers of any
length in it. -/
def stringify : Json Codes → Except Unwritable Codes
  | text t => .ok t
  | j =>
      if fits j then .ok (Codes.ofText (canonicalWith Codes.le quoteCodes j))
      else .error .tooManyDigits

end Json

end InlineSecrets
