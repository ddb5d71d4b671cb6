/-
**The forms of plain scalars.**

A plain scalar is a null, a boolean, a number, a date or a text by its form (YAML 1.1).  Numbers may
have underscores between their digits; besides decimal ones there are whole numbers to the bases 2,
8 and 16, and numbers to the base 60 with colons between their digits.

Main definitions:

* `InlineSecrets.Yaml.isInt`, `InlineSecrets.Yaml.isFloat`, `InlineSecrets.Yaml.isDate` — the forms;
* `InlineSecrets.Yaml.Moment` — dates, perhaps with a time of day;
* `InlineSecrets.Yaml.intOf`, `InlineSecrets.Yaml.floatOf`, `InlineSecrets.Yaml.checkDate` — the
  values.  They are also asked for where a tag says so, and then the text may have any form.
-/

import InlineSecrets.Number.Arithmetic
import InlineSecrets.Number.Reading
import InlineSecrets.Text.Quoted
import InlineSecrets.Yaml.Token

set_option relaxedAutoImplicit false
set_option autoImplicit false

namespace InlineSecrets

namespace Yaml

/-! ### Forms -/

/-- Whether a character is an ASCII digit. -/
def isDigit (c : Char) : Bool := '0' ≤ c && c ≤ '9'

/-- The text behind a sign, if there is one. -/
def unsigned : Text → Text
  | '-' :: r => r
  | '+' :: r => r
  | t => t

/-- Whether all characters are digits below `base` or underscores, and there is at least one. -/
def isDigits (base : Nat) (t : Text) : Bool :=
  !t.isEmpty && t.all fun c => c == '_' || (Text.hexValue? c).any (· < base)

/-- Whether a text has one or two digits that write a number below 60. -/
def isSixtieth : Text → Bool
  | [a] => isDigit a
  | [a, b] => '0' ≤ a && a ≤ '5' && isDigit b
  | _ => false

/-- Whether a text is a decimal number without sign that begins with a digit for which `first`
holds. -/
def isDecimal (first : Char → Bool) : Text → Bool
  | [] => false
  | c :: r => first c && (r.all fun d => isDigit d || d == '_')

/-- Whether a text is a whole number to the base 60 with at least two digits. -/
def isSexagesimal (first : Char → Bool) (t : Text) : Bool :=
  match Text.split ':' t with
  | head :: second :: more => isDecimal first head && (second :: more).all isSixtieth
  | _ => false

/-- Whether a text has the form of a whole number. -/
def isInt (t : Text) : Bool :=
  let t := unsigned t
  let nonzero := fun c => isDigit c && c != '0'
  match t with
  | ['0'] => true
  | '0' :: 'b' :: r => isDigits 2 r
  | '0' :: 'x' :: r => isDigits 16 r
  | '0' :: r => isDigits 8 r
  | t => isDecimal nonzero t || isSexagesimal nonzero t

/-- Whether a text is empty or an exponent with a sign. -/
def isExponent : Text → Bool
  | [] => true
  | e :: s :: d :: r => (e == 'e' || e == 'E') && (s == '+' || s == '-') && (d :: r).all isDigit
  | _ => false

/-- Whether a text has digits and underscores, and then an optional exponent. -/
def isFraction (t : Text) : Bool := isExponent (t.dropWhile fun c => isDigit c || c == '_')

/-- Whether a text has the form of a number with a point. -/
def isFloat (t : Text) : Bool :=
  let names := [".inf", ".Inf", ".INF"].map String.toList
  let nans := [".nan", ".NaN", ".NAN"].map String.toList
  let u := unsigned t
  let pointed := match Text.cut? '.' u with
    | some (whole, part) =>
        (isDecimal isDigit whole && isFraction part) ||
          (isSexagesimal isDigit whole && part.all fun c => isDigit c || c == '_')
    | none => false
  let bare := match t with
    | '.' :: d :: r => isDigit d && isFraction r
    | _ => false
  pointed || bare || names.contains u || nans.contains t

/-! ### Dates -/

/-- An offset from universal time: its sign, and its hours and minutes. -/
structure Offset where
  negative : Bool
  hours : Nat
  minutes : Nat
  deriving DecidableEq, Repr

/-- A time of day, with its offset if one is given as a number. -/
structure TimeOfDay where
  hour : Nat
  minute : Nat
  second : Nat
  offset : Option Offset
  deriving DecidableEq, Repr

/-- A date, perhaps with a time of day, by its numbers, which may name no day or time that there is;
`padded` says whether month and day have two digits each. -/
structure Moment where
  year : Nat
  month : Nat
  day : Nat
  padded : Bool
  time : Option TimeOfDay
  deriving DecidableEq, Repr

/-- The number that one or two digits at the front of a text write, whether there are two, and the
rest. -/
def shortNumber? : Text → Option (Nat × Bool × Text)
  | a :: b :: r =>
      if !isDigit a then none
      else if isDigit b then some (Text.ofAsciiDigits [a, b], true, r)
      else some (Text.asciiDigit a, false, b :: r)
  | [a] => if isDigit a then some (Text.asciiDigit a, false, []) else none
  | [] => none

/-- The number that exactly two digits at the front of a text write, and the rest. -/
def twoDigits? : Text → Option (Nat × Text)
  | a :: b :: r => if isDigit a && isDigit b then some (Text.ofAsciiDigits [a, b], r) else none
  | _ => none

/-- Whether a character is a space or a tab. -/
def isGap (c : Char) : Bool := c == ' ' || c == '\t'

/-- The end of a text. -/
def atEnd? : Text → Option Unit
  | [] => some ()
  | _ => none

/-- The offset that a text consists of: nothing, `Z`, or hours and perhaps minutes behind a sign. -/
def offset? (t : Text) : Option (Option Offset) :=
  match t.dropWhile isGap with
  | [] => if t.isEmpty then some none else none
  | ['Z'] => some none
  | s :: r => do
      guard (s == '+' || s == '-')
      let (hours, _, r) ← shortNumber? r
      match r with
      | [] => return some ⟨s == '-', hours, 0⟩
      | c :: r =>
          guard (c == ':')
          let (minutes, r) ← twoDigits? r
          atEnd? r
          return some ⟨s == '-', hours, minutes⟩

/-- The time of day that a text consists of: hours, minutes, seconds, perhaps a fraction, and an
offset. -/
def timeOfDay? (t : Text) : Option TimeOfDay := do
  let (hour, _, r) ← shortNumber? t
  let (minute, r) ← twoDigits? (← Text.after? [':'] r)
  let (second, r) ← twoDigits? (← Text.after? [':'] r)
  let offset ← offset? (match r with
    | '.' :: r => r.dropWhile isDigit
    | r => r)
  return ⟨hour, minute, second, offset⟩

/-- The date that a text consists of, with or without a time of day. -/
def Moment.ofText? (t : Text) : Option Moment := do
  let (century, r) ← twoDigits? t
  let (year, r) ← twoDigits? r
  let (month, wideMonth, r) ← shortNumber? (← Text.after? ['-'] r)
  let (day, wideDay, r) ← shortNumber? (← Text.after? ['-'] r)
  let date := fun time => Moment.mk (century * 100 + year) month day (wideMonth && wideDay) time
  match r with
  | [] => return date none
  | c :: r =>
      if c = 'T' ∨ c = 't' then return date (← timeOfDay? r)
      else
        guard (isGap c)
        return date (← timeOfDay? (r.dropWhile isGap))

/-- Whether a text has the form of a date; without a time of day, month and day have two digits. -/
def isDate (t : Text) : Bool :=
  match Moment.ofText? t with
  | some m => m.padded || m.time.isSome
  | none => false

/-- The number of days of a month. -/
def daysIn (year month : Nat) : Nat :=
  if month = 2 then (if year % 4 = 0 ∧ (year % 100 ≠ 0 ∨ year % 400 = 0) then 29 else 28)
  else if month = 4 ∨ month = 6 ∨ month = 9 ∨ month = 11 then 30 else 31

/-- The offset as whole days and the seconds of a day. -/
def Offset.split (o : Offset) : Int × Int :=
  let seconds : Int := (o.hours * 3600 + o.minutes * 60 : Nat)
  let seconds := if o.negative then -seconds else seconds
  (seconds / 86400, seconds % 86400)

/-- The wording of an offset of a day or more. -/
def Offset.describe (o : Offset) : String :=
  let (days, seconds) := o.split
  let part := fun (name : String) (n : Int) => if n = 0 then [] else [name ++ "=" ++ toString n]
  "datetime.timedelta(" ++ ", ".intercalate (part "days" days ++ part "seconds" seconds) ++ ")"

/-- Makes sure that an offset is less than a day. -/
def Offset.check (o : Offset) : Except Misfit Unit :=
  if 24 * 60 ≤ o.hours * 60 + o.minutes then
    .error (.impossible ("offset must be a timedelta strictly between -timedelta(hours=24) and " ++
      "timedelta(hours=24), not " ++ o.describe ++ "."))
  else .ok ()

/-- Makes sure that there is such a moment. -/
def Moment.check (m : Moment) : Except Misfit Unit := do
  let require := fun (ok : Bool) (message : String) =>
    if ok then Except.ok () else Except.error (Misfit.impossible message)
  if let some o := m.time.bind (·.offset) then o.check
  require (m.year != 0) "year 0 is out of range"
  require (1 ≤ m.month && m.month ≤ 12) "month must be in 1..12"
  require (1 ≤ m.day && m.day ≤ daysIn m.year m.month) "day is out of range for month"
  if let some t := m.time then
    require (t.hour ≤ 23) "hour must be in 0..23"
    require (t.minute ≤ 59) "minute must be in 0..59"
    require (t.second ≤ 59) "second must be in 0..59"

/-! ### Values -/

/-- The text without one line feed at its end. -/
def chomp (t : Text) : Text := if t.getLast? = some '\n' then t.dropLast else t

/-- Makes sure that there is the date that a text denotes. -/
def checkDate (t : Text) : Except Misfit Unit :=
  match Moment.ofText? (chomp t) with
  | some m => m.check
  | none => .error .formless

/-- A text without underscores and without its sign, and whether that is a minus; something must be
left. -/
def signed (t : Text) : Except Misfit (Bool × Text) :=
  match t.filter (· != '_') with
  | [] => .error .empty
  | '-' :: r => .ok (true, r)
  | '+' :: r => .ok (false, r)
  | t => .ok (false, t)

/-- The longest text in quotes that a message about a whole number shows. -/
def shownLength : Nat := 200

/-- The whole number that a text writes to a base. -/
def wholeNumber (base : Nat) (t : Text) : Except Misfit Int :=
  (Text.readInteger base t).mapError fun
    | .illegible => .impossible ("invalid literal for int() with base " ++ toString base ++ ": " ++
        String.ofList ((Text.quoted t).toList.take shownLength))
    | .tooLong n => .impossible ("Exceeds the limit (" ++ toString Text.digitLimit ++
        " digits) for integer string conversion: value has " ++ toString n ++
        " digits; use sys.set_int_max_str_digits() to increase the limit")

/-- The whole number that a text denotes. -/
def intOf (t : Text) : Except Misfit Int := do
  let (negative, r) ← signed t
  let n ← match r with
    | [] => throw .empty
    | ['0'] => pure 0
    | '0' :: 'b' :: ds => wholeNumber 2 ds
    | '0' :: 'x' :: ds => wholeNumber 16 ds
    | '0' :: _ => wholeNumber 8 r
    | _ => do
        let parts ← (Text.split ':' r).mapM (wholeNumber 10)
        pure (parts.foldl (fun n d => n * 60 + d) 0)
  return if negative then -n else n

/-- The double that a text writes, in the digits of any script. -/
def doubleOf (t : Text) : Except Misfit Double :=
  match Text.readDecimal? (Text.stripSpaces (t.map Text.asciiNumeral)) with
  | some x => .ok x
  | none => .error (.impossible ("could not convert string to float: " ++ Text.quoted t))

/-- The sum of digits to the base 60, the last one leading, from the power `n` of 60 on. -/
def sexagesimal : Nat → Double → List Double → Except Misfit Double
  | _, sum, [] => .ok sum
  | n, sum, d :: ds =>
      match Double.ofInt? (Nat.pow 60 n) with
      | some power => sexagesimal (n + 1) (sum.add (d.mul power)) ds
      | none => .error .tooLarge

/-- The number with a point that a text denotes. -/
def floatOf (t : Text) : Except Misfit Double := do
  let (negative, r) ← signed (Text.lowerLatin t)
  if r = ".nan".toList then return .nan
  let x ← if r = ".inf".toList then pure (.infinity false)
    else if r.contains ':' then do
      let digits ← (Text.split ':' r).mapM doubleOf
      sexagesimal 0 (.zero false) digits.reverse
    else doubleOf r
  return if negative then x.neg else x

end Yaml

end InlineSecrets
