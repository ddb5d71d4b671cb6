/-
**The notation of patterns.**

A pattern is written with `|` between alternatives, `*`, `+`, `?` and counts in braces behind a part
for repetitions (reluctant with a further `?`), groups in parentheses, sets in brackets, `.` for any
character of a line, `^` and `$` for the ends of the text, and a backslash for classes and for
characters that are otherwise signs.  A set behind `(?<=` or `(?<!`, up to a parenthesis, asks that
such a character stands in front, or that none does.  A text that is no pattern has no reading.

Main definitions:

* `InlineSecrets.Pattern.parse?` — the pattern that a text denotes, and how many groups it has.
-/

import InlineSecrets.Pattern.Basic

set_option relaxedAutoImplicit false
set_option autoImplicit false

namespace InlineSecrets

namespace Pattern

/-! ### Characters and sets -/

/-- What a backslash and the character behind it stand for. -/
inductive Escape where
  | char (c : Char)
  | kind (k : Kind) (negated : Bool)
  | edge (e : Edge)

/-- The number that the first `n` characters write in hexadecimal, and the rest. -/
def hexNumber? : Nat → Nat → Text → Option (Nat × Text)
  | 0, v, t => some (v, t)
  | _ + 1, _, [] => none
  | n + 1, v, c :: r => (Text.hexValue? c).bind fun d => hexNumber? n (v * 16 + d) r

/-- The number of at most `n` octal digits, and the rest. -/
def octalNumber : Nat → Nat → Text → Nat × Text
  | 0, v, t => (v, t)
  | _ + 1, v, [] => (v, [])
  | n + 1, v, c :: r =>
      if '0' ≤ c ∧ c ≤ '7' then octalNumber n (v * 8 + (c.toNat - 48)) r else (v, c :: r)

/-- What the text behind a backslash stands for, and the rest. -/
def escape? : Text → Option (Escape × Text)
  | [] => none
  | 'w' :: r => some (.kind .word false, r)
  | 'W' :: r => some (.kind .word true, r)
  | 'd' :: r => some (.kind .digit false, r)
  | 'D' :: r => some (.kind .digit true, r)
  | 's' :: r => some (.kind .blank false, r)
  | 'S' :: r => some (.kind .blank true, r)
  | 'b' :: r => some (.edge (.wordEdge false), r)
  | 'B' :: r => some (.edge (.wordEdge true), r)
  | 'A' :: r => some (.edge .textStart, r)
  | 'Z' :: r => some (.edge .textEnd, r)
  | 'n' :: r => some (.char '\n', r)
  | 't' :: r => some (.char '\t', r)
  | 'r' :: r => some (.char '\r', r)
  | 'f' :: r => some (.char '\x0C', r)
  | 'v' :: r => some (.char '\x0B', r)
  | 'a' :: r => some (.char '\x07', r)
  | 'x' :: r => (hexNumber? 2 0 r).map fun (n, r) => (.char (Char.ofNat n), r)
  | 'u' :: r => (hexNumber? 4 0 r).map fun (n, r) => (.char (Char.ofNat n), r)
  | 'U' :: r => (hexNumber? 8 0 r).map fun (n, r) => (.char (Char.ofNat n), r)
  | '0' :: r => let (n, r) := octalNumber 2 0 r; some (.char (Char.ofNat n), r)
  | c :: r => if c.isAlphanum then none else some (.char c, r)

/-- The first member of a set, and the rest; a class is no end of a range. -/
def member? : Text → Option ((Char ⊕ Member) × Text)
  | [] => none
  | '\\' :: 'b' :: r => some (.inl '\x08', r)
  | '\\' :: r =>
      match escape? r with
      | some (.char c, r) => some (.inl c, r)
      | some (.kind k n, r) => some (.inr (.kind k n), r)
      | _ => none
  | c :: r => some (.inl c, r)

/-- The members of a set up to its closing bracket, and the rest; `fuel` bounds their number.  A
closing bracket at the very front is a member. -/
def members? : Nat → Bool → Text → Option (List Member × Text)
  | 0, _, _ => none
  | fuel + 1, front, t =>
      match t with
      | [] => none
      | c :: r =>
          if c = ']' ∧ !front then some ([], r)
          else do
            let (lo, r) ← member? (c :: r)
            match lo, r with
            | .inl lo, '-' :: d :: r' =>
                if d = ']' then
                  return ([.range lo lo, .range '-' '-'], r')
                else
                  let (hi, r) ← member? (d :: r')
                  match hi with
                  | .inr _ => none
                  | .inl hi =>
                      if hi < lo then none
                      else
                        let (ms, r) ← members? fuel false r
                        return (.range lo hi :: ms, r)
            | .inl lo, r => let (ms, r) ← members? fuel false r; return (.range lo lo :: ms, r)
            | .inr m, r => let (ms, r) ← members? fuel false r; return (m :: ms, r)

/-- A set behind its opening bracket, and the rest. -/
def charSet? (t : Text) : Option (CharSet × Text) :=
  match t with
  | '^' :: r => (members? (r.length + 1) true r).map fun (ms, r) => (⟨ms, true⟩, r)
  | r => (members? (r.length + 1) true r).map fun (ms, r) => (⟨ms, false⟩, r)

/-! ### Repetitions -/

/-- The number at the front of a text, if there is one, and the rest. -/
def number (t : Text) : Option Nat × Text :=
  let ds := t.takeWhile fun c => '0' ≤ c ∧ c ≤ '9'
  (if ds.isEmpty then none else some (ds.foldl (fun n c => n * 10 + (c.toNat - 48)) 0),
    t.dropWhile fun c => '0' ≤ c ∧ c ≤ '9')

/-- The bounds behind an opening brace, and the rest; none when the brace stands for itself. -/
def bounds? (t : Text) : Option ((Nat × Option Nat) × Text) :=
  match number t with
  | (lo, ',' :: r) =>
      match number r with
      | (hi, '\x7D' :: r) => some ((lo.getD 0, hi), r)
      | _ => none
  | (some n, '\x7D' :: r) => some ((n, some n), r)
  | _ => none

/-- How often the part in front of a text is repeated, and the rest. -/
def repetition? : Text → Option ((Nat × Option Nat) × Text)
  | '*' :: r => some ((0, none), r)
  | '+' :: r => some ((1, none), r)
  | '?' :: r => some ((0, some 1), r)
  | '\x7B' :: r => bounds? r
  | _ => none

/-! ### Patterns -/

/-- What is being read: a part, or the parts behind those already read. -/
inductive Goal where
  | alternatives
  | sequence
  | part

/-- Whether a part is a place in the text or at a word, which cannot be repeated. -/
def Node.isAnchor : Node → Bool
  | .edge (.behind _ _) => false
  | .edge _ => true
  | _ => false

/-- Reads a pattern, a sequence or a part, with the number of groups in it and the rest; `fuel`
bounds the number of steps. -/
def read? : Nat → Goal → Text → Option (Node × Nat × Text)
  | 0, _, _ => none
  | fuel + 1, .alternatives, t => do
      let (a, n, r) ← read? fuel .sequence t
      match r with
      | '|' :: r =>
          let (b, m, r) ← read? fuel .alternatives r
          return (.alt a b, n + m, r)
      | r => return (a, n, r)
  | fuel + 1, .sequence, t =>
      match t with
      | [] => some (.empty, 0, [])
      | c :: _ =>
          if c = '|' ∨ c = ')' then some (.empty, 0, t)
          else do
            let (a, n, r) ← read? fuel .part t
            let (a, r) ← match repetition? r with
              | none => some (a, r)
              | some ((lo, hi), r) =>
                  let (greedy, r) := match r with
                    | '?' :: r => (false, r)
                    | r => (true, r)
                  if a.isAnchor ∨ hi.any (· < lo) ∨ (repetition? r).isSome then none
                  else some (Node.rounds greedy lo hi a, r)
            let (b, m, r) ← read? fuel .sequence r
            return (.seq a b, n + m, r)
  | fuel + 1, .part, t =>
      let grouped := fun (notes : Bool) (r : Text) => do
        let (a, n, r) ← read? fuel .alternatives r
        match r with
        | ')' :: r => some (if notes then Node.group a else a, n + notes.toNat, r)
        | _ => none
      let looksBack := fun (negated : Bool) (r : Text) =>
        match read? fuel .part r with
        | some (.one s, _, ')' :: r) => some (Node.edge (.behind s negated), 0, r)
        | _ => none
      match t with
      | [] => none
      | '(' :: '?' :: ':' :: r => grouped false r
      | '(' :: '?' :: '<' :: '=' :: r => looksBack false r
      | '(' :: '?' :: '<' :: '!' :: r => looksBack true r
      | '(' :: '?' :: 'P' :: '<' :: r =>
          let name := r.takeWhile (· != '>')
          match r.dropWhile (· != '>') with
          | _ :: r => if name.isEmpty then none else grouped true r
          | [] => none
      | '(' :: '?' :: _ => none
      | '(' :: r => grouped true r
      | '[' :: r => (charSet? r).map fun (s, r) => (.one s, 0, r)
      | '.' :: r => some (.one ⟨[.range '\n' '\n'], true⟩, 0, r)
      | '^' :: r => some (.edge .textStart, 0, r)
      | '$' :: r => some (.edge .lastLineEnd, 0, r)
      | '\\' :: r =>
          (escape? r).map fun (e, r) =>
            match e with
            | .char c => (.one (.single c), 0, r)
            | .kind k n => (.one ⟨[.kind k n], false⟩, 0, r)
            | .edge e => (.edge e, 0, r)
      | c :: r =>
          if (repetition? (c :: r)).isSome then none else some (.one (.single c), 0, r)

/-- **The pattern that a text denotes,** and how many groups it has. -/
def parse? (t : Text) : Option (Node × Nat) :=
  match read? (3 * t.length + 3) .alternatives t with
  | some (a, n, []) => some (a, n)
  | _ => none

end Pattern

end InlineSecrets
