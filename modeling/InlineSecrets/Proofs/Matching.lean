/-
**What the patterns of the shapes match.**

Every shape of token has a text in the notation of patterns, and a pattern is matched by trying.  A
repetition of a set of characters stops wherever what follows it matches: a greedy one tries the
place behind the whole run first and gives back one character after the other, a reluctant one takes
one character after the other.

What such a trial comes to is said here without it.  A run in front of a separator is the whole run,
since the separator is no part of it.  The last run of a reference is given back up to its last word
character, because that is the last edge of a word in it.  The payload of an enclosed token ends in
front of the first closing marker.  So the pattern of a shape matches what the shape finds, and a
locator finds the same tokens whichever way it is given.

Main definitions:

* `InlineSecrets.Pattern.Cursor.past` — the place behind a text;
* `InlineSecrets.Pattern.CharSet.stops` — the places at which a repetition of a set may stop;
* `InlineSecrets.Pattern.Node.Recognises` — patterns that match what a recogniser finds;
* `InlineSecrets.Shape.node`, `InlineSecrets.Shape.pattern` — the shapes as patterns.

Main results:

* `InlineSecrets.Pattern.run_rounds` — **repetitions try their stops in order;**
* `InlineSecrets.Enclosure.recognises_node`, `InlineSecrets.Reference.recognises_node` — enclosed
  tokens and references are what their patterns match;
* `InlineSecrets.Shape.spans_pattern` — **a shape finds what its pattern matches;**
* `InlineSecrets.Locator.locate_eq_of_patternText` — **what a locator finds depends only on the
  text of its pattern.**
-/

import InlineSecrets.Locator
import InlineSecrets.Proofs.Keeping

set_option relaxedAutoImplicit false
set_option autoImplicit false

namespace InlineSecrets

namespace Text

theorem exists_of_inRanges {n : Nat} {l : List (Nat × Nat)} (h : inRanges n l = true) :
    ∃ p ∈ l, ∃ k < p.2 + 1 - p.1, n = p.1 + k := by
  induction l with
  | nil => cases h
  | cons p l ih =>
      rcases Bool.or_eq_true _ _ ▸ h with hin | hrest
      · obtain ⟨hlo, hhi⟩ : p.1 ≤ n ∧ n ≤ p.2 := by simpa using hin
        exact ⟨p, List.mem_cons_self, n - p.1, by omega, by omega⟩
      · obtain ⟨q, hq, hk⟩ := ih hrest
        exact ⟨q, List.mem_cons_of_mem p hq, hk⟩

/-- A blank is no word character. -/
theorem isWord_eq_false_of_isBlank {c : Char} (h : isBlank c = true) : isWord c = false := by
  have hblanks : ∀ p ∈ blanks, ∀ k < p.2 + 1 - p.1, isWord (Char.ofNat (p.1 + k)) = false := by
    decide +kernel
  obtain ⟨p, hp, k, hk, hc⟩ := exists_of_inRanges h
  have hword := hblanks p hp k hk
  rwa [← hc, Char.ofNat_toNat] at hword

end Text

namespace Pattern

variable {c : Cursor} {s : CharSet} {x : Char} {r : Text} {K : Cursor → Option Cursor}

/-! ### Places -/

/-- The place behind the text `p`, in front of `r`. -/
def Cursor.past (c : Cursor) (p r : Text) : Cursor :=
  { c with pos := c.pos + p.length, before := p.getLast?.or c.before, rest := r }

@[simp] theorem Cursor.pos_past (c : Cursor) (p r : Text) : (c.past p r).pos = c.pos + p.length :=
  rfl

@[simp] theorem Cursor.rest_past (c : Cursor) (p r : Text) : (c.past p r).rest = r := rfl

@[simp] theorem Cursor.past_past (c : Cursor) (p q r u : Text) :
    (c.past p r).past q u = c.past (p ++ q) u := by
  simp [past, Nat.add_assoc, List.getLast?_append, Option.or_assoc]

/-- The same place, with the offsets `i` and `j` noted. -/
def Cursor.note (c : Cursor) (i j : Nat) : Cursor := { c with noted := some (i, j) }

@[simp] theorem Cursor.past_note (c : Cursor) (i j : Nat) (p r : Text) :
    (c.note i j).past p r = (c.past p r).note i j := rfl

/-- The place behind a token, with its payload noted. -/
def Cursor.pastToken (c : Cursor) (k : Token) : Cursor :=
  (c.past k.envelope (c.rest.drop k.envelope.length)).note (c.pos + k.opening.length)
    (c.pos + k.opening.length + k.payload.length)

/-! ### Characters one after the other -/

theorem holds_single {a b : Char} : (CharSet.single a).holds b = true ↔ a = b := by
  simp only [CharSet.holds, CharSet.single, Member.holds, List.any_cons, List.any_nil,
    Bool.or_false, Bool.bne_false, Bool.and_eq_true, decide_eq_true_eq]
  exact ⟨fun h => Char.le_antisymm h.1 h.2, fun h => h ▸ ⟨Char.le_refl _, Char.le_refl _⟩⟩

/-- The characters of a text, one after the other, and then a pattern. -/
def Node.literal : Text → Node → Node
  | [], a => a
  | c :: m, a => .seq (.one (.single c)) (literal m a)

/-- A character of the set is matched. -/
theorem run_one_of_holds (hrest : c.rest = x :: r) (hx : s.holds x = true) :
    (Node.one s).run c K = K (c.past [x] r) := by
  rw [Node.run, hrest]
  exact if_pos hx

/-- No other character is. -/
theorem run_one_of_not_holds (hrest : c.rest = x :: r) (hx : ¬s.holds x = true) :
    (Node.one s).run c K = none := by
  rw [Node.run, hrest]
  exact if_neg hx

theorem run_one_of_nil (hrest : c.rest = []) : (Node.one s).run c K = none := by
  rw [Node.run, hrest]

/-- Matching characters one after the other. -/
theorem run_literal (m : Text) (a : Node) :
    (Node.literal m a).run c K = (Text.after? m c.rest).bind fun r => a.run (c.past m r) K := by
  induction m generalizing c with
  | nil => rfl
  | cons x m ih =>
      rw [Node.literal, Node.run]
      rcases hrest : c.rest with _ | ⟨y, r⟩
      · exact run_one_of_nil hrest
      · by_cases hxy : x = y
        · rw [run_one_of_holds hrest (holds_single.2 hxy), ih, Text.after?, if_pos hxy]
          simp [hxy]
        · rw [run_one_of_not_holds hrest (mt holds_single.1 hxy), Text.after?, if_neg hxy,
            Option.bind_none]

/-- A pattern matches what a recogniser finds. -/
def Node.Recognises (root : Node) (find : Recogniser) : Prop :=
  ∀ c : Cursor, root.run c some = (find c.before c.rest).map c.pastToken

/-! ### Repetitions -/

/-- The places at which a repetition of a set may stop in front of the end of a text, from left to
right, when it starts at `c` in front of the text. -/
def CharSet.stops (s : CharSet) : Cursor → Text → List Cursor
  | _, [] => []
  | c, x :: r => if s.holds x then c.past [x] r :: s.stops (c.past [x] r) r else []

/-- The stops in the order in which they are tried: the last one first when greedy. -/
def CharSet.tries (s : CharSet) (greedy : Bool) (c : Cursor) : List Cursor :=
  if greedy then (s.stops c c.rest).reverse else s.stops c c.rest

/-- What a place and the stops behind it are tried for: the place itself comes last when greedy. -/
def CharSet.trying (s : CharSet) (greedy : Bool) (K : Cursor → Option Cursor) (c : Cursor) :
    Option Cursor :=
  if greedy then ((s.tries greedy c).findSome? K).or (K c)
  else (K c).or ((s.tries greedy c).findSome? K)

/-- A character of the set, and then the place behind it and the stops behind that, are the
stops. -/
theorem run_one_trying {greedy : Bool} {K' : Cursor → Option Cursor}
    (hK' : ∀ x r, c.rest = x :: r → K' (c.past [x] r) = s.trying greedy K (c.past [x] r)) :
    (Node.one s).run c K' = (s.tries greedy c).findSome? K := by
  rcases hrest : c.rest with _ | ⟨x, r⟩
  · rw [run_one_of_nil hrest, CharSet.tries, hrest]
    cases greedy <;> rfl
  · by_cases hx : s.holds x = true
    · rw [run_one_of_holds hrest hx, hK' x r hrest, CharSet.tries, hrest, CharSet.stops, if_pos hx]
      cases greedy with
      | false => cases hK : K (c.past [x] r) <;> simp [CharSet.trying, CharSet.tries, hK]
      | true => simp [CharSet.trying, CharSet.tries]
    · rw [run_one_of_not_holds hrest hx, CharSet.tries, hrest, CharSet.stops, if_neg hx]
      cases greedy <;> rfl

/-- Behind the first round, one more round is tried before going on, or after it if reluctant. -/
theorem rounds_succ {body : Matcher} {greedy : Bool} {fuel count : Nat} {last : Option Nat}
    (hcount : 0 < count) (hlast : last ≠ some c.pos) :
    body.rounds greedy 1 none (fuel + 1) count last c K =
      let round := body c fun d => body.rounds greedy 1 none fuel (count + 1) (some c.pos) d K
      if greedy then round.or (K c) else (K c).or round := by
  have hleast : ¬count < 1 := by omega
  cases greedy <;> simp [Matcher.rounds, hleast, hlast, Option.orElse_eq_or]

/-- The rounds behind the first one try the place and the stops behind it. -/
theorem rounds_eq_trying {greedy : Bool} {fuel count : Nat} {last : Option Nat}
    (hfuel : c.rest.length < fuel) (hcount : 0 < count) (hlast : ∀ p, last = some p → p < c.pos) :
    Matcher.rounds (fun c k => (Node.one s).run c k) greedy 1 none fuel count last c K =
      s.trying greedy K c := by
  induction fuel generalizing c count last with
  | zero => exact absurd hfuel (Nat.not_lt_zero _)
  | succ fuel ih =>
      rw [rounds_succ hcount fun h => Nat.lt_irrefl _ (hlast _ h), CharSet.trying,
        run_one_trying fun x r hrest => ?_]
      -- each round takes a character, so the fuel lasts and the place is a new one
      rw [hrest, List.length_cons] at hfuel
      exact ih (Nat.lt_of_succ_lt_succ hfuel) (Nat.succ_pos _) fun p hp => by
        cases hp
        exact Nat.lt_succ_self _

/-- **A repetition of at least one character tries its stops in order.** -/
theorem run_rounds {greedy : Bool} :
    (Node.rounds greedy 1 none (.one s)).run c K = (s.tries greedy c).findSome? K := by
  have hfirst : (Node.rounds greedy 1 none (.one s)).run c K = (Node.one s).run c fun d =>
      Matcher.rounds (fun c k => (Node.one s).run c k) greedy 1 none (1 + c.rest.length + 2) 1 none
        d K := rfl
  rw [hfirst, run_one_trying fun x r hrest => ?_]
  exact rounds_eq_trying (by simp [hrest]; omega) Nat.one_pos (by simp)

/-- **What cannot follow inside a run follows the whole run,** if there is one. -/
theorem findSome?_tries_of_maximal (hK : ∀ d x r, d.rest = x :: r → s.holds x = true → K d = none) :
    (s.tries true c).findSome? K =
      if c.rest.takeWhile s.holds = [] then none
      else K (c.past (c.rest.takeWhile s.holds) (c.rest.dropWhile s.holds)) := by
  rw [CharSet.tries, if_pos rfl]
  induction hrest : c.rest generalizing c with
  | nil => rfl
  | cons x r ih =>
      by_cases hx : s.holds x = true
      · have hrun := ih (c := c.past [x] r) rfl
        rw [CharSet.stops, if_pos hx, List.reverse_cons, List.findSome?_append, hrun,
          List.takeWhile_cons_of_pos hx, List.dropWhile_cons_of_pos hx,
          if_neg (List.cons_ne_nil _ _)]
        rcases r with _ | ⟨y, r⟩
        · simp
        · by_cases hy : s.holds y = true
          · -- the run goes on, so it does not stop here
            simp [List.takeWhile_cons_of_pos hy, List.dropWhile_cons_of_pos hy,
              hK (c.past [x] (y :: r)) y r rfl hy]
          · simp [List.takeWhile_cons_of_neg hy, List.dropWhile_cons_of_neg hy]
      · rw [CharSet.stops, if_neg hx, List.takeWhile_cons_of_neg hx]
        rfl

end Pattern

/-! ### Enclosed tokens -/

namespace Enclosure

open Pattern

/-- The characters that a payload may have. -/
def line : CharSet := ⟨[.range '\n' '\n'], true⟩

theorem holds_line {x : Char} : line.holds x = true ↔ x ≠ '\n' := by
  have hbreak : line.holds x = !(CharSet.single '\n').holds x := by
    simp [line, CharSet.single, CharSet.holds]
  rw [hbreak, Bool.not_eq_true', ← Bool.not_eq_true, holds_single, ne_comm, ne_eq]

/-- A payload and the closing marker behind it, as a pattern. -/
def closingNode (closer : Text) : Node :=
  .seq (.group (.seq (.rounds false 1 none (.one line)) .empty)) (.literal closer .empty)

/-- An enclosed token as a pattern. -/
def node (e : Enclosure) : Node :=
  let enclosed := Node.literal e.opener (closingNode e.closer)
  match e.barred with
  | none => enclosed
  | some b => .seq (.edge (.behind (.single b) true)) enclosed

variable {e : Enclosure} {c : Cursor} {K : Cursor → Option Cursor}

/-- **A reluctant repetition stops in front of the first closing marker.** -/
theorem findSome?_stops_line {closer : Text} (hcloser : closer ≠ [])
    (hK : ∀ d, (K d).isSome = (Text.after? closer d.rest).isSome) (x : Char) (r : Text) :
    (c.past [x] r :: line.stops (c.past [x] r) r).findSome? K =
      (Text.upTo? closer r).bind fun p => K (c.past (x :: p) (r.drop p.length)) := by
  have hfirst := hK (c.past [x] r)
  rw [Cursor.rest_past] at hfirst
  induction r generalizing c x with
  | nil =>
      rw [Text.after?_eq_none_iff.2 (mt List.prefix_nil.1 hcloser), Option.isSome_none,
        Option.isSome_eq_false_iff, Option.isNone_iff_eq_none] at hfirst
      simp [CharSet.stops, hfirst, Text.upTo?]
  | cons y r ih =>
      by_cases hcloses : (Text.after? closer (y :: r)).isSome = true
      · obtain ⟨d, hd⟩ := Option.isSome_iff_exists.1 (hfirst.trans hcloses)
        simp [Text.upTo?, hcloses, hd]
      · have hnone : K (c.past [x] (y :: r)) = none := by
          rw [← Option.not_isSome_iff_eq_none, hfirst]
          exact hcloses
        rw [List.findSome?_cons_of_isNone (by simp [hnone]), Text.upTo?, if_neg hcloses]
        by_cases hy : y = '\n'
        · rw [CharSet.stops, if_neg (mt holds_line.1 (not_not.2 hy)), if_pos hy]
          rfl
        · have hrun := ih (c := c.past [x] (y :: r)) y (by rw [hK, Cursor.rest_past])
          rw [CharSet.stops, if_pos (holds_line.2 hy), hrun, if_neg hy]
          cases Text.upTo? closer r <;> simp

/-- Behind the opening marker, the payload and the closing marker are matched. -/
theorem run_closing {closer : Text} (hcloser : closer ≠ []) {x : Char} {r : Text}
    (hrest : c.rest = x :: r) :
    (closingNode closer).run c some =
      if x = '\n' then none else (Text.upTo? closer r).map fun p =>
        (c.past (x :: p ++ closer) (r.drop (p ++ closer).length)).note c.pos
          (c.pos + (x :: p).length) := by
  let K : Cursor → Option Cursor := fun d =>
    (Node.literal closer .empty).run (d.note c.pos d.pos) some
  have hK : ∀ d, K d =
      (Text.after? closer d.rest).map fun u => (d.past closer u).note c.pos d.pos := fun d => by
    rw [Option.map_eq_bind]
    exact run_literal _ _
  have hrun : (closingNode closer).run c some = (line.tries false c).findSome? K := run_rounds
  rw [hrun, CharSet.tries, if_neg Bool.false_ne_true, hrest, CharSet.stops]
  by_cases hx : x = '\n'
  · rw [if_neg (mt holds_line.1 (not_not.2 hx)), if_pos hx]
    rfl
  · have hsome : ∀ d, (K d).isSome = (Text.after? closer d.rest).isSome := fun d => by
      rw [hK, Option.isSome_map]
    rw [if_pos (holds_line.2 hx), if_neg hx, findSome?_stops_line hcloser hsome]
    cases hp : Text.upTo? closer r with
    | none => rfl
    | some p =>
        obtain ⟨⟨u, rfl⟩, -⟩ := (Text.upTo?_eq_some_iff hcloser).1 hp
        have hdrop : (p ++ closer ++ u).drop p.length = closer ++ u := by
          rw [List.append_assoc, List.drop_left]
        rw [Option.bind_some, hK, hdrop, Cursor.rest_past, Text.after?_append, Option.map_some,
          Option.map_some, List.drop_left, Cursor.past_past, Cursor.pos_past]

/-- An enclosure that is not barred is found as if nothing stood in front. -/
theorem token?_of_not_barred {before : Option Char} (h : ¬(before.isSome ∧ before = e.barred))
    (t : Text) : e.token? before t = e.token? none t := by
  rw [token?, token?]
  simp only [Bool.and_eq_true, beq_iff_eq, if_neg h, Option.isSome_none, Bool.false_eq_true,
    false_and, if_false]

/-- The opening marker is matched, and then what is behind it. -/
theorem run_opening (hcloser : e.closer ≠ []) :
    (Node.literal e.opener (closingNode e.closer)).run c some =
      (e.token? none c.rest).map c.pastToken := by
  rw [run_literal, token?, if_neg (by simp)]
  rcases hu : Text.after? e.opener c.rest with _ | _ | ⟨x, r⟩
  · rfl
  · rfl
  · rw [Option.bind_some, run_closing hcloser rfl]
    by_cases hx : x = '\n'
    · simp [hx]
    · cases hp : Text.upTo? e.closer r <;>
        simp [hx, hp, Cursor.pastToken, Token.envelope, Text.after?_eq_some_iff.1 hu]

/-- **An enclosed token is what its pattern matches.** -/
theorem recognises_node (hcloser : e.closer ≠ []) : e.node.Recognises e.token? := by
  intro c
  rcases hbar : e.barred with _ | b
  · have hfree : ¬(c.before.isSome ∧ c.before = e.barred) := by
      rw [hbar, ← Option.isNone_iff_eq_none]
      cases c.before <;> simp
    rw [node, hbar, token?_of_not_barred hfree]
    exact run_opening hcloser
  · have hnode : e.node.run c some = if (Edge.behind (.single b) true).holds c then
        (e.token? none c.rest).map c.pastToken else none := by
      rw [node, hbar, ← run_opening hcloser]
      rfl
    have hedge : (Edge.behind (.single b) true).holds c = true ↔ c.before ≠ some b := by
      rw [Edge.holds, Bool.bne_true, Bool.not_eq_true', ← Bool.not_eq_true, not_iff_not,
        Option.any_eq_true]
      simp only [holds_single, exists_eq_right']
    rw [hnode]
    by_cases hb : c.before = some b
    · rw [if_neg (mt hedge.1 (not_not.2 hb)), token?_of_barred ⟨by simp [hb], by rw [hb, hbar]⟩]
      rfl
    · rw [if_pos (hedge.2 hb), token?_of_not_barred fun h => hb (h.2.trans hbar)]

end Enclosure

/-! ### References -/

namespace Reference

open Pattern Text

/-- The characters that a part may have. -/
def part : CharSet := ⟨[.range '#' '#', .kind .blank false], true⟩

theorem holds_part : part.holds = isPart := by
  funext x
  have hpart : part.holds x = !((CharSet.single '#').holds x || isBlank x) := by
    simp [part, CharSet.single, CharSet.holds, Member.holds, Kind.holds]
  have hsep : (CharSet.single '#').holds x = (x == '#') := by
    rw [Bool.eq_iff_iff, holds_single, beq_iff_eq, eq_comm]
  rw [hpart, hsep, Bool.not_or]
  rfl

/-- So many separators, and the parts in front of them and behind, as a pattern. -/
def partsNode : Nat → Node
  | 0 => .seq (.rounds true 1 none (.one part)) .empty
  | n + 1 => .seq (.rounds true 1 none (.one part)) (.seq (.one (.single '#')) (partsNode n))

/-- A reference as a pattern. -/
def node (e : Reference) : Node :=
  .seq (.edge (.wordEdge false)) (.literal e.marker
    (.seq (.group (partsNode e.separators)) (.seq (.edge (.wordEdge false)) .empty)))

variable {e : Reference} {c : Cursor} {K : Cursor → Option Cursor} {p r t : Text} {n : Nat}

/-- In front of a settled text, the edge of a word is behind a word character. -/
theorem holds_wordEdge_past (hp : p ≠ []) (hr : Settled r) :
    (Edge.wordEdge false).holds (c.past p r) = p.getLast?.any isWord := by
  have hhead : r.head?.any isWord = false := by
    cases r with
    | nil => rfl
    | cons x r =>
        by_cases hx : isPart x = true
        · exact (settled_cons_iff.1 hr hx).1
        · -- a separator or a blank
          by_cases hsep : x = '#'
          · rw [hsep]
            rfl
          · have hblank : isBlank x = true := by simpa [isPart, hsep] using hx
            exact isWord_eq_false_of_isBlank hblank
  rw [Edge.holds, Cursor.rest_past, hhead, Cursor.past,
    List.getLast?_eq_some_getLast hp]
  simp

theorem parts?_zero_eq_none_iff : parts? 0 t = none ↔ Settled t := by
  rw [parts?, Settled, ← toLastWord_eq_nil_iff]
  simp only [List.isEmpty_iff, ite_eq_left_iff, reduceCtorEq, imp_false, not_not]

/-- The last run, with one more character in front. -/
theorem parts?_zero_cons {x : Char} (hx : isPart x = true) : parts? 0 (x :: t) =
    ((parts? 0 t).map (x :: ·)).or (if isWord x then some [x] else none) := by
  rw [parts?, parts?, List.takeWhile_cons_of_pos hx, toLastWord, List.reverse_cons,
    List.dropWhile_append]
  by_cases hnone : (t.takeWhile isPart).reverse.dropWhile (!isWord ·) = []
  · by_cases hword : isWord x = true <;> simp [toLastWord, hnone, hword]
  · simp [toLastWord, hnone]

/-- **The last run is given back up to its last word character,** where the last edge of a word
is. -/
theorem findSome?_tries_part (hK : ∀ d, (K d).isSome = (Edge.wordEdge false).holds d) :
    (part.tries true c).findSome? K =
      (parts? 0 c.rest).bind fun p => K (c.past p (c.rest.drop p.length)) := by
  rw [CharSet.tries, if_pos rfl]
  induction hrest : c.rest generalizing c with
  | nil => rfl
  | cons x r ih =>
      by_cases hx : isPart x = true
      · have hrun := ih (c := c.past [x] r) rfl
        rw [CharSet.stops, holds_part, if_pos hx, List.reverse_cons, List.findSome?_append, hrun,
          parts?_zero_cons hx]
        cases hp : parts? 0 r with
        | none =>
            -- the edge behind the first character, if it is one, is the last edge
            have hedge := holds_wordEdge_past (c := c) (List.cons_ne_nil x [])
              (parts?_zero_eq_none_iff.1 hp)
            rw [← hK] at hedge
            by_cases hword : isWord x = true
            · simp [hword]
            · have hnone : K (c.past [x] r) = none := by simpa [hword] using hedge
              simp [hword, hnone]
        | some p =>
            obtain ⟨u, rfl, hpayload, hsettled⟩ := parts?_eq_some_iff.1 hp
            have hedge := holds_wordEdge_past (c := c) (List.cons_ne_nil x p) hsettled
            have hword : EndsInWord (x :: p) := endsInWord_append (t := [x]) hpayload.endsInWord
            obtain ⟨d, hd⟩ := Option.isSome_iff_exists.1 ((hK _).trans (hedge.trans hword))
            simp [hd]
      · rw [CharSet.stops, holds_part, if_neg hx, parts?, List.takeWhile_cons_of_neg hx]
        rfl

/-- **The parts are matched,** and then the edge of a word. -/
theorem run_partsNode (hK : ∀ d, (K d).isSome = (Edge.wordEdge false).holds d) :
    (partsNode n).run c K =
      (parts? n c.rest).bind fun p => K (c.past p (c.rest.drop p.length)) := by
  induction n generalizing c with
  | zero =>
      have hrun : (partsNode 0).run c K = (part.tries true c).findSome? K := run_rounds
      rw [hrun, findSome?_tries_part hK]
  | succ n ih =>
      have hrun : (partsNode (n + 1)).run c K = (part.tries true c).findSome? fun d =>
          (Node.one (.single '#')).run d fun d => (partsNode n).run d K := run_rounds
      have hsep : ∀ (d : Cursor) (x : Char) (r : Text), d.rest = x :: r → part.holds x = true →
          ((Node.one (.single '#')).run d fun d => (partsNode n).run d K) = none := by
        intro d x r hrest hx
        refine run_one_of_not_holds hrest (mt holds_single.1 ?_)
        rintro rfl
        rw [holds_part] at hx
        exact not_isPart_separator hx
      have hrest := List.takeWhile_append_dropWhile (p := isPart) (l := c.rest)
      rw [hrun, findSome?_tries_of_maximal hsep, holds_part, parts?]
      generalize c.rest.takeWhile isPart = q at *
      by_cases hnil : q = []
      · simp [hnil]
      · rw [if_neg hnil, if_neg (by simpa using hnil)]
        rcases hdrop : c.rest.dropWhile isPart with _ | ⟨y, r⟩
        · exact run_one_of_nil rfl
        · by_cases hy : '#' = y
          · subst hy
            rw [hdrop] at hrest
            rw [run_one_of_holds rfl (holds_single.2 rfl), ih, Cursor.past_past]
            cases hp : parts? n r with
            | none => simp [hp]
            | some p => simp [hp, ← hrest]
          · rw [run_one_of_not_holds rfl (mt holds_single.1 hy)]
            split
            · next hcons =>
              cases hcons
              exact absurd rfl hy
            · rfl

/-- In front of a word character, the edge of a word is where no word character stands in front. -/
theorem holds_wordEdge_of_head (h : c.rest.head?.any isWord = true) :
    (Edge.wordEdge false).holds c = !c.before.any isWord := by
  have hne : c.rest.isEmpty = false := by
    rw [List.isEmpty_eq_false_iff]
    intro hnil
    simp [hnil] at h
  rw [Edge.holds, h, hne]
  cases c.before.any isWord <;> simp

/-- **A reference is what its pattern matches.** -/
theorem recognises_node (hmarker : e.marker.head?.any isWord = true) :
    e.node.Recognises e.token? := by
  intro c
  have hrun : e.node.run c some = if (Edge.wordEdge false).holds c then
      (Node.literal e.marker (.seq (.group (partsNode e.separators))
        (.seq (.edge (.wordEdge false)) .empty))).run c some else none := rfl
  rw [hrun, run_literal, token?]
  cases hu : Text.after? e.marker c.rest with
  | none => simp
  | some u =>
      have hhead : c.rest.head?.any isWord = true := by
        have hne : e.marker ≠ [] := by
          intro hnil
          simp [hnil] at hmarker
        rwa [Text.after?_eq_some_iff.1 hu, List.head?_append_of_ne_nil _ hne]
      -- what follows the parts is the edge of a word
      let K : Cursor → Option Cursor := fun d =>
        if (Edge.wordEdge false).holds d then some (d.note (c.pos + e.marker.length) d.pos)
        else none
      have hparts : (Node.seq (.group (partsNode e.separators))
          (.seq (.edge (.wordEdge false)) .empty)).run (c.past e.marker u) some =
            (partsNode e.separators).run (c.past e.marker u) K := rfl
      have hK : ∀ d, (K d).isSome = (Edge.wordEdge false).holds d := fun d => by
        by_cases hd : (Edge.wordEdge false).holds d = true <;> simp [K, hd]
      rw [holds_wordEdge_of_head hhead, Option.bind_some, hparts, run_partsNode hK]
      by_cases hbefore : c.before.any isWord = true
      · simp [hbefore]
      · cases hp : parts? e.separators u with
        | none => simp [hp]
        | some p =>
            obtain ⟨r, rfl, hpayload, hsettled⟩ := parts?_eq_some_iff.1 hp
            have hedge : (Edge.wordEdge false).holds (c.past (e.marker ++ p) r) = true := by
              rw [holds_wordEdge_past (by simp [hpayload.ne_nil]) hsettled]
              exact endsInWord_append hpayload.endsInWord
            simp [hbefore, hp, K, hedge, Cursor.pastToken, Token.envelope,
              Text.after?_eq_some_iff.1 hu, Nat.add_assoc]

end Reference

/-! ### Scanning -/

namespace Pattern

variable {root : Node} {find : Recogniser}

/-- The span noted behind a token is that of the token. -/
theorem span_pastToken (c : Cursor) (k : Token) :
    (c.pastToken k).span c.pos = k.span c.pos := by
  simp [Cursor.span, Cursor.pastToken, Cursor.note, Token.span, Token.envelope, Nat.add_assoc]

/-- The match that starts at a place is the token that is found there. -/
theorem Node.Recognises.matchesAt (h : root.Recognises find) (hfind : find.Lawful) (c : Cursor) :
    root.matchesAt c = (find c.before c.rest).toList.map c.pastToken := by
  have hmatch : root.match? false c = (find c.before c.rest).map c.pastToken :=
    h { c with noted := none }
  rw [Node.matchesAt, hmatch]
  cases hk : find c.before c.rest with
  | none => rfl
  | some k =>
      -- a token takes up at least one character
      have hne : (c.pastToken k).pos ≠ c.pos := by
        have hpos := List.length_pos_iff.2 (hfind.envelope_ne_nil hk)
        have hpast : (c.pastToken k).pos = c.pos + k.envelope.length := rfl
        omega
      simp [hne]

/-- **The spans of the matches are those of the tokens found.** -/
theorem Node.Recognises.spansFrom (h : root.Recognises find) (hfind : find.Lawful) (skip pos : Nat)
    (before : Option Char) (t : Text) :
    root.spansFrom skip pos before t = Token.scanFrom find skip pos before t := by
  induction t generalizing skip pos before with
  | nil =>
      cases skip with
      | zero =>
          have hnone : find before [] = none := by
            rw [Option.eq_none_iff_forall_ne_some]
            intro k hk
            exact hfind.envelope_ne_nil hk (List.prefix_nil.1 (hfind.envelope_isPrefix hk))
          rw [Node.spansFrom, h.matchesAt hfind, hnone]
          rfl
      | succ skip => rfl
  | cons x r ih =>
      cases skip with
      | zero =>
          rw [Node.spansFrom, h.matchesAt hfind]
          cases hk : find before (x :: r) with
          | none => simp [Token.scanFrom, hk, ih]
          | some k =>
              have hspan := span_pastToken ⟨pos, before, x :: r, none⟩ k
              have hpast : (Cursor.pastToken ⟨pos, before, x :: r, none⟩ k).pos =
                  pos + k.envelope.length := rfl
              simp only at hspan
              simp [Token.scanFrom, hk, ih, hspan, hpast]
      | succ skip => exact ih skip (pos + 1) (some x)

/-! ### Texts of patterns -/

theorem compile_of_parse? {source : Text} {root : Node} (h : parse? source = some (root, 1)) :
    compile source = .ok ⟨source, root, h⟩ := by
  unfold compile
  split
  · next hnone => cases h.symm.trans hnone
  · next hsome =>
    cases h.symm.trans hsome
    rfl
  · next hone hsome =>
    cases h.symm.trans hsome
    exact (hone rfl).elim

/-- Patterns with the same text are the same. -/
theorem eq_of_source {p q : Pattern} (h : p.source = q.source) : p = q := by
  obtain ⟨source, root, hp⟩ := p
  obtain ⟨source', root', hq⟩ := q
  obtain rfl : source = source' := h
  cases hp.symm.trans hq
  rfl

end Pattern

/-! ### The patterns of the shapes -/

namespace Shape

open Pattern

/-- The shapes as patterns. -/
def node : Shape → Node
  | plain => Enclosure.node ⟨secretOpener, secretCloser, some '-'⟩
  | encrypted => Enclosure.node ⟨sealedOpener, sealedCloser, none⟩
  | lookup => Reference.node ⟨lookupMarker, 1⟩
  | declaration => Reference.node ⟨declarationMarker, 2⟩

/-- These are what the texts of the patterns denote. -/
theorem parse?_patternText (s : Shape) : parse? s.patternText = some (s.node, 1) := by
  cases s <;> rfl

theorem recognises_node (s : Shape) : s.node.Recognises s.token? := by
  cases s with
  | plain =>
      exact Enclosure.recognises_node (e := ⟨secretOpener, secretCloser, some '-'⟩) (by decide)
  | encrypted =>
      exact Enclosure.recognises_node (e := ⟨sealedOpener, sealedCloser, none⟩) (by decide)
  | lookup => exact Reference.recognises_node rfl
  | declaration => exact Reference.recognises_node rfl

/-- The pattern that the text of a shape is read as. -/
def pattern (s : Shape) : Pattern := ⟨s.patternText, s.node, s.parse?_patternText⟩

theorem compile_patternText (s : Shape) : compile s.patternText = .ok s.pattern :=
  compile_of_parse? s.parse?_patternText

/-- **A shape finds what its pattern matches.** -/
theorem spans_pattern (s : Shape) (t : Text) : s.pattern.spans t = s.spans t :=
  s.recognises_node.spansFrom s.lawful 0 0 none t

end Shape

/-- **What a locator finds depends only on the text of its pattern.** -/
theorem Locator.locate_eq_of_patternText {l l' : Locator} (h : l.patternText = l'.patternText)
    (t : Text) : l.locate t = l'.locate t := by
  -- a shape finds what its pattern does, so there are only patterns to compare
  have hpattern : ∀ l : Locator, ∃ p : Pattern, p.source = l.patternText ∧
      ∀ t, p.spans t = l.locate t := by
    rintro (s | p)
    · exact ⟨s.pattern, rfl, s.spans_pattern⟩
    · exact ⟨p, rfl, fun _ => rfl⟩
  obtain ⟨p, hp, hspans⟩ := hpattern l
  obtain ⟨p', hp', hspans'⟩ := hpattern l'
  rw [← hspans, ← hspans', Pattern.eq_of_source ((hp.trans h).trans hp'.symm)]

end InlineSecrets
