/-
**The grammars of tokens.**

Each shape of token has a grammar that says at which places of a text such a token stands, and how
far it goes.  A reference stands where its marker follows no word character and maximal runs follow,
with separators between them; it ends right behind the last word character of the last run.  An
enclosed token stands where its opening marker follows no barred character and a closing marker
follows on the same line, behind one character at least; it ends with the first such marker.

The tokens that are located in a text are the leftmost ones of its grammar that do not overlap.  So
nothing is left out but what begins inside a token that was located.  That holds of the patterns in
which the grammars are given, as they are matched, and of the shapes.

Main definitions:

* `InlineSecrets.Reference.Occurs`, `InlineSecrets.Enclosure.Occurs` — **the two grammars;**
* `InlineSecrets.Reference.AllLocated`, `InlineSecrets.Enclosure.AllLocated` — spans that are those
  of a grammar in a text.

Main results:

* `InlineSecrets.Reference.finds_iff`, `InlineSecrets.Enclosure.finds_iff` — recognisers find what
  the grammars say;
* `InlineSecrets.Shape.allLocated_references` — **lookups and declarations are located exactly by
  their grammar;**
* `InlineSecrets.Shape.allLocated_enclosed` — **so are plain and sealed secrets.**
-/

import InlineSecrets.Proofs.Leftmost
import InlineSecrets.Proofs.Matching
import InlineSecrets.Proofs.References

set_option relaxedAutoImplicit false
set_option autoImplicit false

namespace InlineSecrets

open InlineSecrets.Span Text

/-! ### References -/

namespace Reference

/-- A maximal run in front of `r`: at least one character, none of them a separator or a blank, and
`r` does not go on with another such character. -/
structure IsMaximalRun (p r : Text) : Prop where
  isRun : IsRun p
  maximal : ∀ c, r.head? = some c → isPart c = false

/-- The text `u` begins with `n + 1` maximal runs, with separators between them, and these read `p`
up to the last word character of the last run, which there must be. -/
inductive Begins : (n : Nat) → (u p : Text) → Prop where
  | last {p tail r : Text} (hrun : IsMaximalRun (p ++ tail) r) (hword : EndsInWord p)
      (htail : ∀ c ∈ tail, isWord c = false) : Begins 0 (p ++ tail ++ r) p
  | cons {n : Nat} {run u p : Text} (hrun : IsMaximalRun run ('#' :: u)) (h : Begins n u p) :
      Begins (n + 1) (run ++ '#' :: u) (run ++ '#' :: p)

/-- **A reference stands at a span of a text:** the marker follows no word character, and what comes
behind the marker begins with the runs of the payload. -/
def Occurs (e : Reference) (t : Text) (s : Span) : Prop :=
  ∃ before u p, t = before ++ e.marker ++ u ∧
    (∀ c, before.getLast? = some c → isWord c = false) ∧ Begins e.separators u p ∧
    s = { envelopeStart := before.length
          payloadStart := (before.length + e.marker.length : Nat)
          payloadEnd := (before.length + e.marker.length + p.length : Nat)
          envelopeEnd := (before.length + e.marker.length + p.length : Nat) }

/-- **The spans are those of the references in a text:** the leftmost ones that do not overlap.
What is left out begins inside one of them, and the payloads have the right number of parts. -/
structure AllLocated (e : Reference) (t : Text) (ss : List Span) : Prop where
  leftmost_iff : ∀ ss', Leftmost (e.Occurs t) 0 ss' ↔ ss' = ss
  located_or_covered : ∀ s, e.Occurs t s →
    s ∈ ss ∨ ∃ s' ∈ ss, s'.envelopeStart < s.envelopeStart ∧ s.envelopeStart < s'.envelopeEnd
  count_payload : ∀ s ∈ ss, (s.payload t).count '#' = e.separators
  parts_payload : ∀ s ∈ ss, ((s.payload t).split '#').length = e.separators + 1 ∧
    ∀ p ∈ (s.payload t).split '#', p ≠ [] ∧ ∀ c ∈ p, isBlank c = false

variable {e : Reference} {n : Nat} {p r t u : Text} {s : Span}

/-- The characters of runs are those that are neither separators nor blanks. -/
theorem isPart_iff {c : Char} : isPart c = true ↔ c ≠ '#' ∧ isBlank c = false := by
  simp [isPart]

/-- Maximal runs up to a last word character are a payload in front of a settled text. -/
theorem begins_iff : Begins n u p ↔ ∃ r, u = p ++ r ∧ IsPayload n p ∧ Settled r := by
  constructor
  · intro h
    induction h with
    | @last p tail r hrun hword htail =>
        obtain ⟨⟨-, hpart⟩, hmax⟩ := hrun
        have hp : IsRun p := ⟨hword.ne_nil, fun c hc => hpart c (List.mem_append_left _ hc)⟩
        refine ⟨tail ++ r, List.append_assoc _ _ _, .last hp hword, ?_⟩
        have hr : r.takeWhile isPart = [] := by
          cases r with
          | nil => rfl
          | cons c r => exact List.takeWhile_cons_of_neg (by simp [hmax c rfl])
        rw [Settled, takeWhile_append fun c hc => hpart c (List.mem_append_right _ hc), hr,
          List.append_nil]
        exact htail
    | cons hrun _ ih =>
        obtain ⟨r, rfl, hp, hr⟩ := ih
        exact ⟨r, by simp, .cons hrun.isRun hp, hr⟩
  · rintro ⟨r, rfl, hp, hr⟩
    induction hp with
    | @last p hp hword =>
        have hrun : IsMaximalRun (p ++ r.takeWhile isPart) (r.dropWhile isPart) := by
          refine ⟨⟨by simp [hp.1], fun c hc => ?_⟩, fun c hc => ?_⟩
          · rcases List.mem_append.1 hc with hc | hc
            · exact hp.2 c hc
            · exact isPart_of_mem_takeWhile hc
          · have hnot := List.head?_dropWhile_not isPart r
            rw [hc] at hnot
            simpa using hnot
        have hbegins := Begins.last hrun hword hr
        rwa [List.append_assoc, List.takeWhile_append_dropWhile] at hbegins
    | @cons n q p hq _ ih =>
        have hrun : IsMaximalRun q ('#' :: (p ++ r)) :=
          ⟨hq, fun c hc => by cases hc; rfl⟩
        have hbegins := Begins.cons hrun ih
        rwa [← List.cons_append, ← List.append_assoc] at hbegins

/-- **The recogniser finds what the grammar says.** -/
theorem finds_iff : e.token?.Finds t s ↔ e.Occurs t s := by
  constructor
  · rintro ⟨before, k, rest, rfl, hk, rfl⟩
    obtain ⟨hbefore, r, hr, hrefers⟩ := token?_eq_some_iff.1 hk
    obtain rfl := List.append_cancel_left hr
    refine ⟨before, k.payload ++ rest, k.payload, ?_, fun c hc => ?_,
      begins_iff.2 ⟨rest, rfl, hrefers.isPayload, hrefers.settled⟩, ?_⟩
    · rw [hrefers.envelope_eq, List.append_assoc, List.append_assoc]
    · rw [hc] at hbefore
      exact hbefore
    · simp [Token.span, hrefers.opening_eq, hrefers.closing_eq]
  · rintro ⟨before, u, p, rfl, hbefore, hbegins, rfl⟩
    obtain ⟨r, rfl, hp, hr⟩ := begins_iff.1 hbegins
    have hrefers : e.Refers ⟨e.marker, p, []⟩ r := ⟨rfl, rfl, hp, hr⟩
    refine ⟨before, ⟨e.marker, p, []⟩, r, ?_, token?_eq_some_iff.2 ⟨?_, r, rfl, hrefers⟩, ?_⟩
    · rw [hrefers.envelope_eq, List.append_assoc, List.append_assoc]
    · cases hlast : before.getLast? with
      | none => rfl
      | some c => exact hbefore c hlast
    · simp [Token.span]

/-- The parts of a payload. -/
theorem IsPayload.split (h : IsPayload n p) : p.count '#' = n ∧ (p.split '#').length = n + 1 ∧
    ∀ q ∈ p.split '#', q ≠ [] ∧ ∀ c ∈ q, isBlank c = false := by
  have hrun : ∀ {q : Text}, IsRun q → q ≠ [] ∧ ∀ c ∈ q, isBlank c = false :=
    fun hq => ⟨hq.1, fun c hc => (isPart_iff.1 (hq.2 c hc)).2⟩
  induction h with
  | last hp _ =>
      rw [split_of_not_mem hp.separator_not_mem]
      exact ⟨List.count_eq_zero.2 hp.separator_not_mem, rfl, by simpa using hrun hp⟩
  | @cons n q p hq _ ih =>
      obtain ⟨hcount, hlen, hparts⟩ := ih
      rw [split_append_cons hq.separator_not_mem]
      refine ⟨?_, by rw [List.length_cons, hlen], List.forall_mem_cons.2 ⟨hrun hq, hparts⟩⟩
      rw [List.count_append, List.count_cons_self, List.count_eq_zero.2 hq.separator_not_mem,
        hcount, Nat.zero_add]

/-- The payload at the span of a reference. -/
theorem Occurs.isPayload (h : e.Occurs t s) : IsPayload e.separators (s.payload t) := by
  obtain ⟨before, k, rest, rfl, hk, rfl⟩ := finds_iff.2 h
  obtain ⟨-, _, -, hrefers⟩ := token?_eq_some_iff.1 hk
  rw [(Piece.span_slices k before rest).1]
  exact hrefers.isPayload

/-- Scanning locates the references of a text. -/
theorem allLocated_scan (e : Reference) (t : Text) : e.AllLocated t (Token.scan e.token? t) := by
  have hleftmost : ∀ ss, Leftmost (e.Occurs t) 0 ss ↔ ss = Token.scan e.token? t := fun ss =>
    (leftmost_congr fun s => finds_iff.symm).trans (Recogniser.leftmost_iff e.lawful)
  have hscan := (hleftmost _).2 rfl
  have hpayload : ∀ s ∈ Token.scan e.token? t, _ := fun s hs => (hscan.of_mem hs).isPayload.split
  constructor
  · exact hleftmost
  · intro s hs
    refine hscan.mem_or_covered (fun s s' hs hs' => ?_) hs ?_
    · exact Recogniser.determinedByStart_finds e.token? t s s' (finds_iff.2 hs) (finds_iff.2 hs')
    · obtain ⟨before, -, -, -, -, -, rfl⟩ := hs
      exact Int.natCast_nonneg _
  · exact fun s hs => (hpayload s hs).1
  · exact fun s hs => (hpayload s hs).2

end Reference

/-! ### Enclosed tokens -/

namespace Enclosure

/-- **An enclosed token stands at a span of a text:** the opening marker follows no barred
character, the payload is on one line and not empty, and no closing marker follows earlier behind
the first character of the payload. -/
def Occurs (e : Enclosure) (t : Text) (s : Span) : Prop :=
  ∃ before p rest, t = before ++ e.opener ++ p ++ e.closer ++ rest ∧
    (∀ c, before.getLast? = some c → e.barred ≠ some c) ∧ p ≠ [] ∧ '\n' ∉ p ∧
    (∀ q, q ≠ [] → q.length < p.length → ¬q ++ e.closer <+: p ++ e.closer ++ rest) ∧
    s = { envelopeStart := before.length
          payloadStart := (before.length + e.opener.length : Nat)
          payloadEnd := (before.length + e.opener.length + p.length : Nat)
          envelopeEnd := (before.length + e.opener.length + p.length + e.closer.length : Nat) }

/-- **The spans are those of the enclosed tokens in a text:** the leftmost ones that do not overlap.
An opening marker outside of them that is not barred is not closed on the rest of its line. -/
structure AllLocated (e : Enclosure) (t : Text) (ss : List Span) : Prop where
  leftmost_iff : ∀ ss', Leftmost (e.Occurs t) 0 ss' ↔ ss' = ss
  not_closed : ∀ before u, t = before ++ e.opener ++ u →
    (∀ c, before.getLast? = some c → e.barred ≠ some c) →
    (∀ s ∈ ss, ¬(s.envelopeStart ≤ before.length ∧ before.length < s.envelopeEnd)) →
    ∀ q, q ≠ [] → '\n' ∉ q → ¬q ++ e.closer <+: u

variable {e : Enclosure} {p q t u z : Text} {s : Span}

theorem append_prefix_iff : q ++ z <+: u ↔ q <+: u ∧ z <+: u.drop q.length := by
  constructor
  · rintro ⟨w, rfl⟩
    rw [List.append_assoc, List.drop_left]
    exact ⟨List.prefix_append _ _, List.prefix_append _ _⟩
  · rintro ⟨⟨w, rfl⟩, h⟩
    rw [List.drop_left] at h
    exact (List.prefix_append_right_inj q).2 h

/-- Where a closing marker follows on the same line, there is a first one. -/
theorem exists_first (hq : q ≠ []) (hline : '\n' ∉ q) (h : q ++ z <+: u) :
    ∃ p, p ≠ [] ∧ '\n' ∉ p ∧ p ++ z <+: u ∧
      ∀ q, q ≠ [] → q.length < p.length → ¬q ++ z <+: u := by
  induction hn : q.length using Nat.strongRecOn generalizing q with
  | ind n ih =>
      by_cases hshorter : ∃ q', q' ≠ [] ∧ q'.length < n ∧ q' ++ z <+: u
      · obtain ⟨q', hq', hlt, h'⟩ := hshorter
        -- a shorter one is the beginning of the longer one
        have hqq' : q' <+: q := List.prefix_of_prefix_length_le (append_prefix_iff.1 h').1
          (append_prefix_iff.1 h).1 (by omega)
        exact ih _ hlt hq' (fun hmem => hline (hqq'.subset hmem)) h' rfl
      · refine ⟨q, hq, hline, h, fun q' hq' hlt h' => hshorter ⟨q', hq', ?_, h'⟩⟩
        omega

/-- The characters in front of a closing marker are a part of the payload when it comes earlier. -/
theorem forall_drop_iff (hp : p <+: u) : (∀ n < p.length, 0 < n → ¬z <+: u.drop n) ↔
    ∀ q, q ≠ [] → q.length < p.length → ¬q ++ z <+: u := by
  constructor
  · intro h q hq hlt hclosed
    exact h q.length hlt (List.length_pos_iff.2 hq) (append_prefix_iff.1 hclosed).2
  · intro h n hlt hpos hclosed
    have hlen : (p.take n).length = n := List.length_take_of_le (Nat.le_of_lt hlt)
    refine h (p.take n) (List.length_pos_iff.1 (by omega)) (by omega) ?_
    rw [append_prefix_iff, hlen]
    exact ⟨(List.take_prefix n p).trans hp, hclosed⟩

/-- **The recogniser finds what the grammar says.** -/
theorem finds_iff (hcloser : e.closer ≠ []) : e.token?.Finds t s ↔ e.Occurs t s := by
  have hfront : ∀ p rest : Text, p <+: p ++ e.closer ++ rest := fun p rest => by
    rw [List.append_assoc]
    exact List.prefix_append _ _
  constructor
  · rintro ⟨before, k, rest, rfl, hk, rfl⟩
    obtain ⟨hbar, r, hr, hencloses⟩ := (token?_eq_some_iff hcloser).1 hk
    obtain rfl := List.append_cancel_left hr
    refine ⟨before, k.payload, rest, ?_, fun c hc hc' => hbar (by simp [hc, hc']),
      hencloses.payload_ne_nil, hencloses.one_line,
      (forall_drop_iff (hfront _ _)).1 hencloses.first_closer, ?_⟩
    · rw [hencloses.envelope_append]
      simp only [List.append_assoc]
    · simp [Token.span, hencloses.opening_eq, hencloses.closing_eq]
  · rintro ⟨before, p, rest, rfl, hbar, hne, hline, hfirst, rfl⟩
    have hencloses : e.Encloses ⟨e.opener, p, e.closer⟩ rest :=
      ⟨rfl, rfl, hne, hline, (forall_drop_iff (hfront _ _)).2 hfirst⟩
    refine ⟨before, ⟨e.opener, p, e.closer⟩, rest, ?_,
      (token?_eq_some_iff hcloser).2 ⟨?_, rest, rfl, hencloses⟩, rfl⟩
    · rw [hencloses.envelope_append]
      simp only [List.append_assoc]
    · rintro ⟨hsome, hbarred⟩
      obtain ⟨c, hc⟩ := Option.isSome_iff_exists.1 hsome
      exact hbar c hc (hbarred.symm.trans hc)

/-- Scanning locates the enclosed tokens of a text. -/
theorem allLocated_scan (hopener : e.opener ≠ []) (hcloser : e.closer ≠ []) (t : Text) :
    e.AllLocated t (Token.scan e.token? t) := by
  have hfinds : ∀ s, e.token?.Finds t s ↔ e.Occurs t s := fun _ => finds_iff hcloser
  have hleftmost : ∀ ss, Leftmost (e.Occurs t) 0 ss ↔ ss = Token.scan e.token? t := fun _ =>
    (leftmost_congr fun s => (hfinds s).symm).trans
      (Recogniser.leftmost_iff (lawful hopener hcloser))
  refine ⟨hleftmost, ?_⟩
  rintro before u rfl hbar houtside q hq hline hclosed
  -- the opening marker is that of a token, since there is a first closing marker
  obtain ⟨p, hp, hpline, ⟨rest, rfl⟩, hfirst⟩ := exists_first hq hline hclosed
  have hoccurs : e.Occurs (before ++ e.opener ++ (p ++ e.closer ++ rest)) _ :=
    ⟨before, p, rest, by simp only [List.append_assoc], hbar, hp, hpline, hfirst, rfl⟩
  have hunique : DeterminedByStart (e.Occurs (before ++ e.opener ++ (p ++ e.closer ++ rest))) :=
    fun s s' hs hs' =>
      Recogniser.determinedByStart_finds e.token? _ s s' ((hfinds s).2 hs) ((hfinds s').2 hs')
  have hlen : 0 < e.opener.length := List.length_pos_iff.2 hopener
  rcases ((hleftmost _).2 rfl).mem_or_covered hunique hoccurs (Int.natCast_nonneg _) with
    hmem | ⟨s, hs, hlt, hend⟩
  · exact houtside _ hmem ⟨Int.le_refl _, by simp only []; omega⟩
  · exact houtside s hs ⟨Int.le_of_lt hlt, hend⟩

end Enclosure

/-! ### The shapes in use -/

namespace Shape

/-- **Lookups and declarations are located exactly by their grammar,** in every text: by their
patterns, and so by the shapes. -/
theorem allLocated_references (t : Text) :
    (∃ p, Pattern.compile "\\bvault:([^#\\s]+#[^#\\s]+)\\b".toList = .ok p ∧
      p.spans t = lookup.spans t ∧ Reference.AllLocated ⟨"vault:".toList, 1⟩ t (p.spans t)) ∧
    ∃ p, Pattern.compile "\\bvault-secret:([^#\\s]+#[^#\\s]+#[^#\\s]+)\\b".toList = .ok p ∧
      p.spans t = declaration.spans t ∧
      Reference.AllLocated ⟨"vault-secret:".toList, 2⟩ t (p.spans t) := by
  refine ⟨⟨lookup.pattern, lookup.compile_patternText, lookup.spans_pattern t, ?_⟩,
    ⟨declaration.pattern, declaration.compile_patternText, declaration.spans_pattern t, ?_⟩⟩
  · rw [spans_pattern]
    exact Reference.allLocated_scan _ t
  · rw [spans_pattern]
    exact Reference.allLocated_scan _ t

/-- **Plain and sealed secrets are located exactly by their grammar,** in every text: by their
patterns, and so by the shapes.  The opening marker of a plain one may not follow `-`. -/
theorem allLocated_enclosed (t : Text) :
    (∃ p, Pattern.compile "(?<!-)secret:(.+?):secret".toList = .ok p ∧
      p.spans t = plain.spans t ∧
      Enclosure.AllLocated ⟨"secret:".toList, ":secret".toList, some '-'⟩ t (p.spans t)) ∧
    ∃ p, Pattern.compile "secret-aes-256-gcm:(.+?):secret-aes-256-gcm".toList = .ok p ∧
      p.spans t = encrypted.spans t ∧
      Enclosure.AllLocated ⟨"secret-aes-256-gcm:".toList, ":secret-aes-256-gcm".toList, none⟩ t
        (p.spans t) := by
  refine ⟨⟨plain.pattern, plain.compile_patternText, plain.spans_pattern t, ?_⟩,
    ⟨encrypted.pattern, encrypted.compile_patternText, encrypted.spans_pattern t, ?_⟩⟩
  · rw [spans_pattern]
    exact Enclosure.allLocated_scan (by decide) (by decide) t
  · rw [spans_pattern]
    exact Enclosure.allLocated_scan (by decide) (by decide) t

end Shape

end InlineSecrets
