/-
**Tokens do not go beyond lines.**

None of the four shapes of tokens holds a line break, and what stands in front of a line is as good
as nothing in front of it.  So the tokens of a text are those of its lines.  Decoding asks nothing
but the key and the contents of the vault, which it leaves as they are; hence it decodes a text line
by line, and fails where one of the lines cannot be decoded.  What is put in place of a token may
hold line breaks: the families that come later see the text up to there and behind it, and the
tokens of that are again those of its lines.

Main definitions:

* `InlineSecrets.Recogniser.LineBound` — recognisers that do not look beyond lines;
* `InlineSecrets.LineByLine` — ways of changing texts line by line.

Main results:

* `InlineSecrets.Shape.lineBound` — the four shapes do not look beyond lines;
* `InlineSecrets.Piece.Reads.append_break` — two lines are cut into the pieces of each;
* `InlineSecrets.LineByLine.runEngines` — what is done line by line, one after the other, is;
* `InlineSecrets.Tool.run_decode_append_break` — **tokens are found and decoded line by line.**
-/

import InlineSecrets.Proofs.Keeping

set_option relaxedAutoImplicit false
set_option autoImplicit false

namespace InlineSecrets

/-! ### What is looked for in the first line -/

namespace Text

/-- A marker on one line is looked for in the first line. -/
theorem after?_append_break {p : Text} (hp : '\n' ∉ p) (a b : Text) :
    after? p (a ++ '\n' :: b) = (after? p a).map (· ++ '\n' :: b) := by
  induction p generalizing a with
  | nil => rfl
  | cons c p ih =>
      obtain ⟨hc, hp'⟩ := not_or.1 (mt List.mem_cons.2 hp)
      cases a with
      | nil => simp [after?, Ne.symm hc]
      | cons d a =>
          by_cases hcd : c = d
          · simp [after?, hcd, ih hp']
          · simp [after?, hcd]

/-- A closing marker is looked for in the first line. -/
theorem upTo?_append_break {closer : Text} (hne : closer ≠ []) (hcloser : '\n' ∉ closer)
    (a b : Text) : upTo? closer (a ++ '\n' :: b) = upTo? closer a := by
  induction a with
  | nil =>
      have hnone : after? closer ('\n' :: b) = none := by
        have h := after?_append_break hcloser [] b
        rwa [after?_eq_none_iff.2 (mt List.prefix_nil.1 hne)] at h
      simp [upTo?, hnone]
  | cons c a ih =>
      have h := after?_append_break hcloser (c :: a) b
      rw [List.cons_append] at h ⊢
      rw [upTo?, upTo?, h, Option.isSome_map, ih]

end Text

/-! ### Recognisers -/

/-- A recogniser that does not look beyond lines: it sees nothing of what follows a line break, and
a line break in front of a place is as good as nothing there. -/
structure Recogniser.LineBound (find : Recogniser) : Prop where
  append_break : ∀ before a b, find before (a ++ '\n' :: b) = find before a
  behind_break : ∀ t, find (some '\n') t = find none t

/-- Enclosed tokens, whose markers are on one line, are looked for line by line. -/
theorem Enclosure.lineBound {e : Enclosure} (hopener : '\n' ∉ e.opener) (hne : e.closer ≠ [])
    (hcloser : '\n' ∉ e.closer) (hbarred : e.barred ≠ some '\n') : e.token?.LineBound where
  append_break before a b := by
    rw [token?, token?, Text.after?_append_break hopener]
    rcases Text.after? e.opener a with _ | _ | ⟨c, r⟩
    · rfl
    · simp
    · simp [Text.upTo?_append_break hne hcloser]
  behind_break t := by
    have hbar : (some '\n' == e.barred) = false := by simpa using hbarred.symm
    simp [token?, hbar]

namespace Reference

/-- A line break ends a run. -/
theorem takeWhile_append_break (a b : Text) :
    (a ++ '\n' :: b).takeWhile isPart = a.takeWhile isPart ∧
      (a ++ '\n' :: b).dropWhile isPart = a.dropWhile isPart ++ '\n' :: b := by
  have hbreak : ¬isPart '\n' = true := by decide
  induction a with
  | nil => exact ⟨List.takeWhile_cons_of_neg hbreak, List.dropWhile_cons_of_neg hbreak⟩
  | cons c a ih => by_cases hc : isPart c = true <;> simp [hc, ih]

theorem parts?_append_break (n : Nat) (a b : Text) :
    parts? n (a ++ '\n' :: b) = parts? n a := by
  induction n generalizing a with
  | zero => rw [parts?, parts?, (takeWhile_append_break a b).1]
  | succ n ih =>
      obtain ⟨htake, hdrop⟩ := takeWhile_append_break a b
      rw [parts?, parts?, htake, hdrop]
      -- behind the first part there is nothing, a separator or something else
      rcases a.dropWhile isPart with _ | ⟨c, r⟩
      · simp
      · by_cases hc : c = '#' <;> simp [hc, ih]

/-- References, whose marker is on one line, are looked for line by line. -/
theorem lineBound {e : Reference} (hmarker : '\n' ∉ e.marker) : e.token?.LineBound where
  append_break before a b := by
    rw [token?, token?, Text.after?_append_break hmarker]
    cases Text.after? e.marker a <;> simp [parts?_append_break]
  behind_break t := by
    have hword : (some '\n').any Text.isWord = false := by decide
    rw [token?, token?, hword]
    rfl

end Reference

/-- The four shapes do not look beyond lines. -/
theorem Shape.lineBound (s : Shape) : s.token?.LineBound := by
  cases s with
  | plain => exact Enclosure.lineBound (by decide) (by decide) (by decide) (by decide)
  | encrypted => exact Enclosure.lineBound (by decide) (by decide) (by decide) (by decide)
  | lookup => exact Reference.lineBound (by decide)
  | declaration => exact Reference.lineBound (by decide)

/-! ### Pieces of two lines -/

namespace Piece

variable {find : Recogniser} {before : Option Char} {ps qs : List Piece}

theorem text_append_break (ps qs : List Piece) :
    text (ps ++ .plain '\n' :: qs) = text ps ++ '\n' :: text qs := text_append ps _

/-- What begins behind a line break is read as what begins a text. -/
theorem Reads.behind_break (hfind : find.LineBound) (hps : Reads find none ps) :
    Reads find (some '\n') ps := hps.congr_before hfind.behind_break

/-- **Two lines are cut into the pieces of each,** and the line break between them. -/
theorem Reads.append_break (hlawful : find.Lawful) (hfind : find.LineBound)
    (hps : Reads find before ps) (hqs : Reads find none qs) :
    Reads find before (ps ++ .plain '\n' :: qs) := by
  induction hps with
  | @nil before =>
      refine .plain ?_ (hqs.behind_break hfind)
      rw [← List.nil_append ('\n' :: text qs), hfind.append_break]
      -- nothing is found where there is nothing
      cases hk : find before [] with
      | none => rfl
      | some k =>
          exact absurd (List.prefix_nil.1 (hlawful.envelope_isPrefix hk))
            (hlawful.envelope_ne_nil hk)
  | @plain before c ps hnone _ ih =>
      have hboth : find before (c :: text (ps ++ .plain '\n' :: qs)) = none := by
        rw [text_append_break, ← List.cons_append, hfind.append_break, hnone]
      exact .plain hboth ih
  | @token before k ps hsome _ ih =>
      have hboth : find before (k.envelope ++ text (ps ++ .plain '\n' :: qs)) = some k := by
        rw [text_append_break, ← List.append_assoc, hfind.append_break, hsome]
      exact .token hboth ih

end Piece

open Piece

/-- The tokens of two lines are those of the first one and behind them those of the second one. -/
theorem Shape.spans_append_break (s : Shape) (a b : Text) :
    s.spans (a ++ '\n' :: b) = s.spans a ++ (s.spans b).map (Span.shift · (a.length + 1)) := by
  obtain ⟨ps, rfl, hps⟩ := exists_reads s.lawful none a
  obtain ⟨qs, rfl, hqs⟩ := exists_reads s.lawful none b
  have hboth := hps.append_break s.lawful s.lineBound hqs
  rw [← text_append_break, spans_text hboth, spans_text hps, spans_text hqs, spansFrom_append,
    spansFrom, map_shift_spansFrom, Nat.zero_add, Nat.zero_add]

/-! ### Line by line -/

/-- A way of changing texts, with a state, that goes line by line as long as `I` holds of the state:
two lines become what becomes of each, and if one of them fails, so do both.  The states do not need
to be the same. -/
structure LineByLine {σ ε : Type} (I : σ → Prop) (run : Text → σ → Except ε Text × σ) : Prop where
  append_break : ∀ a b {s s₁ s₂}, I s → I s₁ → I s₂ →
    (run (a ++ '\n' :: b) s).1.toOption = (run a s₁).1.toOption.bind fun t =>
      (run b s₂).1.toOption.map fun u => t ++ '\n' :: u
  keeps : ∀ t {s}, I s → I (run t s).2

/-- An engine that finds the tokens of a shape goes line by line, when the state does not matter for
what becomes of a payload. -/
theorem Engine.lineByLine {σ ε : Type} {e : Engine σ ε} {wrapTokens : Bool} {s : Shape}
    {place : Splicing.Placing} {I : σ → Prop} {g : Text → Option Text}
    (hlocate : ∀ t, e.locate t = .ok (s.spans t)) (hplace : e.placing? wrapTokens = some place)
    (hsteady : Splicing.Steady e.transform I g) : LineByLine I (e.run wrapTokens) := by
  have hrun : ∀ {ps : List Piece}, Reads s.token? none ps → ∀ {w}, I w →
      (e.run wrapTokens (text ps) w).1.toOption =
        fill? (fun k => (g k.payload).map fun r => place r k.payload k.envelope) ps := by
    intro ps hps w hw
    exact toOption_run_text hplace hsteady (by rw [hlocate, Shape.spans_text hps]) hw
  constructor
  · intro a b w w₁ w₂ hw hw₁ hw₂
    obtain ⟨ps, rfl, hps⟩ := exists_reads s.lawful none a
    obtain ⟨qs, rfl, hqs⟩ := exists_reads s.lawful none b
    rw [← text_append_break, hrun (hps.append_break s.lawful s.lineBound hqs) hw, hrun hps hw₁,
      hrun hqs hw₂, fill?_append, fill?]
    simp only [Option.map_map]
    rfl
  · exact fun t w hw => Engine.keeps_run_of_placing? hplace hsteady.keeps t hw

/-- Engines yield what the later ones make of what the first one yields. -/
theorem Tool.toOption_runEngines_cons (wrapTokens : Bool) (e : Engine World Cause)
    (es : List (Engine World Cause)) (t : Text) (w : World) :
    (runEngines wrapTokens (e :: es) t w).1.toOption =
      (e.run wrapTokens t w).1.toOption.bind fun u =>
        (runEngines wrapTokens es u (e.run wrapTokens t w).2).1.toOption := by
  rw [runEngines]
  rcases e.run wrapTokens t w with ⟨f | u, w'⟩ <;> rfl

/-- Engines that go line by line do so one after the other. -/
theorem LineByLine.runEngines {I : World → Prop} {wrapTokens : Bool}
    {es : List (Engine World Cause)} (hes : ∀ e ∈ es, LineByLine I (e.run wrapTokens)) :
    LineByLine I (Tool.runEngines wrapTokens es) := by
  induction es with
  | nil => exact ⟨fun _ _ _ _ _ _ _ _ => rfl, fun _ _ hs => hs⟩
  | cons e es ih =>
      have he := hes e List.mem_cons_self
      have hes' := ih fun e' he' => hes e' (List.mem_cons_of_mem e he')
      constructor
      · intro a b s s₁ s₂ hs hs₁ hs₂
        have hk := he.keeps (a ++ '\n' :: b) hs
        have hk₁ := he.keeps a hs₁
        have hk₂ := he.keeps b hs₂
        simp only [Tool.toOption_runEngines_cons, he.append_break a b hs hs₁ hs₂]
        cases (e.run wrapTokens a s₁).1.toOption with
        | none => rfl
        | some t =>
            cases (e.run wrapTokens b s₂).1.toOption with
            | none => simp
            | some u => exact hes'.append_break t u hk hk₁ hk₂
      · intro t s hs
        have hk := he.keeps t hs
        rw [Tool.runEngines]
        split
        · next heq =>
            rw [heq] at hk
            exact hk
        · next u s' heq =>
            rw [heq] at hk
            exact hes'.keeps u hk

/-! ### Decoding -/

open Vault Splicing

namespace Family

/-- Sealed payloads are opened in the same way in every state. -/
theorem steady_opening (key : Key) (I : World → Prop) :
    Steady (opening key) I fun p => (Cipher.openText (some key) p).toOption where
  toOption_eq p w _ := by
    rw [opening]
    cases Cipher.openText (some key) p <;> rfl
  keeps _ _ hw := hw

/-- What lookups yield depends on the contents of the vault only, and they leave these as they are.
-/
theorem steady_lookingUp (store : Store) :
    Steady lookingUp (fun w => ∃ received, w.vault = .memory store received) fun p =>
      (lookUp p (.memory store [])).1.toOption where
  toOption_eq p w := by
    rintro ⟨received, hw⟩
    rw [lookingUp, hw, lookUp, lookUp]
    rcases parts 2 p with f | ps
    · rfl
    · simp only [Client.read]
      cases store.read? (ps.getD 0 []) (ps.getD 1 []) <;> rfl
  keeps p w := by
    rintro ⟨received, hw⟩
    rw [lookingUp, hw, lookUp]
    rcases parts 2 p with f | ps
    · exact ⟨received, rfl⟩
    · simp only [Client.read]
      cases store.read? (ps.getD 0 []) (ps.getD 1 []) <;> exact ⟨_, rfl⟩

/-- Both families decode line by line. -/
theorem lineByLine_decode (family : Family) {e : Engine World Cause}
    (he : family.engine? .decode = some e) (wrapTokens : Bool) (store : Store) :
    LineByLine (fun w => ∃ received, w.vault = .memory store received) (e.run wrapTokens) := by
  cases family with
  | inline key =>
      cases he
      exact Engine.lineByLine (s := .encrypted) (fun _ => rfl) rfl (steady_opening key _)
  | vault =>
      cases he
      exact Engine.lineByLine (s := .lookup) (fun _ => rfl) rfl (steady_lookingUp store)

end Family

/-- **Tokens are found and decoded line by line.**  Each of the four shapes finds in two lines the
tokens of the first one and behind them those of the second one.  With fixed keys and a vault in
memory with fixed contents, each tool decodes two lines, whether or not it is to wrap tokens,
exactly when it decodes both of them, and then it yields what it yields for each; the random bytes
and the requests that the vault has received do not matter. -/
theorem Tool.run_decode_append_break :
    (∀ (s : Shape) (a b : Text),
      s.spans (a ++ '\n' :: b) = s.spans a ++ (s.spans b).map (Span.shift · (a.length + 1))) ∧
    ∀ (tool : Tool) (wrapTokens : Bool) (store : Store) (e e₁ e₂ : Entropy)
      (received received₁ received₂ : List KeyRequest) (a b : Text),
      (tool.run .decode wrapTokens (a ++ '\n' :: b) ⟨e, .memory store received⟩).1.toOption =
        (tool.run .decode wrapTokens a ⟨e₁, .memory store received₁⟩).1.toOption.bind fun t =>
          (tool.run .decode wrapTokens b ⟨e₂, .memory store received₂⟩).1.toOption.map fun u =>
            t ++ '\n' :: u := by
  refine ⟨Shape.spans_append_break, ?_⟩
  intro tool wrapTokens store e e₁ e₂ received received₁ received₂ a b
  have hengines : ∀ engine ∈ tool.engines .decode,
      LineByLine (fun w => ∃ received, w.vault = .memory store received)
        (engine.run wrapTokens) := by
    intro engine hengine
    obtain ⟨family, -, hfamily⟩ := List.mem_filterMap.1 hengine
    exact family.lineByLine_decode hfamily wrapTokens store
  exact (LineByLine.runEngines hengines).append_break a b ⟨received, rfl⟩ ⟨received₁, rfl⟩
    ⟨received₂, rfl⟩

end InlineSecrets
