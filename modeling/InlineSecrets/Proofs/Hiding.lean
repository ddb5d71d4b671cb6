/-
**Redacting with a vault says nothing about values.**

Two texts that differ in the values of their declarations only are redacted side by side.  What a
vault answers to the first declarations already depends on the values that were written, so the two
vaults do not stay the same; but they differ in texts that stand at the same places, and no more of
them is ever looked at than that they are texts: not when the layout of a path is found out, and not
when a server takes new contents or refuses them.  So both redactions go the same way: both yield
the same text, or both fail at the same token, for the same reason and with the same words.

Main definitions:

* `InlineSecrets.Together`, `InlineSecrets.Splicing.GoesAlike` — runs that go the same way, and
  transformations to which it makes no difference which of two payloads they get;
* `InlineSecrets.Json.Alike`, `InlineSecrets.Vault.Client.Alike` — values, and vaults, that differ
  in texts only;
* `InlineSecrets.Vault.DifferInValues` — **texts that differ in the values of declarations only.**

Main results:

* `InlineSecrets.Vault.Connection.Alike.writeKey` — vaults that are alike take texts alike;
* `InlineSecrets.Engine.run_of_goesAlike` — engines that go the same way fail at the same token;
* `InlineSecrets.Tool.run_redact_of_differInValues` — **redacting says nothing about values.**
-/

import InlineSecrets.Proofs.Failing
import InlineSecrets.Proofs.Redacting
import InlineSecrets.Proofs.Remote

set_option relaxedAutoImplicit false
set_option autoImplicit false

namespace InlineSecrets

/-! ### Runs that go the same way -/

/-- Both runs succeed, with results that are related, or both fail for the same reason; and the
states behind them are related. -/
inductive Together {ε α β σ τ : Type} (R : α → β → Prop) (S : σ → τ → Prop) :
    Except ε α × σ → Except ε β × τ → Prop where
  | ok {a : α} {b : β} {s : σ} {t : τ} (h : R a b) (hs : S s t) :
      Together R S (.ok a, s) (.ok b, t)
  | error {s : σ} {t : τ} (e : ε) (hs : S s t) : Together R S (.error e, s) (.error e, t)

theorem Together.cases {ε α β σ τ : Type} {R : α → β → Prop} {S : σ → τ → Prop}
    {x : Except ε α × σ} {y : Except ε β × τ} (h : Together R S x y) :
    (∃ a b s t, x = (.ok a, s) ∧ y = (.ok b, t) ∧ R a b ∧ S s t) ∨
      ∃ e s t, x = (.error e, s) ∧ y = (.error e, t) ∧ S s t := by
  cases h with
  | ok h hs => exact .inl ⟨_, _, _, _, rfl, rfl, h, hs⟩
  | error e hs => exact .inr ⟨e, _, _, rfl, rfl, hs⟩

/-- What is related is there on both sides, or on neither. -/
theorem rel_cases {α β : Type} {R : α → β → Prop} {a : Option α} {b : Option β}
    (h : Option.Rel R a b) :
    (a = none ∧ b = none) ∨ ∃ x y, a = some x ∧ b = some y ∧ R x y := by
  cases h with
  | none => exact .inl ⟨rfl, rfl⟩
  | some h => exact .inr ⟨_, _, rfl, rfl, h⟩

/-- What is related, if it is there, gives what is related, if it is there. -/
theorem rel_bind {α β γ δ : Type} {R : α → β → Prop} {T : γ → δ → Prop} {a : Option α}
    {b : Option β} (h : Option.Rel R a b) {f : α → Option γ} {g : β → Option δ}
    (hfg : ∀ {x y}, R x y → Option.Rel T (f x) (g y)) : Option.Rel T (a.bind f) (b.bind g) := by
  cases h with
  | none => exact .none
  | some h => exact hfg h

namespace Splicing

variable {σ ε : Type} {f : Transform σ ε} {P : Text → Text → Prop} {S : σ → σ → Prop}

/-- A transformation to which it makes no difference which of two payloads that `P` relates it gets
in which of two states that `S` relates. -/
def GoesAlike (f : Transform σ ε) (P : Text → Text → Prop) (S : σ → σ → Prop) : Prop :=
  ∀ ⦃p p' : Text⦄ ⦃s s' : σ⦄, P p p' → S s s' → Together Eq S (f p s) (f p' s')

/-- **A transformation to which it makes no difference makes the same of payloads that are
related,** as long as it succeeds. -/
theorem GoesAlike.transformAll (hf : GoesAlike f P S) {ps ps' rs : List Text}
    (hps : List.Forall₂ P ps ps') {s s' s₁ : σ} (hs : S s s')
    (h : Splicing.transformAll f ps s = (.ok rs, s₁)) :
    ∃ s₁', S s₁ s₁' ∧ Splicing.transformAll f ps' s' = (.ok rs, s₁') := by
  induction hps generalizing s s' rs with
  | nil =>
      cases h
      exact ⟨s', hs, rfl⟩
  | cons hp _ ih =>
      obtain ⟨r, s₂, rs', hr, hrs, rfl⟩ := transformAll_cons_eq_ok_iff.1 h
      rcases (hf hp hs).cases with ⟨_, _, _, s₂', hx, hr', rfl, hs₂⟩ | ⟨_, _, _, hx, -, -⟩
      · cases hr.symm.trans hx
        obtain ⟨s₁', hs₁, hrs'⟩ := ih hs₂ hrs
        exact ⟨s₁', hs₁, transformAll_cons_eq_ok_iff.2 ⟨r, s₂', rs', hr', hrs', rfl⟩⟩
      · cases hr.symm.trans hx

end Splicing

/-! ### Values that differ in texts -/

mutual

/-- Values that differ in texts only. -/
inductive Json.Alike : Json → Json → Prop where
  | refl (j : Json) : Json.Alike j j
  | text (t t' : Text) : Json.Alike (.text t) (.text t')
  | map {es es' : Assoc Text Json} (h : Assoc.Alike es es') : Json.Alike (.map es) (.map es')

/-- Maps with the same keys and values that differ in texts only. -/
inductive Assoc.Alike : Assoc Text Json → Assoc Text Json → Prop where
  | nil : Assoc.Alike [] []
  | cons {k : Text} {v v' : Json} {es es' : Assoc Text Json} (hv : Json.Alike v v')
      (hes : Assoc.Alike es es') : Assoc.Alike ((k, v) :: es) ((k, v') :: es')

end

namespace Assoc

variable {es es' : Assoc Text Json} {v v' : Json}

theorem Alike.refl (es : Assoc Text Json) : Alike es es := by
  induction es with
  | nil => exact .nil
  | cons e es ih => exact .cons (.refl e.2) ih

theorem Alike.get? (h : Alike es es') (x : Text) :
    Option.Rel Json.Alike (Assoc.get? es x) (Assoc.get? es' x) := by
  induction es generalizing es' with
  | nil =>
      cases h
      exact .none
  | cons e es ih =>
      cases h with
      | @cons k _ _ _ _ hv hes =>
          rw [get?_cons, get?_cons]
          by_cases hk : k = x
          · rw [if_pos hk, if_pos hk]
            exact .some hv
          · rw [if_neg hk, if_neg hk]
            exact ih hes

theorem Alike.set (h : Alike es es') (x : Text) (hv : Json.Alike v v') :
    Alike (Assoc.set es x v) (Assoc.set es' x v') := by
  induction es generalizing es' with
  | nil =>
      cases h
      exact .cons hv .nil
  | cons e es ih =>
      cases h with
      | @cons k _ _ _ _ hw hes =>
          rw [Assoc.set, Assoc.set]
          by_cases hk : k = x
          · rw [if_pos hk, if_pos hk]
            exact .cons hv hes
          · rw [if_neg hk, if_neg hk]
            exact .cons hw (ih hes)

end Assoc

namespace Json.Alike

variable {j j' : Json}

theorem entries? (h : j.Alike j') : Option.Rel Assoc.Alike j.entries? j'.entries? := by
  cases h with
  | refl =>
      cases j with
      | map es => exact .some (.refl es)
      | null | bool | int | float | text | list => exact .none
  | text => exact .none
  | map h => exact .some h

theorem get? (h : j.Alike j') (key : Text) :
    Option.Rel Json.Alike (j.get? key) (j'.get? key) :=
  rel_bind h.entries? fun hes => hes.get? key

theorem nonNull? (h : j.Alike j') : Option.Rel Json.Alike j.nonNull? j'.nonNull? := by
  cases h with
  | refl =>
      cases j with
      | null => exact .none
      | bool | int | float | text | list | map => exact .some (.refl _)
  | text => exact .some (.text _ _)
  | map h => exact .some (.map h)

end Json.Alike

/-! ### Vaults that differ in texts -/

namespace Vault

/-- **What decides on the layout of a path:** values at keys, whether these are mappings, and
whether they are null. -/
theorem Layout.inner?_rel {V : Json → Json → Prop} {R : Assoc Text Json → Assoc Text Json → Prop}
    (hget : ∀ {es es'}, R es es' → ∀ key, Option.Rel V (Assoc.get? es key) (Assoc.get? es' key))
    (hentries : ∀ {j j'}, V j j' → Option.Rel R j.entries? j'.entries?)
    (hnonNull : ∀ {j j'}, V j j' → Option.Rel V j.nonNull? j'.nonNull?)
    {data data' : Assoc Text Json} (h : R data data') :
    Option.Rel R (Layout.inner? data) (Layout.inner? data') := by
  unfold Layout.inner?
  rcases rel_cases (rel_bind (hget h "metadata".toList) hentries) with
    ⟨hm, hm'⟩ | ⟨metadata, metadata', hm, hm', hmetadata⟩
  · rw [hm, hm']
    exact .none
  rcases rel_cases (rel_bind (hget h "data".toList) hentries) with
    ⟨hi, hi'⟩ | ⟨inner, inner', hi, hi', hinner⟩
  · rw [hm, hm', hi, hi']
    exact .none
  simp only [hm, hm', hi, hi']
  rcases rel_cases (rel_bind (hget hmetadata "version".toList) hnonNull) with
    ⟨hv, hv'⟩ | ⟨_, _, hv, hv', -⟩
  · rw [hv, hv']
    exact .none
  · rw [hv, hv']
    exact .some hinner

/-- The layout of a path is not seen from texts. -/
theorem inner?_of_alike {data data' : Assoc Text Json} (h : data.Alike data') :
    Option.Rel Assoc.Alike (Layout.inner? data) (Layout.inner? data') :=
  Layout.inner?_rel (fun h => h.get?) (fun h => h.entries?) (fun h => h.nonNull?) h

/-- Servers that differ in texts of their responses, and in the requests received. -/
structure Server.Alike (s s' : Server) : Prop where
  responses : s.responses.Alike s'.responses
  readFaults_eq : s.readFaults = s'.readFaults
  writeFaults_eq : s.writeFaults = s'.writeFaults
  versioned_eq : s.versioned = s'.versioned

namespace Server

variable {s s' : Server} {data data' : Assoc Text Json}

theorem Alike.refl (s : Server) : s.Alike s := ⟨.refl _, rfl, rfl, rfl⟩

theorem Alike.receive (h : s.Alike s') (r r' : Request) :
    (s.receive r).Alike (s'.receive r') :=
  ⟨h.responses, h.readFaults_eq, h.writeFaults_eq, h.versioned_eq⟩

theorem Alike.answering (h : s.Alike s') (path : Text) {response response' : Json}
    (hresponse : response.Alike response') :
    (s.answering path response).Alike (s'.answering path response') :=
  ⟨h.responses.set path hresponse, h.readFaults_eq, h.writeFaults_eq, h.versioned_eq⟩

theorem Alike.read (h : s.Alike s') (path : Text) :
    Together (Option.Rel Json.Alike) Alike (s.read path) (s'.read path) := by
  cases hfault : Assoc.get? s.readFaults path with
  | none =>
      rw [read_of_served hfault, read_of_served (h.readFaults_eq ▸ hfault)]
      exact .ok (h.responses.get? path) (h.receive _ _)
  | some f =>
      rw [read_of_fault hfault, read_of_fault (h.readFaults_eq ▸ hfault)]
      exact .error f (h.receive _ _)

/-- A version is a number. -/
theorem versionOf_of_alike {response response' : Option Json}
    (h : Option.Rel Json.Alike response response') : versionOf response = versionOf response' := by
  unfold versionOf
  rcases rel_cases (rel_bind (rel_bind (rel_bind h fun h => h.get? "data".toList)
      fun h => h.get? "metadata".toList) fun h => h.get? "version".toList) with
    ⟨hv, hv'⟩ | ⟨_, _, hv, hv', hversion⟩
  · rw [hv, hv']
  · rw [hv, hv']
    cases hversion with
    | refl | text | map => rfl

/-- **Servers that are alike take contents alike.** -/
theorem Alike.write (h : s.Alike s') (path : Text) (hdata : data.Alike data') :
    Together Eq Alike (s.write path data) (s'.write path data') := by
  cases hfault : Assoc.get? s.writeFaults path with
  | some f =>
      rw [write_of_fault hfault, write_of_fault (h.writeFaults_eq ▸ hfault)]
      exact .error f (h.receive _ _)
  | none =>
      have hfault' := h.writeFaults_eq ▸ hfault
      cases hpath : s.versioned.contains path with
      | false =>
          rw [write_plain hfault hpath, write_plain hfault' (h.versioned_eq ▸ hpath)]
          exact .ok rfl ((h.answering path (.map (.cons (.map hdata) .nil))).receive _ _)
      | true =>
          have hpath' := h.versioned_eq ▸ hpath
          rcases rel_cases (rel_bind (hdata.get? "data".toList) Json.Alike.entries?) with
            ⟨hi, hi'⟩ | ⟨inner, inner', hi, hi', hinner⟩
          · rw [write_refused hfault hpath hi, write_refused hfault' hpath' hi']
            exact .error _ (h.receive _ _)
          · rw [write_versioned hfault hpath hi, write_versioned hfault' hpath' hi',
              ← versionOf_of_alike (h.responses.get? path)]
            refine .ok rfl ((h.answering path ?_).receive _ _)
            exact .map (.cons (.map (.cons (.map hinner) (.refl _))) .nil)

end Server

namespace Connection

variable {c c' : Connection}

/-- Connections to servers that are alike. -/
structure Alike (c c' : Connection) : Prop where
  server : c.server.Alike c'.server
  fresh_eq : c.fresh = c'.fresh

theorem Alike.data? (h : c.Alike c') (path : Text) :
    Together (Option.Rel Assoc.Alike) Alike (c.data? path) (c'.data? path) := by
  rcases (h.server.read path).cases with
    ⟨response, response', s, s', hx, hx', hresponse, hs⟩ | ⟨f, s, s', hx, hx', hs⟩
  · simp only [Connection.data?, hx, hx']
    refine .ok ?_ ⟨hs, h.fresh_eq⟩
    exact rel_bind (rel_bind hresponse fun h => h.get? _) Json.Alike.entries?
  · simp only [Connection.data?, hx, hx']
    split
    · exact .ok .none ⟨hs, h.fresh_eq⟩
    · exact .error f ⟨hs, h.fresh_eq⟩

/-- What is to be written differs in texts only. -/
theorem body_of_alike {data data' : Option (Assoc Text Json)}
    (h : Option.Rel Assoc.Alike data data') (fresh : Option Layout) (key : Text) {v v' : Json}
    (hv : v.Alike v') : (body fresh data key v).Alike (body fresh data' key v') := by
  cases h with
  | none =>
      rw [body, body]
      split
      · exact .cons (.map (.cons hv .nil)) .nil
      · exact .cons hv .nil
  | some hdata =>
      rcases rel_cases (inner?_of_alike hdata) with ⟨hi, hi'⟩ | ⟨_, _, hi, hi', hinner⟩
      · simp only [body, hi, hi']
        exact hdata.set key hv
      · simp only [body, hi, hi']
        exact .cons (.map (hinner.set key hv)) .nil

/-- **Vaults that are alike take texts alike.** -/
theorem Alike.writeKey (h : c.Alike c') (path key : Text) {v v' : Json} (hv : v.Alike v') :
    Together Eq Alike (c.writeKey path key v) (c'.writeKey path key v') := by
  rcases (h.data? path).cases with
    ⟨data, data', c₁, c₁', hx, hx', hdata, h₁⟩ | ⟨f, c₁, c₁', hx, hx', h₁⟩
  · have hbody := body_of_alike hdata c₁.fresh key hv
    rcases (h₁.server.write path hbody).cases with
      ⟨_, _, s, s', hy, hy', -, hs⟩ | ⟨f, s, s', hy, hy', hs⟩
    · simp only [Connection.writeKey, hx, hx', ← h₁.fresh_eq, hy, hy']
      exact .ok rfl ⟨hs, rfl⟩
    · simp only [Connection.writeKey, hx, hx', ← h₁.fresh_eq, hy, hy']
      exact .error _ ⟨hs, rfl⟩
  · simp only [Connection.writeKey, hx, hx']
    exact .error _ h₁

end Connection

/-- Clients to which it makes no difference which texts are kept: those of servers that are alike,
and all stores in memory, which take everything. -/
inductive Client.Alike : Client → Client → Prop where
  | memory (store store' : Store) (received received' : List KeyRequest) :
      Client.Alike (.memory store received) (.memory store' received')
  | remote {c c' : Connection} (h : c.Alike c') : Client.Alike (.remote c) (.remote c')

theorem Client.Alike.refl (c : Client) : c.Alike c := by
  cases c with
  | memory => exact .memory _ _ _ _
  | remote c => exact .remote ⟨.refl _, rfl⟩

theorem Client.Alike.write {c c' : Client} (h : c.Alike c') (path key : Text) {v v' : Json}
    (hv : v.Alike v') :
    Together Eq Client.Alike (c.write path key v) (c'.write path key v') := by
  cases h with
  | memory => exact .ok rfl (.memory _ _ _ _)
  | @remote c c' h =>
      rcases (h.writeKey path key hv).cases with
        ⟨_, _, c₁, c₁', hx, hx', -, h₁⟩ | ⟨f, c₁, c₁', hx, hx', h₁⟩
      · simp only [Client.write, hx, hx']
        exact .ok rfl (.remote h₁)
      · simp only [Client.write, hx, hx']
        exact .error _ (.remote h₁)

/-- Payloads of declarations with the same path and the same key. -/
structure SameLocation (p p' : Text) : Prop where
  length_left : (p.split '#').length = 3
  length_right : (p'.split '#').length = 3
  path_eq : (Entry.ofPayload p).path = (Entry.ofPayload p').path
  key_eq : (Entry.ofPayload p).key = (Entry.ofPayload p').key

end Vault

/-- **Keeping a declaration goes the same way whatever its value is.** -/
theorem Family.goesAlike_keeping :
    Splicing.GoesAlike keeping Vault.SameLocation fun w w' => w.vault.Alike w'.vault := by
  intro p p' w w' hp hw
  rw [keeping_of_length_split hp.length_left, keeping_of_length_split hp.length_right]
  have hwrite := hw.write (Vault.Entry.ofPayload p').path (Vault.Entry.ofPayload p').key
    (.text (Vault.Entry.ofPayload p).value (Vault.Entry.ofPayload p').value)
  simp only [Vault.Client.writeEntry, Vault.Entry.location, hp.path_eq, hp.key_eq]
  rcases hwrite.cases with ⟨_, _, c, c', hx, hx', -, hc⟩ | ⟨f, c, c', hx, hx', hc⟩
  · rw [hx, hx']
    exact .ok rfl hc
  · rw [hx, hx']
    exact .error _ hc

/-! ### Texts that are the same outside envelopes -/

/-- The same characters between two offsets make the same slice. -/
theorem Text.slice_congr {t t' : Text} (hlen : t.length = t'.length) {i j : Nat}
    (hi : i ≤ t.length) (hj : j ≤ t.length) (h : ∀ n, i ≤ n → n < j → t[n]? = t'[n]?) :
    t.slice i j = t'.slice i j := by
  rw [slice_natCast t hi hj, slice_natCast t' (hlen ▸ hi) (hlen ▸ hj)]
  refine List.ext_getElem? fun n => ?_
  rw [List.getElem?_drop, List.getElem?_drop, List.getElem?_take, List.getElem?_take]
  split
  · exact h _ (Nat.le_add_right i n) ‹_›
  · rfl

namespace Splicing

/-- **What stands outside the envelopes decides what comes out,** together with what takes their
places; here for what lies behind an offset. -/
theorem substituteFrom_congr {t t' : Text} (hlen : t.length = t'.length) {ks : List Span}
    {rs : List Text} (hrs : rs.length = ks.length) (hfits : ∀ k ∈ ks, k.Fits t)
    (hord : ks.Pairwise Span.Precedes) {i : Nat} (hi : i ≤ t.length)
    (hle : ∀ k ∈ ks, (i : Int) ≤ k.envelopeStart)
    (h : ∀ n : Nat, i ≤ n → (∀ k ∈ ks, ¬(k.envelopeStart ≤ n ∧ n < k.envelopeEnd)) →
      t[n]? = t'[n]?) :
    substituteFrom t i (ks.zip rs) = substituteFrom t' i (ks.zip rs) := by
  induction ks generalizing rs i with
  | nil =>
      rw [List.zip_nil_left, substituteFrom, substituteFrom, ← hlen]
      exact Text.slice_congr hlen hi (Nat.le_refl _) fun n hn _ => h n hn (by simp)
  | cons k ks ih =>
      cases rs with
      | nil => cases hrs
      | cons r rs =>
          obtain ⟨hk, hfits'⟩ := List.forall_mem_cons.1 hfits
          obtain ⟨hprec, hord'⟩ := List.pairwise_cons.1 hord
          obtain ⟨a, b, c, d, rfl, hab, hbc, hcd, hd⟩ := hk.exists_nat
          have hia : i ≤ a := Int.ofNat_le.1 (hle _ List.mem_cons_self)
          rw [List.zip_cons_cons, substituteFrom, substituteFrom]
          congr 1
          · congr 1
            refine Text.slice_congr hlen hi (by omega) fun n hn hna => h n hn fun l hl => ?_
            rcases List.mem_cons.1 hl with rfl | hl
            · exact fun hin => absurd (Int.ofNat_le.1 hin.1) (by omega)
            · have hdl : (d : Int) ≤ l.envelopeStart := hprec l hl
              omega
          · refine ih (Nat.succ.inj hrs) hfits' hord' hd hprec fun n hn hout => h n (by omega) ?_
            refine List.forall_mem_cons.2 ⟨?_, hout⟩
            rintro ⟨-, hnd⟩
            have hnd : n < d := Int.ofNat_lt.1 hnd
            omega

/-- Replacements that do not depend on what was there. -/
theorem replacements_eq_zip (g : Text → Text) (t : Text) (ks : List Span) (rs : List Text) :
    replacements (fun r _ _ => g r) t ks rs = ks.zip (rs.map g) := by
  rw [replacements, List.zip, List.zipWith_map_right]

/-- One result for each payload. -/
theorem length_of_transformAll_eq_ok {σ ε : Type} {f : Transform σ ε} {ps rs : List Text}
    {s s' : σ} (h : transformAll f ps s = (.ok rs, s')) : rs.length = ps.length := by
  induction ps generalizing rs s with
  | nil =>
      cases h
      rfl
  | cons p ps ih =>
      obtain ⟨r, s₁, rs', -, hps, rfl⟩ := transformAll_cons_eq_ok_iff.1 h
      rw [List.length_cons, List.length_cons, ih hps]

end Splicing

/-! ### Engines that go the same way -/

namespace Engine

open Splicing

variable {σ ε : Type} {e : Engine σ ε} {wrapTokens : Bool} {place : Placing}
  {P : Text → Text → Prop} {S : σ → σ → Prop} {t t' : Text} {ks : List Span} {s s' : σ}

/-- **Engines that go the same way fail at the same token.**  In two texts with tokens at the same
spans, whose payloads make no difference to the transformation, an engine gets the same results for
all of them, or it fails for the same one and for the same reason. -/
theorem run_of_goesAlike (hplace : e.placing? wrapTokens = some place)
    (hf : GoesAlike e.transform P S) (hlocate : e.locate t = .ok ks)
    (hlocate' : e.locate t' = .ok ks) (hfits : ∀ k ∈ ks, k.Fits t) (hfits' : ∀ k ∈ ks, k.Fits t')
    (hord : ks.Pairwise Span.Precedes) (hP : ∀ k ∈ ks, P (k.payload t) (k.payload t'))
    (hs : S s s') :
    (∃ rs s₁ s₁', rs.length = ks.length ∧ S s₁ s₁' ∧
      e.run wrapTokens t s = (.ok (substitute t (replacements place t ks rs)), s₁) ∧
      e.run wrapTokens t' s' = (.ok (substitute t' (replacements place t' ks rs)), s₁')) ∨
    ∃ k ∈ ks, ∃ c s₁ s₁', S s₁ s₁' ∧
      e.run wrapTokens t s =
        (.error (.transforming e.action e.family (k.payload t) k.envelopeStart c), s₁) ∧
      e.run wrapTokens t' s' =
        (.error (.transforming e.action e.family (k.payload t') k.envelopeStart c), s₁') := by
  have hpayloads : ∀ ls : List Span, (∀ k ∈ ls, k ∈ ks) →
      List.Forall₂ P (ls.map (Span.payload · t)).reverse (ls.map (Span.payload · t')).reverse := by
    intro ls hls
    rw [List.forall₂_reverse_iff, List.forall₂_map_left_iff, List.forall₂_map_right_iff,
      List.forall₂_same]
    exact fun k hk => hP k (hls k hk)
  rcases hall : transformAll e.transform (ks.map (Span.payload · t)).reverse s with ⟨c | rs, s₁⟩
  · obtain ⟨front, k, back, rs, s₂, rfl, hback, hk, hrun⟩ :=
      exists_run_eq_error_of_placing? hplace hlocate hfits hord hall
    have hmem : k ∈ front ++ k :: back := List.mem_append_right _ List.mem_cons_self
    -- in the other text, too, the payloads behind `k` are transformed, and the one at `k` is not
    obtain ⟨s₂', hs₂, hback'⟩ := hf.transformAll (hpayloads back fun l hl =>
      List.mem_append_right _ (List.mem_cons_of_mem _ hl)) hs hback
    rcases (hf (hP k hmem) hs₂).cases with ⟨_, _, _, _, hx, -⟩ | ⟨c', _, s₁', hx, hk', hs₁⟩
    · cases hk.symm.trans hx
    · cases hk.symm.trans hx
      exact .inr ⟨k, hmem, c, s₁, s₁', hs₁, hrun,
        run_eq_error_of_placing? hplace hlocate' hfits' hord hback' hk'⟩
  · obtain ⟨s₁', hs₁, hall'⟩ := hf.transformAll (hpayloads ks fun _ hk => hk) hs hall
    have hlen := length_of_transformAll_eq_ok hall
    rw [List.length_reverse, List.length_map] at hlen
    rw [← List.reverse_reverse rs] at hall hall'
    exact .inl ⟨rs.reverse, s₁, s₁', by rw [List.length_reverse, hlen], hs₁,
      run_eq_of_placing? hplace hlocate hfits hord hall,
      run_eq_of_placing? hplace hlocate' hfits' hord hall'⟩

end Engine

/-! ### Texts that differ in values -/

namespace Vault

/-- The value of the declaration at a span of a text takes up an offset: what stands behind
`path#key#`, up to the end of the payload. -/
def HoldsValueAt (k : Span) (t : Text) (i : Nat) : Prop :=
  k.payloadStart + (Entry.ofPayload (k.payload t)).location.length + 1 ≤ i ∧ i < k.payloadEnd

instance (k : Span) (t : Text) (i : Nat) : Decidable (HoldsValueAt k t i) :=
  inferInstanceAs (Decidable (_ ∧ _))

/-- **Texts that differ in the values of declarations only:** declarations are located at the same
spans, with the same paths and keys, and all characters are the same but those of values. -/
structure DifferInValues (t t' : Text) : Prop where
  spans_eq : Shape.declaration.spans t = Shape.declaration.spans t'
  path_eq : ∀ k ∈ Shape.declaration.spans t,
    (Entry.ofPayload (k.payload t)).path = (Entry.ofPayload (k.payload t')).path
  key_eq : ∀ k ∈ Shape.declaration.spans t,
    (Entry.ofPayload (k.payload t)).key = (Entry.ofPayload (k.payload t')).key
  outside : ∀ i : Nat, (∀ k ∈ Shape.declaration.spans t, ¬HoldsValueAt k t i) → t[i]? = t'[i]?

namespace DifferInValues

open Splicing

variable {t t' : Text}

theorem sameLocation (h : DifferInValues t t') {k : Span} (hk : k ∈ Shape.declaration.spans t) :
    SameLocation (k.payload t) (k.payload t') where
  length_left := ((Reference.allLocated_scan ⟨declarationMarker, 2⟩ t).parts_payload k hk).1
  length_right := by
    rw [h.spans_eq] at hk
    exact ((Reference.allLocated_scan ⟨declarationMarker, 2⟩ t').parts_payload k hk).1
  path_eq := h.path_eq k hk
  key_eq := h.key_eq k hk

/-- All characters outside of envelopes are the same. -/
theorem outside_envelopes (h : DifferInValues t t') {i : Nat}
    (hi : ∀ k ∈ Shape.declaration.spans t, ¬(k.envelopeStart ≤ i ∧ i < k.envelopeEnd)) :
    t[i]? = t'[i]? := by
  refine h.outside i fun k hk hin => hi k hk ?_
  have hfits := (Shape.declaration.fits_spans t).1 k hk
  have hstart := hfits.start_le_payload
  have hend := hfits.payload_le_end
  obtain ⟨hle, hlt⟩ := hin
  omega

theorem length_eq (h : DifferInValues t t') : t.length = t'.length := by
  have hfits := (Shape.declaration.fits_spans t).1
  have hfits' := (Shape.declaration.fits_spans t').1
  -- behind the end of either text there is no envelope
  have hsame : t[min t.length t'.length]? = t'[min t.length t'.length]? := by
    refine h.outside_envelopes fun k hk hin => ?_
    have hend := (hfits k hk).end_le_length
    have hend' := (hfits' k (h.spans_eq ▸ hk)).end_le_length
    omega
  rcases Nat.le_total t.length t'.length with hle | hle
  · rw [Nat.min_eq_left hle, List.getElem?_eq_none (Nat.le_refl _)] at hsame
    exact Nat.le_antisymm hle (List.getElem?_eq_none_iff.1 hsame.symm)
  · rw [Nat.min_eq_right hle, List.getElem?_eq_none (Nat.le_refl t'.length)] at hsame
    exact Nat.le_antisymm (List.getElem?_eq_none_iff.1 hsame) hle

/-- What takes the places of declarations makes the same of both texts. -/
theorem substitute_eq (h : DifferInValues t t') (g : Text → Text) {rs : List Text}
    (hrs : rs.length = (Shape.declaration.spans t).length) :
    substitute t (replacements (fun r _ _ => g r) t (Shape.declaration.spans t) rs) =
      substitute t' (replacements (fun r _ _ => g r) t' (Shape.declaration.spans t) rs) := by
  obtain ⟨hfits, hord⟩ := Shape.declaration.fits_spans t
  rw [replacements_eq_zip, replacements_eq_zip]
  exact substituteFrom_congr h.length_eq ((List.length_map g).trans hrs) hfits hord
    (Nat.zero_le _) (fun k hk => (hfits k hk).start_nonneg) fun n _ hn => h.outside_envelopes hn

end DifferInValues

end Vault

namespace Tool

open Splicing

variable {t t' : Text}

/-- Redacting goes the same way in two texts that differ in values only, with vaults that are
alike. -/
theorem exists_run_redact_of_alike (wrapTokens : Bool) (h : Vault.DifferInValues t t')
    {w w' : World} (hw : w.vault.Alike w'.vault) :
    (∃ r w₁ w₁', w₁.vault.Alike w₁'.vault ∧
      (ofParts none true).run .redact wrapTokens t w = (.ok r, w₁) ∧
      (ofParts none true).run .redact wrapTokens t' w' = (.ok r, w₁')) ∨
    ∃ (p p' : Text) (i : Int) (c : Cause) (w₁ w₁' : World), w₁.vault.Alike w₁'.vault ∧
      (ofParts none true).run .redact wrapTokens t w =
        (.error (.transforming .redact "vault".toList p i c), w₁) ∧
      (ofParts none true).run .redact wrapTokens t' w' =
        (.error (.transforming .redact "vault".toList p' i c), w₁') := by
  obtain ⟨e, he, hlocate, htransform, hplace⟩ := exists_engine_keeping wrapTokens
  obtain ⟨haction, hfamily⟩ : e.action = .redact ∧ e.family = "vault".toList := by
    cases he
    exact ⟨rfl, rfl⟩
  obtain ⟨hfits, hord⟩ := Shape.declaration.fits_spans t
  have hfits' := (Shape.declaration.fits_spans t').1
  rw [← h.spans_eq] at hfits'
  rw [ofParts_vault, run_singleton he, run_singleton he]
  rcases Engine.run_of_goesAlike hplace (htransform ▸ Family.goesAlike_keeping) (hlocate t)
      (h.spans_eq ▸ hlocate t') hfits hfits' hord (fun k hk => h.sameLocation hk) hw with
    ⟨rs, w₁, w₁', hlen, hw₁, hrun, hrun'⟩ | ⟨k, -, c, w₁, w₁', hw₁, hrun, hrun'⟩
  · refine .inl ⟨_, w₁, w₁', hw₁, hrun, ?_⟩
    rw [hrun', h.substitute_eq (fun r => (Token.mk lookupMarker r []).envelope) hlen]
  · rw [haction, hfamily] at hrun hrun'
    exact .inr ⟨_, _, _, c, w₁, w₁', hw₁, hrun, hrun'⟩

/-- **Redacting with a vault says nothing about values.**  Two texts that differ in the values of
declarations only are redacted, with the same vault: either both redactions succeed and yield the
same text, or both fail with the same message. -/
theorem run_redact_of_differInValues (wrapTokens : Bool) (h : Vault.DifferInValues t t')
    (w : World) :
    (∃ r w₁ w₁', (ofParts none true).run .redact wrapTokens t w = (.ok r, w₁) ∧
      (ofParts none true).run .redact wrapTokens t' w = (.ok r, w₁')) ∨
    ∃ f f' w₁ w₁', (ofParts none true).run .redact wrapTokens t w = (.error f, w₁) ∧
      (ofParts none true).run .redact wrapTokens t' w = (.error f', w₁') ∧
      f.message Cause.message = f'.message Cause.message := by
  rcases exists_run_redact_of_alike wrapTokens h (Vault.Client.Alike.refl w.vault) with
    ⟨r, w₁, w₁', -, hrun, hrun'⟩ | ⟨p, p', i, c, w₁, w₁', -, hrun, hrun'⟩
  · exact .inl ⟨r, w₁, w₁', hrun, hrun'⟩
  · -- the words of the failure name the offset, and not the payload
    exact .inr ⟨_, _, w₁, w₁', hrun, hrun', rfl⟩

/-- Declarations of keys that have a meaning for the layout of a path, behind one for a path that
cannot be written. -/
def meaningful (value : String) : Text :=
  ("vault-secret:q#k#" ++ value ++ " vault-secret:p#metadata#" ++ value ++
    ", vault-secret:p#data#" ++ value).toList

theorem run_redact_of_differInValues_meaningful :
    Vault.DifferInValues (meaningful "a") (meaningful "b") ∧
    ∃ f f' w₁ w₁', (ofParts none true).run .redact false (meaningful "a") Engine.refusing =
        (.error f, w₁) ∧
      (ofParts none true).run .redact false (meaningful "b") Engine.refusing = (.error f', w₁') ∧
      f.message Cause.message = f'.message Cause.message := by
  have hdiffer : Vault.DifferInValues (meaningful "a") (meaningful "b") := by
    refine ⟨by decide +kernel, by decide +kernel, by decide +kernel, fun i => ?_⟩
    rcases Nat.lt_or_ge i 100 with hi | hi
    · revert i
      decide +kernel
    · intro _
      rw [List.getElem?_eq_none, List.getElem?_eq_none]
      · exact Nat.le_trans (by decide +kernel) hi
      · exact Nat.le_trans (by decide +kernel) hi
  refine ⟨hdiffer, ?_⟩
  rcases run_redact_of_differInValues false hdiffer Engine.refusing with ⟨r, w₁, w₁', hrun, -⟩ | h
  · -- the path `q` is refused
    have hfails : ((ofParts none true).run .redact false (meaningful "a")
        Engine.refusing).1.toOption = none := by decide +kernel
    rw [hrun] at hfails
    cases hfails
  · exact h

end Tool

end InlineSecrets
