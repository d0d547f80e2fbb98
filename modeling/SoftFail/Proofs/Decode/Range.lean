import SoftFail.Decode.Skip
import SoftFail.Proofs.Decode.Kinds

/-! What readers give when all integers of a document fit into 64 bits with their sign. -/

namespace SoftFail

open Decode

def Decode.Kind.Signed (k : Kind) : Prop :=
  ∀ i skipped, k = .number (.ok (.integer i)) skipped → isSigned64 i = true

theorem Decode.forall_mem_separated {p : Kind → Prop} (hcomma : p .comma) {kss : List (List Kind)}
    (h : ∀ ks ∈ kss, ∀ k ∈ ks, p k) (first : Bool) : ∀ k ∈ separated first kss, p k := by
  induction kss generalizing first with
  | nil => exact fun _ hk => absurd hk List.not_mem_nil
  | cons ks kss ih =>
    obtain ⟨hks, hkss⟩ := List.forall_mem_cons.1 h
    refine List.forall_mem_append.2 ⟨?_, List.forall_mem_append.2 ⟨hks, ih hkss false⟩⟩
    cases first
    · exact List.forall_mem_singleton.2 hcomma
    · exact fun _ hk => absurd hk List.not_mem_nil

theorem Value.Signed.kinds {v : Value} (h : v.Signed) : ∀ k ∈ v.kinds, k.Signed := by
  have hother {k : Kind} (hk : ∀ n skipped, k ≠ .number n skipped) : k.Signed :=
    fun i skipped heq => absurd heq (hk _ skipped)
  induction h with
  | null | boolean | text => exact List.forall_mem_singleton.2 (hother (by simp [Token.bare]))
  | @integer i h =>
    refine List.forall_mem_singleton.2 ?_
    rintro _ _ ⟨⟩
    exact h
  | float =>
    refine List.forall_mem_singleton.2 ?_
    rintro _ _ ⟨⟩
  | list _ ih =>
    rw [kinds_list]
    refine List.forall_mem_cons.2 ⟨hother (by simp), List.forall_mem_append.2
      ⟨forall_mem_separated (hother (by simp)) (List.forall_mem_map.2 ih) true,
        List.forall_mem_singleton.2 (hother (by simp))⟩⟩
  | record _ ih =>
    rw [kinds_record]
    refine List.forall_mem_cons.2 ⟨hother (by simp), List.forall_mem_append.2
      ⟨forall_mem_separated (hother (by simp)) (List.forall_mem_map.2 fun f hf => ?_) true,
        List.forall_mem_singleton.2 (hother (by simp))⟩⟩
    exact List.forall_mem_cons.2 ⟨hother (by simp), List.forall_mem_cons.2
      ⟨hother (by simp), ih f hf⟩⟩

namespace Decode

def Source.Signed (s : Source) : Prop := ∀ t ∈ s.tokens, t.kind.Signed

/-- Where all integers ahead are in range, they still are behind what the reader takes, and what it
gives satisfies `P`. -/
def Gives {α : Type} (r : Reader α) (P : α → Prop) : Prop :=
  ∀ s a s', s.Signed → r s = .ok a s' → s'.Signed ∧ P a

abbrev Passes {α : Type} (r : Reader α) : Prop := Gives r fun _ => True

namespace Gives

variable {α β σ : Type} {r : Reader α} {f : α → Reader β} {P : α → Prop} {R : β → Prop}

theorem pure {a : α} (h : P a) : Gives (Pure.pure a) P := by
  rintro s _ _ hs ⟨⟩
  exact ⟨hs, h⟩

theorem fail {e : Source → Fault} {g : Source → Source} :
    Gives (fun s => .error (e s) (g s)) P := by
  rintro _ _ _ _ ⟨⟩

theorem misfit (m : Misfit) : Gives (Reader.misfit m) P := .fail

theorem failAhead (f : Flaw) : Gives (Reader.failAhead f) P := .fail

theorem bind (h : Gives r P) (h' : ∀ a, P a → Gives (f a) R) : Gives (r >>= f) R := by
  intro s b s' hs hb
  change EStateM.bind r f s = _ at hb
  rw [EStateM.bind] at hb
  split at hb
  next a left ha =>
    obtain ⟨hleft, hP⟩ := h s a left hs ha
    exact h' a hP left b s' hleft hb
  next => cases hb

theorem after (h : Gives r P) (h' : ∀ a, Gives (f a) R) : Gives (r >>= f) R :=
  h.bind fun a _ => h' a

theorem giving {g : α → β} (h : Gives r P) (hg : ∀ a, P a → R (g a)) :
    Gives (do return g (← r)) R :=
  h.bind fun a ha => .pure (hg a ha)

theorem image {g : α → β} (h : Gives r P) (hg : ∀ a, P a → R (g a)) : Gives (g <$> r) R := by
  rw [map_eq_pure_bind]
  exact h.giving hg

theorem settled (h : Gives r P) : Gives (Reader.settled r) P := by
  intro s a s' hs ha
  rw [Reader.settled] at ha
  split at ha
  next b left hb =>
    cases ha
    exact h s a s' hs hb
  next => cases ha

theorem enclosed {close : Reader Unit} (h : Gives r P) (hclose : Passes close) :
    Gives (Reader.enclosed close r) P := by
  intro s a s' hs ha
  rw [Reader.enclosed] at ha
  split at ha
  next b left hb =>
    obtain ⟨hleft, hP⟩ := h s b left hs hb
    split at ha
    next hc =>
      cases ha
      exact ⟨(hclose left _ _ hleft hc).1, hP⟩
    next => cases ha
  next => split at ha <;> cases ha

theorem ite {p : Prop} [Decidable p] {r' : Reader α} (h : Gives r P) (h' : Gives r' P) :
    Gives (if p then r else r') P := by
  split
  · exact h
  · exact h'

/-! Single tokens. -/

theorem peek : Gives Reader.peek fun k => ∀ k' ∈ k, k'.Signed := by
  intro s k s' hs hk
  rw [Reader.peek] at hk
  split at hk
  next =>
    cases hk
    exact ⟨hs, fun _ hk' => nomatch hk'⟩
  next t tokens htokens =>
    cases hk
    refine ⟨hs, ?_⟩
    rintro _ ⟨⟩
    exact hs t (htokens ▸ List.mem_cons_self)

theorem peekValue : Gives Reader.peekValue Kind.Signed := by
  refine .bind .peek fun k hk => ?_
  cases k with
  | none => exact .failAhead _
  | some k => exact .pure (hk k rfl)

theorem advance : Passes Reader.advance := by
  intro s _ s' hs h
  rw [Reader.advance] at h
  split at h
  next =>
    cases h
    exact ⟨hs, trivial⟩
  next t tokens htokens =>
    cases h
    exact ⟨fun t' ht' => hs t' (htokens ▸ List.mem_cons_of_mem t ht'), trivial⟩

theorem lift (e : Except Fault α) : Gives (Reader.lift e) fun a => e = .ok a := by
  intro s a s' hs ha
  cases e with
  | ok b =>
    cases ha
    exact ⟨hs, rfl⟩
  | error f => cases ha

theorem wrongType (k : Kind) (expected : String) : Gives (Reader.wrongType k expected) P := by
  have hpassed (m : Misfit) : Gives (do Reader.advance; Reader.misfit m) P :=
    .after .advance fun _ => .misfit m
  cases k with
  | null | boolean => exact hpassed _
  | number | text => exact .after (.lift _) fun _ => hpassed _
  | openList | openRecord => exact .misfit _
  | broken => exact .fail
  | closeList | closeRecord | comma | colon | stray => exact .failAhead _

theorem boolean : Passes Reader.boolean := by
  refine .settled (.bind .peekValue fun k _ => ?_)
  cases k with
  | boolean b => exact .after .advance fun _ => .pure trivial
  | _ => exact .wrongType _ _

theorem text : Passes Reader.text := by
  refine .settled (.bind .peekValue fun k _ => ?_)
  cases k with
  | text s _ => exact .bind (.lift s) fun _ _ => .after .advance fun _ => .pure trivial
  | _ => exact .wrongType _ _

theorem natural (bound : Nat) (expected : String) :
    Gives (Reader.natural bound expected) (· < bound63) := by
  refine .settled (.bind .peekValue fun k hk => ?_)
  cases k with
  | number n skipped =>
    refine .bind (.lift n) fun n hn => .after .advance fun _ => ?_
    cases hn
    match n with
    | .integer (.ofNat n) =>
      -- The bound of the type asked for does not matter: the document has none that is larger.
      exact .ite (.pure (isSigned64_natCast_iff.1 (hk n skipped rfl))) (.misfit _)
    | .integer (.negSucc n) => exact .misfit _
    | .float x => exact .misfit _
  | _ => exact .wrongType _ _

theorem float : Passes Reader.float := by
  refine .settled (.bind .peekValue fun k _ => ?_)
  cases k with
  | number n _ =>
    refine .bind (.lift n) fun n _ => .after .advance fun _ => ?_
    cases n <;> exact .pure trivial
  | _ => exact .wrongType _ _

theorem option (h : Gives r P) : Gives (Reader.option r) fun o => ∀ a ∈ o, P a := by
  refine .after .peek fun k => ?_
  split
  · exact .after .advance fun _ => .pure fun _ ha => nomatch ha
  · exact h.image fun a ha => by simpa using ha

/-! Lists. -/

theorem hasItem (first : Bool) : Passes (Reader.hasItem first) := by
  refine .after .peek fun k => ?_
  split
  · exact .failAhead _
  · exact .pure trivial
  · refine .ite (.pure trivial) ?_
    split
    · refine .after .advance fun _ => .after .peek fun k => ?_
      split
      · exact .failAhead _
      · exact .pure trivial
      · exact .failAhead _
    · exact .failAhead _

theorem endList : Passes Reader.endList := by
  refine .after .peek fun k => ?_
  split
  · exact .advance
  · refine .after .advance fun _ => .after .peek fun k => ?_
    split <;> exact .failAhead _
  · exact .failAhead _
  · exact .failAhead _

theorem item? (h : Gives r P) (first : Bool) :
    Gives (Reader.item? first r) fun o => ∀ a ∈ o, P a := by
  refine .after (.hasItem first) fun more => .ite (h.image fun a ha => ?_) (.pure ?_)
  · simpa using ha
  · exact fun _ ha => nomatch ha

theorem itemsFrom (h : Gives r P) (fuel : Nat) (first : Bool) {done : List α}
    (hdone : ∀ a ∈ done, P a) :
    Gives (Reader.itemsFrom r fuel first done) fun as => ∀ a ∈ as, P a := by
  have hreverse : ∀ a ∈ done.reverse, P a := fun a ha => hdone a (List.mem_reverse.1 ha)
  induction fuel generalizing first done with
  | zero => exact .pure hreverse
  | succ fuel ih =>
    refine .bind (.item? h first) fun o ho => ?_
    cases o with
    | none => exact .pure hreverse
    | some a =>
      have hmore := List.forall_mem_cons.2 ⟨ho a rfl, hdone⟩
      exact ih false hmore fun b hb => hmore b (List.mem_reverse.1 hb)

theorem list (h : Gives r P) : Gives (Reader.list r) fun as => ∀ a ∈ as, P a := by
  refine .settled (.bind .peekValue fun k _ => ?_)
  cases k with
  | openList =>
    refine .after .advance fun _ => .enclosed ?_ .endList
    intro s as s' hs has
    exact itemsFrom h _ true (List.forall_mem_nil P) s as s' hs has
  | _ => exact .wrongType _ _

/-! Records. -/

theorem hasField (first : Bool) : Passes (Reader.hasField first) := by
  refine .after .peek fun k => ?_
  split
  · exact .failAhead _
  · exact .pure trivial
  · refine .ite ?_ ?_
    · split
      · exact .pure trivial
      · exact .failAhead _
    · split
      · refine .after .advance fun _ => .after .peek fun k => ?_
        split
        · exact .pure trivial
        · exact .failAhead _
        · exact .failAhead _
        · exact .failAhead _
      · exact .failAhead _

theorem key : Passes Reader.key := by
  refine .after .peek fun k => ?_
  split
  · exact .after (.lift _) fun _ => .after .advance fun _ => .pure trivial
  · exact .failAhead _

theorem colon : Passes Reader.colon := by
  refine .after .peek fun k => ?_
  split
  · exact .advance
  · exact .failAhead _
  · exact .failAhead _

theorem member (h : Gives r P) : Gives (Reader.member r) P := .after .colon fun _ => h

theorem endRecord : Passes Reader.endRecord := by
  refine .after .peek fun k => ?_
  split
  · exact .advance
  · exact .failAhead _
  · exact .failAhead _
  · exact .failAhead _

theorem once (seen : List String) (name : String) : Passes (Reader.once seen name) :=
  .ite (.misfit _) (.pure trivial)

theorem require (seen : List String) (name : String) : Passes (Reader.require seen name) :=
  .ite (.pure trivial) (.misfit _)

variable {S : σ → Prop} {step : σ → String → Reader σ} {st : σ}

theorem fieldsFrom (h : ∀ st name, S st → Gives (step st name) S) (fuel : Nat) (first : Bool)
    (hst : S st) : Gives (Reader.fieldsFrom step fuel first st) S := by
  induction fuel generalizing first st with
  | zero => exact .pure hst
  | succ fuel ih =>
    refine .after (.hasField first) fun more => .ite ?_ (.pure hst)
    exact .after .key fun name => .bind (h st name hst) fun st' hst' => ih false hst'

theorem fields (h : ∀ st name, S st → Gives (step st name) S) (hst : S st) :
    Gives (Reader.fields step st) S :=
  fun s => fieldsFrom h _ true hst s

theorem record {ofList ofFields : Reader α} (hlist : Gives ofList P) (hfields : Gives ofFields P)
    (expected : String) : Gives (Reader.record expected ofList ofFields) P := by
  refine .settled (.bind .peekValue fun k _ => ?_)
  cases k with
  | openList => exact .after .advance fun _ => .enclosed hlist .endList
  | openRecord => exact .after .advance fun _ => .enclosed hfields .endRecord
  | _ => exact .wrongType _ _

theorem itemAt (h : Gives r P) (i : Nat) (expected : String) :
    Gives (Reader.itemAt i expected r) P := by
  refine .bind (.item? h _) fun o ho => ?_
  cases o with
  | some a => exact .pure (ho a rfl)
  | none => exact .misfit _

/-! Values that nobody asks for. -/

theorem skipFrom_suffix {size : Nat} {expect : Reader.Expect} {frames : List Reader.Frame}
    {tokens left : List Token} {offset : Nat}
    (h : Reader.skipFrom size expect frames tokens = .ok (left, offset)) : left <:+ tokens := by
  induction tokens generalizing expect frames with
  | nil => cases h
  | cons t tokens ih =>
    rw [Reader.skipFrom] at h
    split at h
    · cases h
    · cases h
      exact List.suffix_cons t _
    · exact (ih h).trans (List.suffix_cons t tokens)

theorem skip : Passes Reader.skip := by
  intro s _ s' hs h
  rw [Reader.skip] at h
  split at h
  next tokens offset hskip =>
    cases h
    exact ⟨fun t ht => hs t ((skipFrom_suffix hskip).mem ht), trivial⟩
  next => cases h

theorem run {v : Value} {a : α} (h : Gives r P) (hv : v.Signed) (offset size : Nat)
    (hrun : r.run ⟨valueTokens v [], offset, size⟩ = .ok a) : P a := by
  have hs : Source.Signed ⟨valueTokens v [], offset, size⟩ :=
    fun t ht => hv.kinds t.kind (List.mem_map_of_mem ht)
  rw [Reader.run] at hrun
  split at hrun
  next b s' hb =>
    cases hrun
    exact (h _ a s' hs hb).2
  next => cases hrun

end Gives

end Decode

end SoftFail
