import SoftFail.Decode.Reader
import SoftFail.Proofs.Decode.Kinds

/-! What readers take: the kinds of the tokens that a reader passes when it gives a result. -/

namespace SoftFail.Decode

/-- In front of tokens of the kinds `taken`, behind which those of the kinds `ahead` follow, the
reader passes exactly the former and gives `a`. -/
def Takes {α : Type} (r : Reader α) (taken ahead : List Kind) (a : α) : Prop :=
  ∀ front rest offset size, front.map Token.kind = taken → ahead <+: rest.map Token.kind →
    ∃ offset', r ⟨front ++ rest, offset, size⟩ = .ok a ⟨rest, offset', size⟩

namespace Takes

variable {α β σ : Type} {r : Reader α} {f : α → Reader β} {a : α} {b : β}
variable {k : Kind} {ks ks' ahead : List Kind}

theorem pure (a : α) (ahead : List Kind) : Takes (Pure.pure a) [] ahead a := by
  intro front rest offset size hfront _
  rw [List.map_eq_nil_iff.1 hfront]
  exact ⟨offset, rfl⟩

theorem exists_eq_ok (h : Takes r ks (ks' ++ ahead) a) {front rest : List Token}
    (hfront : front.map Token.kind = ks ++ ks') (hrest : ahead <+: rest.map Token.kind)
    (offset size : Nat) :
    ∃ left offset', left.map Token.kind = ks' ∧
      r ⟨front ++ rest, offset, size⟩ = .ok a ⟨left ++ rest, offset', size⟩ := by
  obtain ⟨first, left, rfl, hfirst, hleft⟩ := List.map_eq_append_iff.1 hfront
  have hnext : ks' ++ ahead <+: (left ++ rest).map Token.kind := by
    rwa [List.map_append, hleft, List.prefix_append_right_inj]
  obtain ⟨offset', hr⟩ := h first (left ++ rest) offset size hfirst hnext
  rw [← List.append_assoc] at hr
  exact ⟨left, offset', hleft, hr⟩

theorem bind (h : Takes r ks (ks' ++ ahead) a) (h' : Takes (f a) ks' ahead b) :
    Takes (r >>= f) (ks ++ ks') ahead b := by
  intro front rest offset size hfront hrest
  obtain ⟨left, offset₁, hleft, h₁⟩ := h.exists_eq_ok hfront hrest offset size
  obtain ⟨offset₂, h₂⟩ := h' left rest offset₁ size hleft hrest
  refine ⟨offset₂, ?_⟩
  change EStateM.bind r f _ = _
  rw [EStateM.bind, h₁]
  exact h₂

theorem mono (h : Takes r ks ahead a) (more : List Kind) : Takes r ks (ahead ++ more) a := by
  intro front rest offset size hfront hrest
  exact h front rest offset size hfront ((List.prefix_append ahead more).trans hrest)

theorem mono_nil (h : Takes r ks [] a) (ahead : List Kind) : Takes r ks ahead a := h.mono ahead

theorem look (h : Takes r [] (ks ++ ahead) a) (h' : Takes (f a) ks ahead b) :
    Takes (r >>= f) ks ahead b := h.bind h'

theorem next (h : Takes r [k] [] a) (h' : Takes (f a) ks ahead b) :
    Takes (r >>= f) (k :: ks) ahead b := (h.mono_nil _).bind h'

theorem last (h : Takes r ks ahead a) (h' : Takes (f a) [] ahead b) :
    Takes (r >>= f) ks ahead b := by
  rw [← List.append_nil ks]
  exact .bind h h'

theorem giving (h : Takes r ks ahead a) (g : α → β) : Takes (do return g (← r)) ks ahead (g a) :=
  h.last (.pure _ _)

theorem image (h : Takes r ks ahead a) (g : α → β) : Takes (g <$> r) ks ahead (g a) := by
  rw [map_eq_pure_bind]
  exact h.giving g

theorem settled (h : Takes r ks ahead a) : Takes (Reader.settled r) ks ahead a := by
  intro front rest offset size hfront hrest
  obtain ⟨offset', hr⟩ := h front rest offset size hfront hrest
  exact ⟨offset', by rw [Reader.settled, hr]⟩

theorem enclosed {close : Reader Unit} (h : Takes r ks (ks' ++ ahead) a)
    (hclose : Takes close ks' ahead ()) :
    Takes (Reader.enclosed close r) (ks ++ ks') ahead a := by
  intro front rest offset size hfront hrest
  obtain ⟨left, offset₁, hleft, h₁⟩ := h.exists_eq_ok hfront hrest offset size
  obtain ⟨offset₂, h₂⟩ := hclose left rest offset₁ size hleft hrest
  refine ⟨offset₂, ?_⟩
  rw [Reader.enclosed, h₁]
  simp only [h₂]

/-! Single tokens. -/

theorem peek (k : Kind) (ahead : List Kind) :
    Takes Reader.peek [] (k :: ahead) (some k) := by
  intro front rest offset size hfront hrest
  rw [List.map_eq_nil_iff.1 hfront]
  cases rest with
  | nil => simp at hrest
  | cons t rest =>
    obtain ⟨rfl, _⟩ := List.cons_prefix_cons.1 hrest
    exact ⟨t.start, rfl⟩

theorem peekValue (k : Kind) (ahead : List Kind) : Takes Reader.peekValue [] (k :: ahead) k :=
  .look (.peek k _) (.pure k _)

theorem advance (k : Kind) : Takes Reader.advance [k] [] () := by
  intro front rest offset size hfront _
  obtain ⟨t, rfl, _⟩ := List.map_eq_singleton_iff.1 hfront
  exact ⟨t.stop, rfl⟩

theorem lift (a : α) (ahead : List Kind) : Takes (Reader.lift (.ok a)) [] ahead a :=
  Takes.pure a ahead

theorem textNamed {accept : String → Reader α} {s : String} (expected : String)
    (skipped : Option Fault) (h : Takes (accept s) [] [] a) :
    Takes (Reader.textNamed expected accept) [.text (.ok s) skipped] [] a :=
  .settled (.look (.peekValue _ _) (.look (.lift s _) (.next (.advance _) h)))

theorem text (s : String) (skipped : Option Fault) :
    Takes Reader.text [.text (.ok s) skipped] [] s :=
  .textNamed _ _ (.pure s _)

theorem natural {n bound : Nat} (h : n < bound) (expected : String) (skipped : Option Fault) :
    Takes (Reader.natural bound expected) [.number (.ok (.integer n)) skipped] [] n := by
  refine .settled (.look (.peekValue _ _) (.look (.lift _ _) (.next (.advance _) ?_)))
  change Takes (if n < bound then _ else _) _ _ _
  rw [if_pos h]
  exact .pure n _

theorem ofText (s : String) : Takes Reader.text (Value.text s).kinds [] s := by
  rw [Value.kinds_text]
  exact .text s none

theorem ofNatural {n bound : Nat} (h : n < bound) (expected : String) :
    Takes (Reader.natural bound expected) (Value.natural n).kinds [] n := by
  rw [Value.kinds_natural]
  exact .natural h expected none

theorem word16 (n : UInt16) (skipped : Option Fault) :
    Takes Reader.word16 [.number (.ok (.integer n.toNat)) skipped] [] n := by
  have hword := (Takes.natural n.toNat_lt "u16" skipped).giving UInt16.ofNat
  rwa [UInt16.ofNat_toNat] at hword

theorem boolean (b : Bool) : Takes Reader.boolean [.boolean b] [] b :=
  .settled (.look (.peekValue _ _) (.next (.advance _) (.pure b _)))

theorem float (x : Float) (skipped : Option Fault) :
    Takes Reader.float [.number (.ok (.float x)) skipped] [] x :=
  .settled (.look (.peekValue _ _) (.look (.lift _ _) (.next (.advance _) (.pure x _))))

theorem option (h : Takes r (k :: ks) ahead a) (hk : k ≠ .null) :
    Takes (Reader.option r) (k :: ks) ahead (some a) := by
  refine .look (.peek k _) ?_
  cases k <;> first | exact absurd rfl hk | exact h.image some

theorem ofOption {v : Value} (h : Takes r v.kinds ahead a) (hv : v ≠ .null) :
    Takes (Reader.option r) v.kinds ahead (some a) := by
  obtain ⟨k, ks, hkinds, -⟩ := v.exists_kinds_eq_cons
  have hk : k ≠ .null := by
    rintro rfl
    cases v <;> simp [Value.kinds, valueTokens, Token.bare] at hkinds hv
  rw [hkinds] at h ⊢
  exact h.option hk

/-! Lists. -/

theorem endList : Takes Reader.endList [.closeList] [] () := .look (.peek _ _) (.advance _)

theorem hasItem_false (first : Bool) : Takes (Reader.hasItem first) [] [.closeList] false :=
  .look (.peek _ _) (.pure _ _)

theorem hasItem_true (hk : k ≠ .closeList) (first : Bool) :
    Takes (Reader.hasItem first) (if first then [] else [.comma]) [k] true := by
  cases first with
  | true =>
    refine .look (.peek k _) ?_
    cases k <;> first | exact absurd rfl hk | exact .pure true _
  | false =>
    refine .look (.peek .comma _) (.next (.advance _) (.look (.peek k _) ?_))
    cases k <;> first | exact absurd rfl hk | exact .pure true _

theorem item? (h : Takes r (k :: ks) ahead a) (hk : k ≠ .closeList) (first : Bool) :
    Takes (Reader.item? first r) ((if first then [] else [.comma]) ++ (k :: ks)) ahead (some a) :=
  .bind ((hasItem_true hk first).mono _) (h.image some)

section Loops

variable {kinds : α → List Kind}

/-- A loop that may go round as often as there are tokens left goes round often enough. -/
theorem counted (loop : Nat → Reader α) {n : Nat} (hn : n ≤ ks.length)
    (h : ∀ fuel, n < fuel → Takes (loop fuel) ks ahead a) :
    Takes (do loop ((← get).tokens.length + 1)) ks ahead a := by
  intro front rest offset size hfront hrest
  refine h ((front ++ rest).length + 1) ?_ front rest offset size hfront hrest
  rw [← hfront, List.length_map] at hn
  rw [List.length_append]
  omega

theorem itemsFrom {items : List α} (hitem : ∀ a ∈ items, Takes r (kinds a) [] a)
    (hopen : ∀ a ∈ items, ∃ k ks, kinds a = k :: ks ∧ k ≠ .closeList) {fuel : Nat}
    (hfuel : items.length < fuel) (first : Bool) (done : List α) :
    Takes (Reader.itemsFrom r fuel first done) (separated first (items.map kinds)) [.closeList]
      (done.reverse ++ items) := by
  -- Each round uses up one unit of fuel and one item, and puts it in front of `done`.
  induction items generalizing fuel first done with
  | nil =>
    obtain ⟨fuel, rfl⟩ := Nat.exists_eq_add_one.2 hfuel
    rw [List.append_nil]
    exact .look (.look (.hasItem_false first) (.pure _ _)) (.pure _ _)
  | cons a items ih =>
    obtain ⟨fuel, rfl⟩ := Nat.exists_eq_add_one.2 (Nat.zero_lt_of_lt hfuel)
    obtain ⟨ha, hitems⟩ := List.forall_mem_cons.1 hitem
    obtain ⟨⟨k, ks, hks, hk⟩, hopens⟩ := List.forall_mem_cons.1 hopen
    have hrest := ih hitems hopens (Nat.lt_of_succ_lt_succ hfuel) false (a :: done)
    rw [List.reverse_cons, List.append_assoc] at hrest
    rw [hks] at ha
    rw [List.map_cons, separated, hks, ← List.append_assoc]
    exact .bind (.item? (ha.mono_nil _) hk first) hrest

theorem items {items : List α} (hitem : ∀ a ∈ items, Takes r (kinds a) [] a)
    (hopen : ∀ a ∈ items, ∃ k ks, kinds a = k :: ks ∧ k ≠ .closeList) :
    Takes (Reader.items r) (separated true (items.map kinds)) [.closeList] items := by
  have hlength : items.length ≤ (separated true (items.map kinds)).length := by
    refine length_le_separated (fun a ha => ?_) true
    obtain ⟨k, ks, hks, _⟩ := hopen a ha
    simp [hks]
  exact .counted (fun fuel => Reader.itemsFrom r fuel true []) hlength
    fun _ hfuel => .itemsFrom hitem hopen hfuel true []

theorem list {items : List α} (hitem : ∀ a ∈ items, Takes r (kinds a) [] a)
    (hopen : ∀ a ∈ items, ∃ k ks, kinds a = k :: ks ∧ k ≠ .closeList) :
    Takes (Reader.list r) (.openList :: (separated true (items.map kinds) ++ [.closeList])) []
      items :=
  .settled (.look (.peekValue _ _)
    (.next (.advance _) (.enclosed (.items hitem hopen) .endList)))

theorem ofList {toValue : α → Value} {items : List α}
    (h : ∀ a ∈ items, Takes r (toValue a).kinds [] a) :
    Takes (Reader.list r) (Value.list (items.map toValue)).kinds [] items := by
  rw [Value.kinds_list, List.map_map]
  exact .list h fun a _ => (toValue a).exists_kinds_eq_cons

end Loops

/-! Records. -/

theorem endRecord : Takes Reader.endRecord [.closeRecord] [] () := .look (.peek _ _) (.advance _)

theorem hasField_true (name : String) (skipped : Option Fault) (first : Bool) :
    Takes (Reader.hasField first) (if first then [] else [.comma]) [.text (.ok name) skipped]
      true := by
  cases first with
  | true => exact .look (.peek _ _) (.pure _ _)
  | false => exact .look (.peek _ _) (.next (.advance _) (.look (.peek _ _) (.pure _ _)))

theorem hasField_false (first : Bool) : Takes (Reader.hasField first) [] [.closeRecord] false :=
  .look (.peek _ _) (.pure _ _)

theorem key (name : String) (skipped : Option Fault) :
    Takes Reader.key [.text (.ok name) skipped] [] name :=
  .look (.peek _ _) (.look (.lift _ _) (.next (.advance _) (.pure _ _)))

theorem member (h : Takes r ks ahead a) : Takes (Reader.member r) (.colon :: ks) ahead a :=
  .next (.look (.peek _ _) (.advance _)) h

theorem once {seen : List String} {name : String} (h : seen.contains name = false)
    (ahead : List Kind) : Takes (Reader.once seen name) [] ahead (name :: seen) := by
  rw [Reader.once, h]
  exact .pure _ _

theorem require {seen : List String} {name : String} (h : seen.contains name = true)
    (ahead : List Kind) : Takes (Reader.require seen name) [] ahead () := by
  rw [Reader.require, h]
  exact .pure _ _

inductive Fills (step : σ → String → Reader σ) : σ → List (String × List Kind) → σ → Prop
  | nil (st : σ) : Fills step st [] st
  | cons {st st' st'' : σ} {name : String} {ks : List Kind} {fs : List (String × List Kind)}
    (h : Takes (step st name) (.colon :: ks) [] st') (hrest : Fills step st' fs st'') :
    Fills step st ((name, ks) :: fs) st''

variable {step : σ → String → Reader σ} {st st' : σ} {fs : List (String × List Kind)}

theorem fieldsFrom (h : Fills step st fs st') {fuel : Nat} (hfuel : fs.length < fuel)
    (first : Bool) :
    Takes (Reader.fieldsFrom step fuel first st)
      (separated first (fs.map fun f => Value.fieldKinds f.1 f.2)) [.closeRecord] st' := by
  induction h generalizing fuel first with
  | nil st =>
    obtain ⟨fuel, rfl⟩ := Nat.exists_eq_add_one.2 hfuel
    exact .look (.hasField_false first) (.pure _ _)
  | @cons st st₁ st₂ name ks fs h _ ih =>
    obtain ⟨fuel, rfl⟩ := Nat.exists_eq_add_one.2 (Nat.zero_lt_of_lt hfuel)
    have hrest := ih (Nat.lt_of_succ_lt_succ hfuel) false
    exact .bind ((hasField_true name none first).mono _)
      (.next (.key name none) (.bind (h.mono_nil _) hrest))

theorem fields (h : Fills step st fs st') :
    Takes (Reader.fields step st) (separated true (fs.map fun f => Value.fieldKinds f.1 f.2))
      [.closeRecord] st' := by
  have hlength : fs.length ≤ (separated true (fs.map fun f => Value.fieldKinds f.1 f.2)).length :=
    length_le_separated (fun _ _ => List.cons_ne_nil _ _) true
  exact .counted (fun fuel => Reader.fieldsFrom step fuel true st) hlength
    fun _ hfuel => .fieldsFrom h hfuel true

theorem record {ofFields : Reader α} (h : Takes ofFields ks [.closeRecord] a) (expected : String)
    (ofList : Reader α) :
    Takes (Reader.record expected ofList ofFields) (.openRecord :: (ks ++ [.closeRecord])) [] a :=
  .settled (.look (.peekValue _ _) (.next (.advance _) (.enclosed h .endRecord)))

theorem fills_pairs {kinds : α → List Kind} {pairs : List (String × α)}
    (h : ∀ p ∈ pairs, Takes r (kinds p.2) [] p.2) (done : List (String × α)) :
    Fills (fun done name => return (name, ← Reader.member r) :: done) done
      (pairs.map fun p => (p.1, kinds p.2)) (pairs.reverse ++ done) := by
  induction pairs generalizing done with
  | nil => exact .nil done
  | cons p pairs ih =>
    obtain ⟨hp, hpairs⟩ := List.forall_mem_cons.1 h
    rw [List.reverse_cons, List.append_assoc]
    exact .cons ((Takes.member hp).giving fun a => (p.1, a) :: done) (ih hpairs (p :: done))

theorem pairs {kinds : α → List Kind} {pairs : List (String × α)}
    (h : ∀ p ∈ pairs, Takes r (kinds p.2) [] p.2) (build : List (String × α) → β) :
    Takes (do
        let pairs ← Reader.fields (fun done name => return (name, ← Reader.member r) :: done) []
        Pure.pure (build pairs.reverse))
      (separated true (pairs.map fun p => Value.fieldKinds p.1 (kinds p.2))) [.closeRecord]
      (build pairs) := by
  have hfields := (Takes.fields (fills_pairs h [])).giving fun pairs => build pairs.reverse
  rwa [List.map_map, List.append_nil, List.reverse_reverse] at hfields

theorem map (kinds : α → List Kind) {pairs : List (String × α)}
    (h : ∀ p ∈ pairs, Takes r (kinds p.2) [] p.2) :
    Takes (Reader.map r)
      (.openRecord :: (separated true (pairs.map fun p => Value.fieldKinds p.1 (kinds p.2)) ++
        [.closeRecord])) [] pairs :=
  .settled (.look (.peekValue _ _) (.next (.advance _) (.enclosed (.pairs h id) .endRecord)))

/-! Values. -/

section Values

variable {build : List (String × Value) → Value} {depth : Nat}

theorem scalar {v : Value} (hk : k ≠ .openList ∧ k ≠ .openRecord)
    (h : Takes (Reader.value.scalar k) [k] [] v) :
    Takes (Reader.value build depth) [k] [] v := by
  obtain ⟨hlist, hrecord⟩ := hk
  cases depth with
  | zero =>
    refine .settled (.look (.peekValue k _) ?_)
    cases k <;> first | exact absurd rfl hlist | exact absurd rfl hrecord | exact h
  | succ depth =>
    refine .settled (.look (.peekValue k _) ?_)
    cases k <;> first | exact absurd rfl hlist | exact absurd rfl hrecord | exact h

theorem value_null : Takes (Reader.value build depth) Value.null.kinds [] .null :=
  .scalar (by simp [Token.bare]) (.next (.advance _) (.pure _ _))

theorem value_boolean (b : Bool) :
    Takes (Reader.value build depth) (Value.boolean b).kinds [] (.boolean b) :=
  .scalar (by simp [Token.bare]) (.next (.advance _) (.pure _ _))

theorem value_natural (n : Nat) :
    Takes (Reader.value build depth) (Value.natural n).kinds [] (.natural n) := by
  rw [Value.kinds_natural]
  exact .scalar (by simp) (.look (.lift _ _) (.next (.advance _) (.pure _ _)))

theorem value_text (s : String) :
    Takes (Reader.value build depth) (Value.text s).kinds [] (.text s) := by
  rw [Value.kinds_text]
  exact .scalar (by simp) (.look (.lift _ _) (.next (.advance _) (.pure _ _)))

theorem value_list {items : List Value}
    (h : ∀ v ∈ items, Takes (Reader.value build depth) v.kinds [] v) :
    Takes (Reader.value build (depth + 1)) (Value.list items).kinds [] (.list items) := by
  rw [Value.kinds_list]
  have hitems := Takes.items h fun v _ => v.exists_kinds_eq_cons
  exact .settled (.look (.peekValue _ _)
    (.next (.advance _) (.enclosed (hitems.image _) .endList)))

theorem value_record {fields : List (String × Value)}
    (h : ∀ f ∈ fields, Takes (Reader.value build depth) f.2.kinds [] f.2) :
    Takes (Reader.value build (depth + 1)) (Value.record fields).kinds [] (build fields) := by
  rw [Value.kinds_record]
  exact .settled (.look (.peekValue _ _)
    (.next (.advance _) (.enclosed (.pairs h build) .endRecord)))

end Values

theorem value {depth : Nat} {v : Value} (h : v.Plain depth) :
    Takes (Reader.value .record depth) v.kinds [] v := by
  induction h with
  | null => exact value_null
  | boolean _ b => exact value_boolean b
  | natural => exact value_natural _
  | text _ s => exact value_text s
  | list _ ih => exact value_list ih
  | record _ ih => exact value_record ih

theorem run_eq {tokens : List Token} (h : Takes r (tokens.map Token.kind) [] a)
    (offset size : Nat) : r.run ⟨tokens, offset, size⟩ = .ok a := by
  obtain ⟨offset', hr⟩ := h tokens [] offset size rfl (List.nil_prefix)
  rw [List.append_nil] at hr
  rw [Reader.run, hr]

theorem run_atEnd {tokens : List Token} (h : Takes r (tokens.map Token.kind) [] a)
    (offset size : Nat) : r.atEnd.run ⟨tokens, offset, size⟩ = .ok a := by
  obtain ⟨offset', hr⟩ := h tokens [] offset size rfl (List.nil_prefix)
  rw [List.append_nil] at hr
  have hend : r.atEnd ⟨tokens, offset, size⟩ = .ok a ⟨[], size, size⟩ := by
    change EStateM.bind r _ _ = _
    rw [EStateM.bind, hr]
    rfl
  rw [Reader.run, hend]

end Takes

end SoftFail.Decode
