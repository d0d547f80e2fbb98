import SoftFail.Bound
import SoftFail.Decode.Token

/-! The kinds of the tokens of a value, which are all that reading it depends on. -/

namespace SoftFail

open Decode

namespace Decode

/-- Lists of kinds with a comma before each of them, but not before the first one of all. -/
def separated (first : Bool) : List (List Kind) → List Kind
  | [] => []
  | ks :: kss => (if first then [] else [.comma]) ++ (ks ++ separated false kss)

theorem length_le_separated {γ : Type} {kinds : γ → List Kind} {xs : List γ}
    (h : ∀ x ∈ xs, kinds x ≠ []) (first : Bool) :
    xs.length ≤ (separated first (xs.map kinds)).length := by
  induction xs generalizing first with
  | nil => exact Nat.zero_le _
  | cons x xs ih =>
    obtain ⟨hx, hxs⟩ := List.forall_mem_cons.1 h
    have hpos : 0 < (kinds x).length := List.length_pos_iff.2 hx
    have hrest := ih hxs false
    simp only [List.map_cons, separated, List.length_cons, List.length_append]
    omega

mutual

theorem valueTokens_eq_append (v : Value) (tail : List Token) :
    valueTokens v tail = valueTokens v [] ++ tail := by
  match v with
  | .null | .boolean _ | .number _ | .text _ => simp [valueTokens]
  | .list items =>
    rw [valueTokens, valueTokens, itemTokens_eq_append, itemTokens_eq_append true items [_]]
    simp
  | .record fields =>
    rw [valueTokens, valueTokens, fieldTokens_eq_append, fieldTokens_eq_append true fields [_]]
    simp

theorem itemTokens_eq_append (first : Bool) (items : List Value) (tail : List Token) :
    itemTokens first items tail = itemTokens first items [] ++ tail := by
  match items with
  | [] => simp [itemTokens]
  | v :: items =>
    rw [itemTokens, itemTokens, valueTokens_eq_append v, itemTokens_eq_append false items tail,
      valueTokens_eq_append v (itemTokens false items [])]
    cases first <;> simp

theorem fieldTokens_eq_append (first : Bool) (fields : List (String × Value))
    (tail : List Token) :
    fieldTokens first fields tail = fieldTokens first fields [] ++ tail := by
  match fields with
  | [] => simp [fieldTokens]
  | (name, v) :: fields =>
    rw [fieldTokens, fieldTokens, valueTokens_eq_append v, fieldTokens_eq_append false fields tail,
      valueTokens_eq_append v (fieldTokens false fields [])]
    cases first <;> simp

end

end Decode

namespace Value

def kinds (v : Value) : List Kind := (valueTokens v []).map Token.kind

def fieldKinds (name : String) (ks : List Kind) : List Kind := .text (.ok name) none :: .colon :: ks

theorem kinds_natural (n : Nat) : (natural n).kinds = [.number (.ok (.integer n)) none] := by
  simp [kinds, natural, valueTokens, Token.bare]

theorem kinds_text (s : String) : (text s).kinds = [.text (.ok s) none] := by
  simp [kinds, valueTokens, Token.bare]

theorem kinds_list (items : List Value) :
    (list items).kinds = .openList :: (separated true (items.map kinds) ++ [.closeList]) := by
  have hitems (first : Bool) : (itemTokens first items []).map Token.kind =
      separated first (items.map kinds) := by
    induction items generalizing first with
    | nil => rfl
    | cons v items ih =>
      rw [itemTokens, valueTokens_eq_append]
      cases first <;> simp [separated, ih, kinds, Token.bare]
  rw [kinds, valueTokens, itemTokens_eq_append]
  simp [hitems, Token.bare]

theorem kinds_record (fields : List (String × Value)) :
    (record fields).kinds = .openRecord ::
      (separated true (fields.map fun f => fieldKinds f.1 f.2.kinds) ++ [.closeRecord]) := by
  have hfields (first : Bool) : (fieldTokens first fields []).map Token.kind =
      separated first (fields.map fun f => fieldKinds f.1 f.2.kinds) := by
    induction fields generalizing first with
    | nil => rfl
    | cons f fields ih =>
      rw [fieldTokens, valueTokens_eq_append]
      cases first <;> simp [separated, fieldKinds, ih, kinds, Token.bare]
  rw [kinds, valueTokens, fieldTokens_eq_append]
  simp [hfields, Token.bare]

theorem exists_kinds_eq_cons (v : Value) : ∃ k ks, v.kinds = k :: ks ∧ k ≠ .closeList := by
  cases v <;> simp [kinds, valueTokens, Token.bare]

inductive Plain : Nat → Value → Prop
  | null (depth : Nat) : Plain depth .null
  | boolean (depth : Nat) (b : Bool) : Plain depth (.boolean b)
  | natural (depth : Nat) {n : Nat} (h : n < bound64) : Plain depth (.natural n)
  | text (depth : Nat) (s : String) : Plain depth (.text s)
  | list {depth : Nat} {items : List Value} (h : ∀ v ∈ items, Plain depth v) :
    Plain (depth + 1) (.list items)
  | record {depth : Nat} {fields : List (String × Value)} (h : ∀ f ∈ fields, Plain depth f.2) :
    Plain (depth + 1) (.record fields)

inductive Signed : Value → Prop
  | null : Signed .null
  | boolean (b : Bool) : Signed (.boolean b)
  | integer {i : Int} (h : isSigned64 i = true) : Signed (.number (.integer i))
  | float (x : Float) : Signed (.number (.float x))
  | text (s : String) : Signed (.text s)
  | list {items : List Value} (h : ∀ v ∈ items, Signed v) : Signed (.list items)
  | record {fields : List (String × Value)} (h : ∀ f ∈ fields, Signed f.2) :
    Signed (.record fields)

end Value

end SoftFail
