import SoftFail.Decode.Fault
import SoftFail.Value

/-! Documents as token streams, the form in which they are read whatever their notation. -/

namespace SoftFail.Decode

inductive Kind where
  | openList
  | closeList
  | openRecord
  | closeRecord
  | comma
  | colon
  | null
  | boolean (b : Bool)
  /-- A number, or why it is none. Whoever skips it only minds `skipped`. -/
  | number (value : Except Fault Number) (skipped : Option Fault)
  /-- A text, or why it is none. Whoever skips it only minds `skipped`. -/
  | text (value : Except Fault String) (skipped : Option Fault)
  /-- The beginning of a word that is none. -/
  | broken (fault : Fault)
  /-- A character that begins no token. -/
  | stray

structure Token where
  kind : Kind
  start : Nat
  stop : Nat

def Token.bare (kind : Kind) : Token := ⟨kind, 0, 0⟩

mutual

def valueTokens (v : Value) (tail : List Token) : List Token :=
  match v with
  | .null => .bare .null :: tail
  | .boolean b => .bare (.boolean b) :: tail
  | .number n => .bare (.number (.ok n) none) :: tail
  | .text s => .bare (.text (.ok s) none) :: tail
  | .list items => .bare .openList :: itemTokens true items (.bare .closeList :: tail)
  | .record fields => .bare .openRecord :: fieldTokens true fields (.bare .closeRecord :: tail)

def itemTokens (first : Bool) (items : List Value) (tail : List Token) : List Token :=
  match items with
  | [] => tail
  | v :: items =>
    let tokens := valueTokens v (itemTokens false items tail)
    if first then tokens else .bare .comma :: tokens

def fieldTokens (first : Bool) (fields : List (String × Value)) (tail : List Token) :
    List Token :=
  match fields with
  | [] => tail
  | (name, v) :: fields =>
    let tokens := .bare (.text (.ok name) none) :: .bare .colon ::
      valueTokens v (fieldTokens false fields tail)
    if first then tokens else .bare .comma :: tokens

end

end SoftFail.Decode
