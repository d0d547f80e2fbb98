import SoftFail.Decimal.Notation
import SoftFail.Json.Quoted

/-! Writing values as JSON texts. -/

namespace SoftFail.Json

def numberText : Number → List Char
  | .integer i => (Decimal.intText i).toList
  | .float x => (Decimal.scientific.text x).toList

def word (s : String) (tail : List Char) : List Char := s.toList ++ tail

mutual

def compact (v : Value) (tail : List Char) : List Char :=
  match v with
  | .null => word "null" tail
  | .boolean true => word "true" tail
  | .boolean false => word "false" tail
  | .number n => numberText n ++ tail
  | .text s => quote s tail
  | .list items => '[' :: compactItems true items (']' :: tail)
  | .record fields => '\x7b' :: compactFields true fields ('\x7d' :: tail)

def compactItems (first : Bool) (items : List Value) (tail : List Char) : List Char :=
  match items with
  | [] => tail
  | v :: items =>
    let out := compact v (compactItems false items tail)
    if first then out else ',' :: out

def compactFields (first : Bool) (fields : List (String × Value)) (tail : List Char) :
    List Char :=
  match fields with
  | [] => tail
  | (name, v) :: fields =>
    let out := quote name (':' :: compact v (compactFields false fields tail))
    if first then out else ',' :: out

end

def newline (depth : Nat) (tail : List Char) : List Char :=
  '\n' :: (List.replicate (2 * depth) ' ' ++ tail)

mutual

def pretty (depth : Nat) (v : Value) (tail : List Char) : List Char :=
  match v with
  | .list (item :: items) =>
    '[' :: prettyItems (depth + 1) true (item :: items) (newline depth (']' :: tail))
  | .record (field :: fields) =>
    '\x7b' :: prettyFields (depth + 1) true (field :: fields) (newline depth ('\x7d' :: tail))
  | v => compact v tail

def prettyItems (depth : Nat) (first : Bool) (items : List Value) (tail : List Char) :
    List Char :=
  match items with
  | [] => tail
  | v :: items =>
    let out := newline depth (pretty depth v (prettyItems depth false items tail))
    if first then out else ',' :: out

def prettyFields (depth : Nat) (first : Bool) (fields : List (String × Value))
    (tail : List Char) : List Char :=
  match fields with
  | [] => tail
  | (name, v) :: fields =>
    let out := newline depth
      (quote name (':' :: ' ' :: pretty depth v (prettyFields depth false fields tail)))
    if first then out else ',' :: out

end

def print (v : Value) : String := String.ofList (compact v [])

def printPretty (v : Value) : String := String.ofList (pretty 0 v [])

end SoftFail.Json
