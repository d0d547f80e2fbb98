/-! Exact substrings: first occurrence, and number of disjoint occurrences. -/

namespace SoftFail.Text

def dropPrefix? : (p s : List Char) → Option (List Char)
  | [], s => some s
  | _ :: _, [] => none
  | a :: p, b :: s => if a = b then dropPrefix? p s else none

theorem dropPrefix?_eq_some_iff {p s r : List Char} : dropPrefix? p s = some r ↔ s = p ++ r := by
  induction p generalizing s with
  | nil => simp [dropPrefix?, eq_comm]
  | cons a p ih =>
    cases s with
    | nil => simp [dropPrefix?]
    | cons b s =>
      by_cases h : a = b
      · simp [dropPrefix?, h, ih]
      · simp [dropPrefix?, h, Ne.symm h]

def startsWith (p s : List Char) : Bool := (dropPrefix? p s).isSome

def indexFrom (needle : List Char) (at_ : Nat) : List Char → Option Nat
  | [] => if needle.isEmpty then some at_ else none
  | c :: s => if startsWith needle (c :: s) then some at_ else indexFrom needle (at_ + 1) s

def index? (needle s : List Char) : Option Nat := indexFrom needle 0 s

def contains (needle s : List Char) : Bool := (index? needle s).isSome

def countFrom (needle : List Char) (found skip : Nat) : List Char → Nat
  | [] => found
  | c :: s =>
    match skip with
    | k + 1 => countFrom needle found k s
    | 0 =>
      if startsWith needle (c :: s) then countFrom needle (found + 1) (needle.length - 1) s
      else countFrom needle found 0 s

/-- Number of disjoint occurrences met by a scan from the left. The empty text occurs before each
character and at the end. -/
def count (needle s : List Char) : Nat :=
  match needle with
  | [] => s.length + 1
  | _ => countFrom needle 0 0 s

end SoftFail.Text
