/-! Sets of code points given as ascending, disjoint ranges. A table is written as hexadecimal
numbers and ranges with blanks or line ends between them, such as `41-5A 61-7A AA`. -/

namespace SoftFail.Unicode

structure RangeSet where
  ranges : Array (Nat × Nat)
  deriving Inhabited

namespace RangeSet

def hexDigit (c : Char) : Nat :=
  if c.isDigit then c.toNat - 48 else c.toNat - 55

/-- A table being read: the ranges so far, and what is known of the one under way. -/
structure Reading where
  done : Array (Nat × Nat) := #[]
  low : Option Nat := none
  last : Option Nat := none

def Reading.finish (r : Reading) : Reading :=
  match r.last with
  | some n => ⟨r.done.push (r.low.getD n, n), none, none⟩
  | none => r

def Reading.step (r : Reading) (c : Char) : Reading :=
  if c = ' ' || c = '\n' then r.finish
  else if c = '-' then ⟨r.done, r.last, none⟩
  else ⟨r.done, r.low, some (16 * r.last.getD 0 + hexDigit c)⟩

def ofTable (table : String) : RangeSet := ⟨(table.toList.foldl Reading.step {}).finish.done⟩

def search (ranges : Array (Nat × Nat)) (n low high : Nat) : Bool :=
  if low < high then
    let mid := (low + high) / 2
    match ranges[mid]? with
    | none => false
    | some (a, b) =>
      if n < a then search ranges n low mid
      else if b < n then search ranges n (mid + 1) high
      else true
  else false
termination_by high - low

def contains (s : RangeSet) (n : Nat) : Bool := search s.ranges n 0 s.ranges.size

end RangeSet

end SoftFail.Unicode
