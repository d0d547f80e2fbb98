import SoftFail.Regex.Expr

/-! How large the automaton of an expression is, in bytes. Expressions with too large an automaton
are refused before any part of it is built. -/

namespace SoftFail.Regex

def stateSize : Nat := 32

/-- The last member of the first part, where a range of characters must be cut: all characters of a
part have as many UTF-8 bytes, and of these each runs through a range of its own. -/
def cut? (low high : Nat) : Option Nat :=
  ([0x7F, 0x7FF, 0xFFFF].find? fun m => low ≤ m && m < high).orElse fun _ =>
    if high ≤ 0x7F then none
    else [64, 4096, 262144].findSome? fun m =>
      if low / m = high / m then none
      else if low % m ≠ 0 then some (low / m * m + (m - 1))
      else if high % m ≠ m - 1 then some (high / m * m - 1)
      else none

def parts : (fuel low high : Nat) → List (Nat × Nat)
  | 0, low, high => [(low, high)]
  | fuel + 1, low, high =>
    match cut? low high with
    | none => [(low, high)]
    | some m => parts fuel low m ++ parts fuel (m + 1) high

def byteRanges (r : Nat × Nat) : List (UInt8 × UInt8) :=
  (String.utf8EncodeChar (Char.ofNat r.1)).zip (String.utf8EncodeChar (Char.ofNat r.2))

def common : (a b : List (UInt8 × UInt8)) → Nat
  | x :: a, y :: b => if x = y then common a b + 1 else 0
  | _, _ => 0

def prefixes (last : List (UInt8 × UInt8)) : List (List (UInt8 × UInt8)) → Nat
  | [] => 0
  | bytes :: more => bytes.length - common last bytes + prefixes bytes more

namespace CharSet

/-- The ranges of a set below `n`; `high` is the end of the one that `n` is the beginning of, if
it belongs to one. -/
def rangesBelow (s : CharSet) : (n : Nat) → (high : Option Nat) → List (Nat × Nat) →
    List (Nat × Nat)
  | 0, high, done => match high with
    | some h => (0, h) :: done
    | none => done
  | n + 1, high, done =>
    if n.isValidChar && s.contains n then s.rangesBelow n (high.getD n) done
    else match high with
      | some h => s.rangesBelow n none ((n + 1, h) :: done)
      | none => s.rangesBelow n none done

def toRanges (s : CharSet) : List (Nat × Nat) := s.rangesBelow 0x110000 none []

/-- A single character takes a state for each of its bytes, and a set of ASCII characters one with
a transition for each range. Of other sets the byte sequences share their prefixes. -/
def size (s : CharSet) : Nat :=
  match s.toRanges with
  | [] => stateSize
  | [(low, high)] =>
    if low = high then stateSize * (Char.ofNat low).utf8Size else rangesSize [(low, high)]
  | rs => rangesSize rs
where
  rangesSize (rs : List (Nat × Nat)) : Nat :=
    if rs.all (·.2 ≤ 0x7F) then
      2 * stateSize + if rs.length = 1 then 0 else 8 * rs.length
    else
      let sequences := (rs.flatMap fun r => parts 32 r.1 r.2).map byteRanges
      2 * stateSize + 4 * sequences.length + stateSize * prefixes [] sequences

end CharSet

def Expr.sizeBy (setSize : CharSet → Nat) : Expr → Nat
  | .empty | .place _ => stateSize
  | .set s => setSize s
  | .seq a b => a.sizeBy setSize + b.sizeBy setSize
  | .alt a b => a.sizeBy setSize + b.sizeBy setSize + 2 * stateSize + 8
  | .repeated e min (some max) _ =>
    let n := e.sizeBy setSize
    min * n + (max - min) * (n + stateSize + 8) + stateSize
  | .repeated e min none _ => Nat.max min 1 * e.sizeBy setSize + stateSize + 8
  | .capture _ e => e.sizeBy setSize + 2 * stateSize

/-- Ten mebibytes. -/
def maxSize : Nat := 10485760

/-- More than the size of any set there is a use for. -/
def amplySize : Nat := 131072

/-- Sets are measured only where that makes a difference. -/
def Expr.isWithinLimit (e : Expr) : Bool :=
  e.sizeBy (fun _ => amplySize) ≤ maxSize ||
    (e.sizeBy (fun _ => stateSize) ≤ maxSize && e.sizeBy CharSet.size ≤ maxSize)

end SoftFail.Regex
