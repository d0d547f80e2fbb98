import SoftFail.Decimal.Binary

/-! The shortest decimal that reads back as a given binary number, and of the shortest ones the
nearest. -/

namespace SoftFail.Decimal

/-- The number `coefficient * 10 ^ exponent`. -/
structure Digits where
  coefficient : Nat
  exponent : Int
  deriving DecidableEq

/-- Where a decimal half-way between two equally short neighbours goes. -/
inductive Tie where
  | up
  | even
  deriving DecidableEq

namespace Binary

/-- The reals that round to a number, as numerators over four times the unit of its mantissa: the
half-way points to both neighbours, which belong to it when its mantissa is even. -/
structure Span where
  low : Nat
  mid : Nat
  high : Nat
  closed : Bool

def span (b : Binary) : Span :=
  let m := 4 * b.mantissa
  let step := if b.mantissa = leadingBit && b.exponent > -1074 then 1 else 2
  ⟨m - step, m, m + 2, b.mantissa % 2 = 0⟩

def Span.holds (s : Span) (num den x : Nat) : Bool :=
  (s.low * num < x * den && x * den < s.high * num) ||
    (s.closed && (s.low * num = x * den || x * den = s.high * num))

def onGrid? (b : Binary) (tie : Tie) (k : Int) : Option Nat :=
  let s := b.span
  let unit := b.exponent - 2
  let num := Nat.pow 2 unit.toNat * Nat.pow 10 (-k).toNat
  let den := Nat.pow 2 (-unit).toNat * Nat.pow 10 k.toNat
  let d := s.mid * num / den
  let below := s.holds num den d
  let above := s.holds num den (d + 1)
  if below && above then
    let r := 2 * (s.mid * num % den)
    if r < den || (r = den && tie = .even && d % 2 = 0) then some d else some (d + 1)
  else if below then some d
  else if above then some (d + 1)
  else none

def search (b : Binary) (tie : Tie) : Nat → Int → Digits
  | 0, k => ⟨(b.onGrid? tie k).getD 0, k⟩
  | fuel + 1, k =>
    match b.onGrid? tie k with
    | some d => ⟨d, k⟩
    | none => search b tie fuel (k - 1)

/-- The first grid tried is coarser than the number, and seventeen digits always suffice. -/
def shortest (b : Binary) (tie : Tie) : Digits :=
  if b.mantissa = 0 then ⟨0, 0⟩
  else b.search tie 24 (((Nat.log2 b.mantissa + 1 : Nat) + b.exponent) * 30103 / 100000 + 1)

end Binary

end SoftFail.Decimal
