import SoftFail.Bound

/-! Binary floating-point numbers taken apart: sign, and an integer mantissa times a power of two. -/

namespace SoftFail.Decimal

/-- The number `mantissa * 2 ^ exponent`. -/
structure Binary where
  mantissa : Nat
  exponent : Int
  deriving DecidableEq

inductive Parts where
  | nan
  | infinite (negative : Bool)
  | finite (negative : Bool) (value : Binary)

def leadingBit : Nat := 4503599627370496

def parts (x : Float) : Parts :=
  let bits := x.toBits.toNat
  let negative := bound63 ≤ bits
  let fraction := bits % leadingBit
  match bits / leadingBit % 2048 with
  | 0 => .finite negative ⟨fraction, -1074⟩
  | 2047 => if fraction = 0 then .infinite negative else .nan
  | e => .finite negative ⟨leadingBit + fraction, e - 1075⟩

/-- A number times `10 ^ k` as a quotient of naturals. -/
def Binary.quotient (b : Binary) (k : Int) : Nat × Nat :=
  (b.mantissa * Nat.pow 2 b.exponent.toNat * Nat.pow 10 k.toNat,
    Nat.pow 2 (-b.exponent).toNat * Nat.pow 10 (-k).toNat)

/-- The natural number nearest to a quotient; a half goes to the even neighbour. -/
def nearestEven (num den : Nat) : Nat :=
  let q := num / den
  let r := 2 * (num % den)
  if r < den || (r = den && q % 2 = 0) then q else q + 1

end SoftFail.Decimal
