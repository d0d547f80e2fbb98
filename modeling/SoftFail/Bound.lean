/-! Bounds of the integers that fit into a fixed number of bits. -/

namespace SoftFail

def bound16 : Nat := 65536

def bound31 : Nat := 2147483648

def bound32 : Nat := 4294967296

def bound63 : Nat := 9223372036854775808

def bound64 : Nat := 18446744073709551616

def isSigned64 (i : Int) : Bool := -(bound63 : Int) ≤ i && i < (bound63 : Int)

theorem isSigned64_natCast_iff {n : Nat} : isSigned64 n = true ↔ n < bound63 := by
  simp only [isSigned64, Bool.and_eq_true, decide_eq_true_eq]
  omega

end SoftFail
