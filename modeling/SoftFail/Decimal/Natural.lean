/-! Natural numbers in decimal notation. -/

namespace SoftFail.Decimal

def digitChar (d : Nat) : Char := Char.ofNat (48 + d)

def digitValue (c : Char) : Nat := c.toNat - 48

def digitsOnto (n : Nat) (tail : List Char) : List Char :=
  if n < 10 then digitChar n :: tail else digitsOnto (n / 10) (digitChar (n % 10) :: tail)

def digits (n : Nat) : List Char := digitsOnto n []

def text (n : Nat) : String := String.ofList (digits n)

def intText : Int → String
  | .ofNat n => text n
  | .negSucc n => "-" ++ text (n + 1)

def value (ds : List Char) : Nat := ds.foldl (fun n c => 10 * n + digitValue c) 0

def below? (bound : Nat) (s : String) : Option Nat :=
  let ds := match s.toList with
    | '+' :: ds => ds
    | ds => ds
  if ds ≠ [] && ds.all Char.isDigit && value ds < bound then some (value ds) else none

theorem digitValue_digitChar : ∀ d < 10, digitValue (digitChar d) = d := by decide

theorem foldl_digitsOnto (n : Nat) (tail : List Char) :
    (digitsOnto n tail).foldl (fun n c => 10 * n + digitValue c) 0 =
      tail.foldl (fun n c => 10 * n + digitValue c) n := by
  fun_induction digitsOnto n tail with
  | case1 n tail h => simp [digitValue_digitChar n h]
  | case2 n tail h ih =>
    rw [ih, List.foldl_cons, digitValue_digitChar _ (Nat.mod_lt _ (by decide)), Nat.div_add_mod]

theorem value_digits (n : Nat) : value (digits n) = n := by
  simp [value, digits, foldl_digitsOnto n]

end SoftFail.Decimal
