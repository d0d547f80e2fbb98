/-! Hexadecimal digits. -/

namespace SoftFail.Text

def hexDigitChar (d : Nat) : Char := Char.ofNat (if d < 10 then 48 + d else 87 + d)

def hexText (n : Nat) (tail : List Char) : List Char :=
  if n < 16 then hexDigitChar n :: tail else hexText (n / 16) (hexDigitChar (n % 16) :: tail)

def hexPlaces : (places n : Nat) → List Char
  | 0, _ => []
  | places + 1, n => hexPlaces places (n / 16) ++ [hexDigitChar (n % 16)]

def hexValue? (c : Char) : Option Nat :=
  if c.isDigit then some (c.toNat - 48)
  else if 'a' ≤ c && c ≤ 'f' then some (c.toNat - 87)
  else if 'A' ≤ c && c ≤ 'F' then some (c.toNat - 55)
  else none

theorem hexValue?_hexDigitChar : ∀ d < 16, hexValue? (hexDigitChar d) = some d := by decide

end SoftFail.Text
