import SoftFail.Bound
import SoftFail.Decimal.Reading
import SoftFail.Text.Hex
import SoftFail.Toml.Scan
import SoftFail.Value

/-! Numbers, dates and times in TOML. -/

namespace SoftFail.Toml

open Scan

def grouped (p : Char → Bool) : Scan (List Char) := do
  let c ← one p
  let cs ← many (one p <|> do char '_'; one p)
  return c :: cs

def digit : Char → Bool := Char.isDigit

def sign : Scan Bool := do
  match ← maybe (one fun c => c = '+' || c = '-') with
  | some '-' => pure true
  | _ => pure false

def whole : Scan (List Char) := do
  match ← peek? with
  | some '0' => char '0'; pure ['0']
  | _ => grouped digit

def ranged (i : Int) : Scan Value :=
  if isSigned64 i then pure (.number (.integer i)) else failure

def decimalInteger : Scan Value := do
  let negative ← sign
  let n : Int := Decimal.value (← whole)
  ranged (if negative then -n else n)

def basedInteger (mark : Char) (base : Nat) : Scan Value := do
  word ['0', mark]
  let ds ← grouped fun c => (Text.hexValue? c).any (· < base)
  ranged (ds.foldl (fun n c => base * n + (Text.hexValue? c).getD 0) 0 : Nat)

def integer : Scan Value :=
  basedInteger 'x' 16 <|> basedInteger 'o' 8 <|> basedInteger 'b' 2 <|> decimalInteger

def fraction : Scan (List Char) := do char '.'; grouped digit

def exponent : Scan Int := do
  let _ ← one fun c => c = 'e' || c = 'E'
  let negative ← sign
  let n : Int := Decimal.value (← grouped digit)
  return if negative then -n else n

def pointed : Scan Value := do
  let negative ← sign
  let ds ← whole
  let (ds, e) ← (do
      let places ← fraction
      let e ← maybe exponent
      return (ds ++ places, e.getD 0 - places.length)) <|>
    (do return (ds, ← exponent))
  let x := Decimal.nearest (Decimal.value ds) e
  let x := if negative then -x else x
  if x == Decimal.infinity then failure else pure (.number (.float x))

def special : Scan Value := do
  let negative ← sign
  let x ← (do word "inf".toList; pure Decimal.infinity) <|>
    (do word "nan".toList; pure Decimal.notANumber)
  return .number (.float (if negative then -x else x))

def within (places low high : Nat) : Scan Nat := do
  let n := Decimal.value (← exactly digit places)
  if low ≤ n && n ≤ high then pure n else failure

def daysIn (year month : Nat) : Nat :=
  if month = 2 then if year % 4 = 0 && (year % 100 ≠ 0 || year % 400 = 0) then 29 else 28
  else if month ∈ [4, 6, 9, 11] then 30
  else 31

def date : Scan Unit := do
  let year ← within 4 0 9999
  char '-'
  let month ← within 2 1 12
  char '-'
  let _ ← within 2 1 (daysIn year month)

def time : Scan Unit := do
  let _ ← within 2 0 23
  char ':'
  let _ ← within 2 0 59
  char ':'
  let _ ← within 2 0 60
  let _ ← maybe do char '.'; run1 digit

def zone : Scan Unit :=
  (do let _ ← one fun c => c = 'Z' || c = 'z') <|>
    (do
      let _ ← one fun c => c = '+' || c = '-'
      let _ ← within 2 0 23
      char ':'
      let _ ← within 2 0 59)

def dateAndTime : Scan Unit := do
  date
  let _ ← maybe do
    let _ ← one fun c => c = 'T' || c = 't' || c = ' '
    time
    maybe zone

/-- A date, a time or both: a record that holds its text. -/
def moment : Scan Value := fun s => do
  let (_, rest) ← (dateAndTime <|> time) s
  let text := s.take (s.length - rest.length)
  some (.record [("moment", .text (String.ofList text))], rest)

def flag : Scan Value :=
  (do word "true".toList; pure (.boolean true)) <|>
    (do word "false".toList; pure (.boolean false))

def scalar : Scan Value := moment <|> pointed <|> special <|> integer <|> flag

end SoftFail.Toml
