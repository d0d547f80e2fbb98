import SoftFail.Decimal.Natural

/-! Bytes read as UTF-8, and the first place where they are no text. -/

namespace SoftFail.Text.Utf8

inductive Fault where
  /-- The `length` bytes from `index` on can begin no character. -/
  | invalid (index length : Nat)
  /-- The bytes end inside the character that begins at `index`. -/
  | incomplete (index : Nat)
  deriving DecidableEq

def Fault.message : Fault → String
  | .invalid index length =>
    "invalid utf-8 sequence of " ++ Decimal.text length ++ " bytes from index " ++
      Decimal.text index
  | .incomplete index => "incomplete utf-8 byte sequence from index " ++ Decimal.text index

def followers (lead : Nat) : Option (List (Nat × Nat)) :=
  let any := (0x80, 0xBF)
  if lead < 0x80 then some []
  else if lead < 0xC2 then none
  else if lead < 0xE0 then some [any]
  else if lead = 0xE0 then some [(0xA0, 0xBF), any]
  else if lead = 0xED then some [(0x80, 0x9F), any]
  else if lead < 0xF0 then some [any, any]
  else if lead = 0xF0 then some [(0x90, 0xBF), any, any]
  else if lead < 0xF4 then some [any, any, any]
  else if lead = 0xF4 then some [(0x80, 0x8F), any, any]
  else none

/-- Scans the bytes; `open_` are those still to come in the character that began at `start`. -/
def scan (start index : Nat) (open_ : List (Nat × Nat)) : List UInt8 → Option Fault
  | [] => if open_.isEmpty then none else some (.incomplete start)
  | b :: bytes =>
    match open_ with
    | [] =>
      match followers b.toNat with
      | none => some (.invalid index 1)
      | some open_ => scan index (index + 1) open_ bytes
    | (low, high) :: open_ =>
      if low ≤ b.toNat && b.toNat ≤ high then scan start (index + 1) open_ bytes
      else some (.invalid start (index - start))

def fault? (bytes : List UInt8) : Option Fault := scan 0 0 [] bytes

def decode (bytes : ByteArray) : Except Fault String :=
  match String.fromUTF8? bytes with
  | some s => .ok s
  | none => .error ((fault? bytes.toList).getD (.invalid 0 1))

end SoftFail.Text.Utf8
