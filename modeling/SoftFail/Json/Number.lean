import SoftFail.Bound
import SoftFail.Decimal.Reading
import SoftFail.Decode.Token

/-! Numbers in JSON: their shape, and the value that a number of this shape has. -/

namespace SoftFail.Json

open Decode

/-- The parts of a number. The exponent digits begin at byte `exponentAt`, the number ends at byte
`stop`. -/
structure Literal where
  negative : Bool
  whole : List Char
  fraction : Option (List Char)
  exponent : Option (Bool × List Char)
  exponentAt : Nat
  stop : Nat

/-- Where no number can be read any more, and the flaw for those who read and those who skip. -/
structure Dead where
  read : Flaw
  skipped : Flaw
  offset : Nat

def Dead.invalid (offset : Nat) : Dead := ⟨.invalidNumber, .invalidNumber, offset⟩

def Dead.cut (size : Nat) : Dead := ⟨.endInValue, .invalidNumber, size⟩

namespace Literal

def readExponent (n : Literal) : List Char → Except Dead Literal
  | c :: s =>
    if c = 'e' || c = 'E' then
      let (negative, ds, at_) := match s with
        | '-' :: s => (true, s, n.stop + 2)
        | '+' :: s => (false, s, n.stop + 2)
        | s => (false, s, n.stop + 1)
      let digits := ds.takeWhile Char.isDigit
      if digits.isEmpty then .error (if ds.isEmpty then .cut at_ else .invalid (at_ + 1))
      else .ok { n with
        exponent := some (negative, digits), exponentAt := at_, stop := at_ + digits.length }
    else .ok n
  | [] => .ok n

def readFraction (n : Literal) : List Char → Except Dead Literal
  | '.' :: s =>
    let digits := s.takeWhile Char.isDigit
    if digits.isEmpty then
      .error (if s.isEmpty then .cut (n.stop + 1) else .invalid (n.stop + 2))
    else
      readExponent { n with fraction := some digits, stop := n.stop + 1 + digits.length }
        (s.dropWhile Char.isDigit)
  | s => readExponent n s

def readWhole (negative : Bool) (at_ : Nat) : List Char → Except Dead Literal
  | [] => .error (.cut at_)
  | '0' :: s =>
    if s.head?.any Char.isDigit then .error (.invalid (at_ + 2))
    else readFraction ⟨negative, ['0'], none, none, 0, at_ + 1⟩ s
  | c :: s =>
    if c.isDigit then
      let digits := c :: s.takeWhile Char.isDigit
      readFraction ⟨negative, digits, none, none, 0, at_ + digits.length⟩ (s.dropWhile Char.isDigit)
    else .error (.invalid (at_ + 1))

def read (at_ : Nat) : List Char → Except Dead Literal
  | '-' :: s => readWhole true (at_ + 1) s
  | s => readWhole false at_ s

def gather (bound n : Nat) : List Char → Nat × List Char
  | [] => (n, [])
  | c :: ds =>
    let m := 10 * n + Decimal.digitValue c
    if m < bound then gather bound m ds else (n, c :: ds)

/-- Divides by the largest power of ten there is until the exponent is in range. -/
def shrink (x : Float) (exponent : Int) : Nat → Float × Int
  | 0 => (x, exponent)
  | fuel + 1 =>
    if x == 0.0 || -308 ≤ exponent then (x, exponent)
    else shrink (x / 1e308) (exponent + 308) fuel

def powerOfTen (k : Nat) : Float := Float.ofScientific 1 false k

/-- A product or quotient of two floating-point numbers: it is rounded once more than the exact
value would be. -/
def scaled? (significand : Nat) (exponent : Int) : Option Float :=
  let (x, e) := shrink (Float.ofNat significand) exponent 8
  if x == 0.0 then some 0.0
  else match e with
    | .ofNat k =>
      if 308 < k then none
      else
        let y := x * powerOfTen k
        if y.isInf then none else some y
    | .negSucc k => some (x / powerOfTen (k + 1))

def signed (n : Literal) (x : Float) : Number := .float (if n.negative then -x else x)

/-- Integers keep their value below `2 ^ 64`, and above `-2 ^ 63`; all else is floating-point, of
which more digits than fit into 64 bits are dropped. -/
def value (n : Literal) : Except Fault Number :=
  let (significand, left) := gather bound64 0 n.whole
  match n.fraction, n.exponent, left with
  | none, none, [] =>
    if !n.negative then .ok (.integer significand)
    else if significand = 0 || bound63 < significand then .ok (n.signed (Float.ofNat significand))
    else .ok (.integer (-significand))
  | _, _, _ =>
    let fraction := n.fraction.getD []
    let (significand, dropped) := gather bound64 significand fraction
    let places : Int := (left.length : Int) - (fraction.length - dropped.length : Nat)
    let (negative, digits) := n.exponent.getD (false, [])
    let (exponent, excess) := gather bound31 0 digits
    match excess with
    | [] =>
      match scaled? significand (if negative then places - exponent else places + exponent) with
      | some x => .ok (n.signed x)
      | none => .error (.flaw .numberOutOfRange n.stop)
    | _ :: rest =>
      if significand = 0 || negative then .ok (n.signed 0.0)
      else .error (.flaw .numberOutOfRange (n.exponentAt + digits.length - rest.length))

end Literal

end SoftFail.Json
