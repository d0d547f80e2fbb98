import SoftFail.Decimal.Natural
import SoftFail.Decimal.Shortest

/-! Floating-point numbers as text: the shortest digits in positional or scientific notation, and
digits up to a fixed place. -/

namespace SoftFail.Decimal

structure Style where
  tie : Tie
  /-- Whether an integral number ends in `.0`. -/
  point : Bool
  /-- The decimal exponents of the first digit that are written positionally. -/
  positional : Int → Bool
  nan : String
  infinity : String

/-- Positional whatever the size, without a point where none is needed. -/
def plain : Style := ⟨.up, false, fun _ => true, "NaN", "inf"⟩

def pointed : Style := ⟨.up, true, fun _ => true, "nan", "inf"⟩

/-- Very large and very small numbers have an exponent of at least two digits with its sign. -/
def scientific : Style := ⟨.even, true, fun e => -5 ≤ e && e < 16, "null", "null"⟩

def zeros (n : Nat) : List Char := List.replicate n '0'

def placePoint (style : Style) (ds : List Char) (exponent : Int) : List Char :=
  match exponent with
  | .ofNat e => ds ++ zeros e ++ if style.point then ['.', '0'] else []
  | .negSucc e =>
    let places := e + 1
    if places < ds.length then
      ds.take (ds.length - places) ++ '.' :: ds.drop (ds.length - places)
    else '0' :: '.' :: zeros (places - ds.length) ++ ds

def exponentText (e : Int) : List Char :=
  let ds := digits e.natAbs
  (if e < 0 then '-' else '+') :: (zeros (2 - ds.length) ++ ds)

def Style.digitsText (style : Style) (d : Digits) : List Char :=
  let ds := digits d.coefficient
  let first := d.exponent + (ds.length - 1 : Nat)
  if style.positional first then placePoint style ds d.exponent
  else
    let fraction := if ds.length = 1 then [] else '.' :: ds.tail
    ds.take 1 ++ fraction ++ 'e' :: exponentText first

def signed (negative : Bool) (s : String) : String := if negative then "-" ++ s else s

def Style.text (style : Style) (x : Float) : String :=
  match parts x with
  | .nan => style.nan
  | .infinite negative => signed negative style.infinity
  | .finite negative b => signed negative (String.ofList (style.digitsText (b.shortest style.tie)))

def fixed (places : Nat) (x : Float) : String :=
  match parts x with
  | .nan => "NaN"
  | .infinite negative => signed negative "inf"
  | .finite negative b =>
    let (num, den) := b.quotient places
    let ds := digits (nearestEven num den)
    let ds := zeros (places + 1 - ds.length) ++ ds
    let whole := ds.take (ds.length - places)
    let fraction := if places = 0 then [] else '.' :: ds.drop (ds.length - places)
    signed negative (String.ofList (whole ++ fraction))

end SoftFail.Decimal
