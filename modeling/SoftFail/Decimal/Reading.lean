import SoftFail.Decimal.Natural

/-! Floating-point numbers read from text. -/

namespace SoftFail.Decimal

def infinity : Float := 1.0 / 0.0

def notANumber : Float := 0.0 / 0.0

/-- The floating-point number nearest to `coefficient * 10 ^ exponent`. Exponents beyond any
finite number are cut short before a power is taken. -/
def nearest (coefficient : Nat) (exponent : Int) : Float :=
  let top := exponent + (digits coefficient).length
  if coefficient = 0 || top < -400 then 0.0
  else if 400 < top then infinity
  else match exponent with
    | .ofNat e => Float.ofScientific coefficient false e
    | .negSucc e => Float.ofScientific coefficient true (e + 1)

def spanDigits (s : List Char) : List Char × List Char :=
  (s.takeWhile Char.isDigit, s.dropWhile Char.isDigit)

def exponent? : List Char → Option Int
  | [] => some 0
  | c :: s =>
    if c = 'e' || c = 'E' then
      let (negative, ds) := match s with
        | '-' :: ds => (true, ds)
        | '+' :: ds => (false, ds)
        | ds => (false, ds)
      if ds ≠ [] && ds.all Char.isDigit then
        some (if negative then -(value ds : Int) else value ds)
      else none
    else none

def magnitude? (s : List Char) : Option Float :=
  let word := s.map Char.toLower
  if word = "inf".toList || word = "infinity".toList then some infinity
  else if word = "nan".toList then some notANumber
  else
    let (whole, rest) := spanDigits s
    let (fraction, rest) := match rest with
      | '.' :: rest => spanDigits rest
      | _ => ([], rest)
    if whole.isEmpty && fraction.isEmpty then none
    else (exponent? rest).map fun e => nearest (value (whole ++ fraction)) (e - fraction.length)

def float? (s : String) : Option Float :=
  match s.toList with
  | '-' :: s => (magnitude? s).map (fun x => -x)
  | '+' :: s => magnitude? s
  | s => magnitude? s

end SoftFail.Decimal
