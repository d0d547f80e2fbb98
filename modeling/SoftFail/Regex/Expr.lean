import SoftFail.Regex.CharSet

/-! Regular expressions by what they match. -/

namespace SoftFail.Regex

/-- A condition on the two sides of a place in a text. Word conditions are told which characters
make a word: those of all scripts, or ASCII ones only. -/
inductive Place where
  | startText
  | endText
  | startLine
  | endLine
  /-- Lines may end in a carriage return, with or without a line feed behind it. -/
  | startLineCrlf
  | endLineCrlf
  | boundary (unicode : Bool)
  | notBoundary (unicode : Bool)
  | wordStart (unicode : Bool)
  | wordEnd (unicode : Bool)
  | wordStartHalf (unicode : Bool)
  | wordEndHalf (unicode : Bool)

def isWordChar (unicode : Bool) (c : Char) : Bool :=
  if unicode then Unicode.isWord c else c.isAlphanum || c = '_'

def Place.holds (p : Place) (before after : Option Char) : Bool :=
  let wordBefore (unicode : Bool) := before.any (isWordChar unicode)
  let wordAfter (unicode : Bool) := after.any (isWordChar unicode)
  match p with
  | startText => before.isNone
  | endText => after.isNone
  | startLine => before.all (· = '\n')
  | endLine => after.all (· = '\n')
  | startLineCrlf =>
    before.all fun c => c = '\n' || (c = '\r' && after ≠ some '\n')
  | endLineCrlf =>
    after.all fun c => c = '\r' || (c = '\n' && before ≠ some '\r')
  | boundary u => wordBefore u != wordAfter u
  | notBoundary u => wordBefore u == wordAfter u
  | wordStart u => !wordBefore u && wordAfter u
  | wordEnd u => wordBefore u && !wordAfter u
  | wordStartHalf u => !wordBefore u
  | wordEndHalf u => !wordAfter u

inductive Expr where
  | empty
  | set (s : CharSet)
  | place (p : Place)
  | seq (a b : Expr)
  /-- The first branch is preferred. -/
  | alt (a b : Expr)
  /-- More repetitions are preferred, or fewer if it is not greedy. -/
  | repeated (e : Expr) (min : Nat) (max : Option Nat) (greedy : Bool)
  | capture (index : Nat) (e : Expr)

namespace Expr

def maxLength : Expr → Option Nat
  | empty | place _ => some 0
  | set _ => some 1
  | seq a b => do return (← a.maxLength) + (← b.maxLength)
  | alt a b => do return max (← a.maxLength) (← b.maxLength)
  | repeated e _ m _ => do
    let n ← e.maxLength
    if n = 0 then return 0 else return n * (← m)
  | capture _ e => e.maxLength

def nullable : Expr → Bool
  | empty | place _ => true
  | set _ => false
  | seq a b => a.nullable && b.nullable
  | alt a b => a.nullable || b.nullable
  | repeated e m _ _ => m = 0 || e.nullable
  | capture _ e => e.nullable

def captures : Expr → Bool
  | empty | place _ | set _ => false
  | seq a b | alt a b => a.captures || b.captures
  | repeated e _ _ _ => e.captures
  | capture _ _ => true

/-- Repeats an expression. What only matches the empty text is not repeated, and what is repeated
no times is empty. -/
def times (e : Expr) (min : Nat) (max : Option Nat) (greedy : Bool) : Expr :=
  let (min, max) := if e.maxLength = some 0 then (Nat.min min 1, some (Nat.min (max.getD 1) 1))
    else (min, max)
  if max = some 0 then empty
  else if min = 1 && max = some 1 then e
  else repeated e min max greedy

end Expr

end SoftFail.Regex
