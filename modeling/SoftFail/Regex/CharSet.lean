import SoftFail.Unicode.CaseFold
import SoftFail.Unicode.Digit
import SoftFail.Unicode.Word
import SoftFail.Text.Blank

/-! Sets of characters, as expressions describe them. -/

namespace SoftFail.Regex

inductive CharSet where
  | ranges (rs : List (Nat × Nat))
  | table (t : Unicode.RangeSet)
  | digit
  | blank
  | word
  | complement (s : CharSet)
  | union (s t : CharSet)
  | inter (s t : CharSet)
  /-- Everything that equals a member up to letter case. -/
  | folded (s : CharSet)
  /-- Everything that equals a member up to the letter case of ASCII letters. -/
  | foldedAscii (s : CharSet)

namespace CharSet

def asciiVariants (n : Nat) : List Nat :=
  if 0x41 ≤ n && n ≤ 0x5A then [n, n + 32]
  else if 0x61 ≤ n && n ≤ 0x7A then [n, n - 32]
  else [n]

def contains : CharSet → Nat → Bool
  | ranges rs, n => rs.any fun r => r.1 ≤ n && n ≤ r.2
  | table t, n => t.contains n
  | digit, n => Unicode.isDigit (Char.ofNat n)
  | blank, n => Text.isBlank (Char.ofNat n)
  | word, n => Unicode.isWord (Char.ofNat n)
  | complement s, n => !s.contains n
  | union s t, n => s.contains n || t.contains n
  | inter s t, n => s.contains n && t.contains n
  | folded s, n => (Unicode.caseVariants n).any s.contains
  | foldedAscii s, n => (asciiVariants n).any s.contains

def empty : CharSet := .ranges []

def any : CharSet := .complement empty

def single (n : Nat) : CharSet := .ranges [(n, n)]

def ofList (ns : List Nat) : CharSet := .ranges (ns.map fun n => (n, n))

def diff (s t : CharSet) : CharSet := .inter s (.complement t)

def symmDiff (s t : CharSet) : CharSet := .union (s.diff t) (t.diff s)

def complementIf (negated : Bool) (s : CharSet) : CharSet := if negated then .complement s else s

end CharSet

end SoftFail.Regex
