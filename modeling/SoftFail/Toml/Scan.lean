/-! Scanners of TOML text: each takes what it wants from the front of the text, or nothing fits. -/

namespace SoftFail.Toml

abbrev Scan := StateT (List Char) Option

namespace Scan

variable {α : Type}

def one (p : Char → Bool) : Scan Char := fun s =>
  match s with
  | c :: s => if p c then some (c, s) else none
  | [] => none

def char (c : Char) : Scan Unit := do let _ ← one (· = c)

def word : List Char → Scan Unit
  | [] => pure ()
  | c :: cs => do char c; word cs

def peek? : Scan (Option Char) := fun s => some (s.head?, s)

def passed (cs : List Char) : Scan Bool := (do word cs; pure true) <|> pure false

def run (p : Char → Bool) : Scan (List Char) := fun s => some (s.takeWhile p, s.dropWhile p)

def run1 (p : Char → Bool) : Scan (List Char) := do
  let c ← one p
  return c :: (← run p)

def exactly (p : Char → Bool) : (n : Nat) → Scan (List Char)
  | 0 => pure []
  | n + 1 => do
    let c ← one p
    return c :: (← exactly p n)

def maybe (r : Scan α) : Scan (Option α) := some <$> r <|> pure none

/-- Whatever `r` takes, for as long as it can, but no more often than `fuel` is long. -/
def manyFrom (r : Scan α) : (fuel : List Char) → Scan (List α)
  | [] => pure []
  | _ :: fuel => (do let a ← r; return a :: (← manyFrom r fuel)) <|> pure []

def many (r : Scan α) : Scan (List α) := fun s => manyFrom r s s

end Scan

open Scan

def isSpace (c : Char) : Bool := c = ' ' || c = '\t'

def isPlain (c : Char) : Bool := c = '\t' || (' ' ≤ c && c ≠ '\x7F')

def spaces : Scan Unit := do let _ ← run isSpace

def newline : Scan Unit := char '\n' <|> word ['\r', '\n']

def comment : Scan Unit := do
  char '#'
  let _ ← run isPlain

def atEnd : Scan Unit := fun s => if s.isEmpty then some ((), s) else none

def lineEnd : Scan Unit := do
  spaces
  let _ ← maybe comment
  newline <|> atEnd

/-- What follows spaces, line ends and comments. A comment ends in front of the first character
that is not plain. -/
def pastGap (inComment : Bool) : List Char → List Char
  | [] => []
  | '\r' :: '\n' :: s => pastGap false s
  | c :: s =>
    if inComment && isPlain c then pastGap true s
    else if isSpace c || c = '\n' then pastGap false s
    else if c = '#' then pastGap true s
    else c :: s

def gap : Scan Unit := fun s => some ((), pastGap false s)

end SoftFail.Toml
