import SoftFail.Regex.Syntax
import SoftFail.Text.Blank
import SoftFail.Text.Find
import SoftFail.Text.Hex

/-! Reading what stands for one character, one class or one place: escapes and single characters.
Each reader returns what it read and the rest of the expression. -/

namespace SoftFail.Regex

open Text

def pastBlanks (ignore : Bool) : List Char → List Char
  | [] => []
  | c :: s =>
    if !ignore then c :: s
    else if isBlank c then pastBlanks ignore s
    else if c = '#' then comment s
    else c :: s
where
  comment : List Char → List Char
    | [] => []
    | c :: s => if c = '\n' then pastBlanks ignore s else comment s

def isMeta (c : Char) : Bool := "\\.+*?()|[]\x7b\x7d^$#&-~".toList.contains c

def isEscapable (c : Char) : Bool :=
  isMeta c || (c.toNat < 0x80 && !c.isAlphanum && c ≠ '<' && c ≠ '>')

def scalar? (n : Nat) : Option Nat :=
  if n < 0xD800 || (0xDFFF < n && n < 0x110000) then some n else none

def hexDigits (ignore : Bool) : (count n : Nat) → List Char → Option (Nat × List Char)
  | 0, n, s => some (n, s)
  | count + 1, n, s =>
    match s with
    | [] => none
    | c :: s => (hexValue? c).bind fun d => hexDigits ignore count (16 * n + d) (pastBlanks ignore s)

/-- Collects characters up to a closing brace, without the blanks that are ignored. `fuel` is no
less than the length of the text. -/
def braced (ignore : Bool) : (fuel : Nat) → (done : List Char) → List Char →
    Option (List Char × List Char)
  | 0, _, _ => none
  | fuel + 1, done, s =>
    match pastBlanks ignore s with
    | [] => none
    | c :: s => if c = '\x7d' then some (done.reverse, s) else braced ignore fuel (c :: done) s

def hexEscape (ignore : Bool) (letter : Char) (s : List Char) : Option (Literal × List Char) :=
  match pastBlanks ignore s with
  | '\x7b' :: s => do
    let (digits, s) ← braced ignore (s.length + 1) [] s
    if digits.isEmpty then none
    else
      let n ← digits.foldlM (fun n c => (hexValue? c).map fun d => min (16 * n + d) 0x110000) 0
      some (⟨← scalar? n, false⟩, pastBlanks ignore s)
  | s => do
    let count := if letter = 'x' then 2 else if letter = 'u' then 4 else 8
    let (n, s) ← hexDigits ignore count 0 s
    some (⟨← scalar? n, letter = 'x' && 0x80 ≤ n⟩, s)

/-- A property with its value, which `!=`, `:` or `=` may separate. -/
def propertyName (name : List Char) : PropertyName :=
  let cut (separator : List Char) : Option PropertyName :=
    (index? separator name).map fun i =>
      .valued (name.take i) (name.drop (i + separator.length))
  ((cut ['!', '=']).orElse fun _ => (cut [':']).orElse fun _ => cut ['=']).getD (.plain name)

def propertyEscape (ignore : Bool) (s : List Char) : Option (PropertyName × List Char) :=
  match pastBlanks ignore s with
  | [] => none
  | c :: s =>
    if c = '\x7b' then
      (braced ignore (s.length + 1) [] s).map fun (name, s) => (propertyName name, s)
    else if c = '\\' then none
    else some (.plain [c], pastBlanks ignore s)

def boundaryLetters (ignore : Bool) : (fuel : Nat) → (done : List Char) → List Char →
    List Char × List Char
  | 0, done, s => (done.reverse, s)
  | fuel + 1, done, s =>
    match s with
    | [] => (done.reverse, [])
    | c :: s' =>
      if c.isAlpha || c = '-' then boundaryLetters ignore fuel (c :: done) (pastBlanks ignore s')
      else (done.reverse, s)

def boundaryKind (ignore : Bool) (s : List Char) : Option (Anchor × List Char) :=
  match s with
  | '\x7b' :: inner =>
    match pastBlanks ignore inner with
    | [] => none
    | c :: inner =>
      if c.isAlpha || c = '-' then
        match boundaryLetters ignore (inner.length + 1) [] (c :: inner) with
        | (name, '\x7d' :: rest) =>
          if name = "start".toList then some (.wordStart, rest)
          else if name = "end".toList then some (.wordEnd, rest)
          else if name = "start-half".toList then some (.wordStartHalf, rest)
          else if name = "end-half".toList then some (.wordEndHalf, rest)
          else none
        | _ => none
      else some (.wordBoundary, s)
  | s => some (.wordBoundary, s)

def controlEscape? (c : Char) : Option Nat :=
  if c = 'a' then some 7
  else if c = 'f' then some 12
  else if c = 't' then some 9
  else if c = 'n' then some 10
  else if c = 'r' then some 13
  else if c = 'v' then some 11
  else none

def anchorEscape? (c : Char) : Option Anchor :=
  if c = 'A' then some .startText
  else if c = 'z' then some .endText
  else if c = 'B' then some .notWordBoundary
  else if c = '<' then some .wordStart
  else if c = '>' then some .wordEnd
  else none

def perlEscape? (c : Char) : Option (Perl × Bool) :=
  if c = 'd' then some (.digit, false)
  else if c = 's' then some (.blank, false)
  else if c = 'w' then some (.word, false)
  else if c = 'D' then some (.digit, true)
  else if c = 'S' then some (.blank, true)
  else if c = 'W' then some (.word, true)
  else none

def escape (ignore : Bool) : List Char → Option (Syntax × List Char)
  | [] => none
  | c :: s =>
    if c = 'x' || c = 'u' || c = 'U' then
      (hexEscape ignore c s).map fun (l, s) => (.literal l, s)
    else if c = 'p' || c = 'P' then
      (propertyEscape ignore s).map fun (name, s) => (.property name (c = 'P'), s)
    else if c = 'b' then (boundaryKind ignore s).map fun (a, s) => (.anchor a, s)
    else if isEscapable c then some (.literal ⟨c.toNat, false⟩, s)
    else match perlEscape? c, controlEscape? c, anchorEscape? c with
      | some (p, negated), _, _ => some (.perl p negated, s)
      | _, some n, _ => some (.literal ⟨n, false⟩, s)
      | _, _, some a => some (.anchor a, s)
      | _, _, _ => none

def primitive (ignore : Bool) : List Char → Option (Syntax × List Char)
  | [] => none
  | '\\' :: s => escape ignore s
  | '.' :: s => some (.dot, s)
  | '^' :: s => some (.anchor .startLine, s)
  | '$' :: s => some (.anchor .endLine, s)
  | c :: s => some (.literal ⟨c.toNat, false⟩, s)

end SoftFail.Regex
