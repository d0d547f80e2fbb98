import SoftFail.Bound
import SoftFail.Decimal.Notation
import SoftFail.Text.Hex
import SoftFail.Toml.Reading

/-! Writing TOML documents. -/

namespace SoftFail.Toml

inductive Quotes where
  | basic
  | literal
  | basicLines
  | literalLines
  deriving DecidableEq

def longestRun (q : Char) (s : List Char) : Nat :=
  (s.foldl (fun (best, n) c => if c = q then (max best (n + 1), n + 1) else (best, 0)) (0, 0)).1

/-- The first form that needs no escapes, and among the others the one that keeps lines apart. -/
def Quotes.choose (s : List Char) : Quotes :=
  let control := s.any fun c => !isPlain c && c ≠ '\n'
  let escape := control || s.contains '\\'
  let newline := s.contains '\n'
  let double := longestRun '"' s
  let single := longestRun '\'' s
  if !escape && double = 0 && !newline then .basic
  else if !control && single = 0 && !newline then .literal
  else if !escape && double ≤ 2 then .basicLines
  else if !control && single ≤ 2 then .literalLines
  else if newline then .basicLines
  else .basic

def escape (c : Char) : List Char :=
  if c = '\x08' then ['\\', 'b']
  else if c = '\t' then ['\\', 't']
  else if c = '\n' then ['\\', 'n']
  else if c = '\x0C' then ['\\', 'f']
  else if c = '\r' then ['\\', 'r']
  else if c = '\\' then ['\\', '\\']
  else if isPlain c then [c]
  else '\\' :: 'u' :: (Text.hexPlaces 4 c.toNat).map Char.toUpper

/-- Escapes what a text with escapes cannot hold, in which up to `allowed` quotation marks may
stand side by side; `marks` came right before. -/
def escapeAll (lines : Bool) (allowed : Nat) : (marks : Nat) → List Char → List Char
  | _, [] => []
  | marks, c :: s =>
    if c = '"' then
      if marks < allowed then c :: escapeAll lines allowed (marks + 1) s
      else '\\' :: c :: escapeAll lines allowed 0 s
    else if c = '\n' && lines then c :: escapeAll lines allowed 0 s
    else escape c ++ escapeAll lines allowed 0 s

/-- The quoted form of a text. Text that has line ends itself begins on a line of its own. -/
def quote (text : String) : List Char :=
  let s := text.toList
  let feed := if s.contains '\n' then ['\n'] else []
  match Quotes.choose s with
  | .basic => '"' :: escapeAll false 0 0 s ++ ['"']
  | .literal => '\'' :: s ++ ['\'']
  | .basicLines => ['"', '"', '"'] ++ feed ++ escapeAll true 2 0 s ++ ['"', '"', '"']
  | .literalLines => ['\'', '\'', '\''] ++ feed ++ s ++ ['\'', '\'', '\'']

def keyText (name : String) : List Char :=
  let s := name.toList
  if s ≠ [] && s.all isBare then s else quote name

mutual

/-- A value behind its key. Nothing stands for null, and for integers beyond 64 bits. -/
def valueText : Value → Option (List Char)
  | .null => none
  | .boolean b => some (if b then "true" else "false").toList
  | .number (.integer i) =>
    if isSigned64 i then some (Decimal.intText i).toList else none
  | .number (.float x) => some (Decimal.pointed.text x).toList
  | .text s => some (quote s)
  | .list [] => some ['[', ']']
  | .list [v] => (valueText v).map fun s => '[' :: s ++ [']']
  | .list items => (itemLines items).map fun s => '[' :: s ++ ['\n', ']']
  | .record fields => (pairTexts fields).map fun s => '\x7b' :: s ++ [' ', '\x7d']

def itemLines : List Value → Option (List Char)
  | [] => some []
  | v :: items => do
    let s ← valueText v
    return '\n' :: List.replicate 4 ' ' ++ s ++ ',' :: (← itemLines items)

def pairTexts : List (String × Value) → Option (List Char)
  | [] => some []
  | (name, v) :: fields => do
    let s ← valueText v
    let rest ← pairTexts fields
    return ' ' :: keyText name ++ " = ".toList ++ s ++ (if rest.isEmpty then rest else ',' :: rest)

end

def lineTexts (fields : List (String × Value)) : Option (List Char) := do
  let lines ← fields.mapM fun (name, v) => do
    return keyText name ++ " = ".toList ++ (← valueText v) ++ ['\n']
  return lines.flatten

/-- The fields of all items when they are records, and there is one at least. -/
def records? : Value → Option (List (List (String × Value)))
  | .list [] => none
  | .list items => items.mapM fun
    | .record fields => some fields
    | _ => none
  | _ => none

def tableText (name : String) (fields : List (String × Value)) : Option (List Char) := do
  return "\n[[".toList ++ keyText name ++ "]]\n".toList ++ (← lineTexts fields)

/-- A document in which lists of records are written as tables behind all other fields. -/
def print (fields : List (String × Value)) : Option String := do
  let top ← lineTexts (fields.filter fun f => (records? f.2).isNone)
  let below ← fields.mapM fun (name, v) => do
    return (← ((records? v).getD []).mapM (tableText name)).flatten
  return String.ofList (top ++ below.flatten)

end SoftFail.Toml
