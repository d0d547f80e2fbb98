import SoftFail.Text.Hex
import SoftFail.Toml.Scan

/-! Quoted text in TOML: with escapes or literal, on one line or on many. -/

namespace SoftFail.Toml

open Scan

def hexChar (places : Nat) : Scan Char := do
  let ds ← exactly (fun c => (Text.hexValue? c).isSome) places
  let n := ds.foldl (fun n c => 16 * n + (Text.hexValue? c).getD 0) 0
  if n.isValidChar then pure (Char.ofNat n) else failure

def escaped : Scan Char := do
  match ← one (fun _ => true) with
  | 'b' => pure '\x08'
  | 't' => pure '\t'
  | 'n' => pure '\n'
  | 'f' => pure '\x0C'
  | 'r' => pure '\r'
  | '"' => pure '"'
  | '\\' => pure '\\'
  | 'u' => hexChar 4
  | 'U' => hexChar 8
  | _ => failure

def basicPiece : Scan (List Char) :=
  run1 (fun c => isPlain c && c ≠ '"' && c ≠ '\\') <|> (do char '\\'; return [← escaped])

def basic : Scan (List Char) := do
  char '"'
  let cs ← many basicPiece
  char '"'
  pure cs.flatten

def literal : Scan (List Char) := do
  char '\''
  let cs ← run (fun c => isPlain c && c ≠ '\'')
  char '\''
  pure cs

/-- A line end behind a backslash, with all blanks and line ends after it. -/
def joined : Scan (List Char) := do
  char '\\'
  spaces
  newline
  let _ ← many (newline <|> do let _ ← run1 isSpace)
  pure []

def lineFeed : Scan (List Char) := do newline; pure ['\n']

def marks (q : Char) : Scan (List Char) := do
  let qs ← run (· = q)
  match ← peek? with
  | some _ => if qs = [q] || qs = [q, q] then pure qs else failure
  | none => failure

/-- The last three quotation marks close the text; one or two in front of them belong to it. -/
def close (q : Char) : Scan (List Char) :=
  (do word [q, q, q, q, q]; pure [q, q]) <|> (do word [q, q, q, q]; pure [q]) <|>
    (do word [q, q, q]; pure [])

/-- A text of many lines between triple quotation marks. A line end behind the first three does not
belong to it. -/
def lines (q : Char) (piece : Scan (List Char)) : Scan (List Char) := do
  word [q, q, q]
  let _ ← maybe newline
  let cs ← many (marks q <|> piece <|> lineFeed)
  return cs.flatten ++ (← close q)

def basicLines : Scan (List Char) := lines '"' (joined <|> basicPiece)

def literalLines : Scan (List Char) := lines '\'' (run1 fun c => isPlain c && c ≠ '\'')

def quoted : Scan String :=
  String.ofList <$> (basicLines <|> basic <|> literalLines <|> literal)

end SoftFail.Toml
