import SoftFail.Toml.Quoted
import SoftFail.Toml.Scalar
import SoftFail.Toml.Table

/-! Reading TOML documents. -/

namespace SoftFail.Toml

open Scan

/-- Dotted keys have fewer parts than this, and values are nested less deeply. -/
def depth : Nat := 80

def isBare (c : Char) : Bool := c.isAlphanum || c = '_' || c = '-'

def keyPart : Scan String := do
  spaces
  let cs ← basic <|> literal <|> run1 isBare
  spaces
  pure (String.ofList cs)

def key : Scan (List String × String) := do
  let first ← keyPart
  let rest ← many do char '.'; keyPart
  let parts := first :: rest
  if parts.length < depth then pure (parts.dropLast, parts.getLastD first) else failure

def separated {α : Type} (r : Scan α) : Scan (List α) :=
  (do
    let a ← r
    let rest ← many do char ','; r
    return a :: rest) <|> pure []

def list (item : Scan Value) : Scan Value := do
  char '['
  let items ← separated do gap; let v ← item; gap; pure v
  if !items.isEmpty then
    let _ ← maybe (char ',')
  gap
  char ']'
  return .list items

def pair (item : Scan Value) : Scan ((List String × String) × Value) := do
  let k ← key
  char '='
  spaces
  return (k, ← item)

def inlineTable (item : Scan Value) : Scan Value := do
  char '\x7b'
  let pairs ← separated do let p ← pair item; spaces; pure p
  spaces
  char '\x7d'
  match pairs.foldlM (fun fields (k, v) => Fields.addValue k.1 k.2 v .header fields) [] with
  | some fields => pure (Node.table .header fields).toValue
  | none => failure

def value : (room : Nat) → Scan Value
  | 0 => .text <$> quoted <|> scalar
  | room + 1 => do
    match ← peek? with
    | some '[' => list (value room)
    | some '\x7b' => inlineTable (value room)
    | _ => .text <$> quoted <|> scalar

/-- What was read so far, and the path of the table that keys are added to. -/
structure Document where
  fields : Fields
  current : List String

def accept (d : Document) (fields : Option Fields) : Scan Document :=
  match fields with
  | some fields => pure { d with fields }
  | none => failure

def header (d : Document) : Scan Document := do
  char '['
  let isItem ← passed ['[']
  let (path, name) ← key
  word (if isItem then [']', ']'] else [']'])
  lineEnd
  let add := if isItem then Fields.addItem else Fields.addTable
  accept { d with current := path ++ [name] } (add path name d.fields)

def assignment (d : Document) : Scan Document := do
  let ((path, name), v) ← pair (value (depth - 1))
  lineEnd
  accept d (Fields.within .path (Fields.addValue path name v) d.current .header d.fields)

/-- Reads line after line, of which there are no more than `fuel` is long. -/
def documentFrom (d : Document) : (fuel : List Char) → Scan Document
  | [] => pure d
  | _ :: fuel => do
    spaces
    match ← peek? with
    | none => pure d
    | some '\n' | some '\r' => newline; documentFrom d fuel
    | some '#' => lineEnd; documentFrom d fuel
    | some '[' => documentFrom (← header d) fuel
    | some _ => documentFrom (← assignment d) fuel

/-- A whole text, which may begin with a byte order mark. -/
def document : Scan Document := do
  let _ ← maybe (char '\uFEFF')
  fun s => documentFrom ⟨[], []⟩ s s

def parse (text : String) : Option Value :=
  (document text.toList).map fun (d, _) => .record (toFields d.fields)

end SoftFail.Toml
