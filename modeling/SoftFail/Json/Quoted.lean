import SoftFail.Decode.Token
import SoftFail.Text.Hex

/-! Quoted text in JSON: writing it, and scanning it up to its closing quotation mark. -/

namespace SoftFail.Json

open Decode

def escape (c : Char) : List Char :=
  if c = '"' then ['\\', '"']
  else if c = '\\' then ['\\', '\\']
  else if c = '\n' then ['\\', 'n']
  else if c = '\r' then ['\\', 'r']
  else if c = '\t' then ['\\', 't']
  else if c = '\x08' then ['\\', 'b']
  else if c = '\x0C' then ['\\', 'f']
  else if c.toNat < 0x20 then '\\' :: 'u' :: Text.hexPlaces 4 c.toNat
  else [c]

def quote (s : String) (tail : List Char) : List Char :=
  '"' :: s.toList.foldr (fun c out => escape c ++ out) ('"' :: tail)

def unescape? (c : Char) : Option Char :=
  if c = '"' || c = '\\' || c = '/' then some c
  else if c = 'b' then some '\x08'
  else if c = 'f' then some '\x0C'
  else if c = 'n' then some '\n'
  else if c = 'r' then some '\r'
  else if c = 't' then some '\t'
  else none

inductive Mode where
  | plain
  | escape
  /-- Inside the four digits of an escape: how many came, their value, and where the first one
  stands. -/
  | hex (count n start : Nat)

/-- A scan under way: the characters so far, last first, the first half of a surrogate pair when
its second half must follow, and the first fault that only matters to readers. -/
structure Scan where
  mode : Mode
  done : List Char
  high : Option Nat
  fault : Option Fault

namespace Scan

def start : Scan := ⟨.plain, [], none, none⟩

def flawed (t : Scan) (f : Flaw) (offset : Nat) : Scan :=
  { t with high := none, fault := some (t.fault.getD (.flaw f offset)) }

def unpaired (t : Scan) (offset : Nat) : Scan :=
  if t.high.isSome then t.flawed .unpairedSurrogate offset else t

def push (t : Scan) (c : Char) : Scan := { t with mode := .plain, done := c :: t.done }

def unit (t : Scan) (n offset : Nat) : Scan :=
  let t := { t with mode := .plain }
  match t.high with
  | some h =>
    if 0xDC00 ≤ n && n ≤ 0xDFFF then
      { t with high := none, done := Char.ofNat (0x10000 + (h - 0xD800) * 0x400 + (n - 0xDC00)) :: t.done }
    else t.flawed .loneSurrogate offset
  | none =>
    if 0xDC00 ≤ n && n ≤ 0xDFFF then t.flawed .loneSurrogate offset
    else if 0xD800 ≤ n && n ≤ 0xDBFF then { t with high := some n }
    else t.push (Char.ofNat n)

end Scan

/-- A token that was found, and how many characters it takes behind its first one. Nothing is read
behind the last token. -/
structure Lexeme where
  kind : Kind
  taken : Nat
  stop : Nat
  last : Bool

def Scan.finish (t : Scan) (taken stop : Nat) : Lexeme :=
  let value := match t.fault with
    | some f => .error f
    | none => .ok (String.ofList t.done.reverse)
  ⟨.text value none, taken, stop, false⟩

/-- The scan ends in a fault, reported at `read` to readers and at `skipped` to others. -/
def Scan.fail (t : Scan) (f : Flaw) (read skipped : Nat) : Lexeme :=
  ⟨.text (.error (t.fault.getD (.flaw f read))) (some (.flaw f skipped)), 0, skipped, true⟩

def scanText (size taken at_ : Nat) (t : Scan) : List Char → Lexeme
  | [] => t.fail .endInText size size
  | c :: s =>
    let next := at_ + c.utf8Size
    match t.mode with
    | .plain =>
      if c = '\\' then scanText size (taken + 1) next { t with mode := .escape } s
      else
        let t := t.unpaired (at_ + 1)
        if c = '"' then t.finish (taken + 1) next
        else if c.toNat < 0x20 then t.fail .controlCharacter (at_ + 1) at_
        else scanText size (taken + 1) next (t.push c) s
    | .escape =>
      if c = 'u' then scanText size (taken + 1) next { t with mode := .hex 0 0 next } s
      else
        let t := t.unpaired (at_ + 1)
        match unescape? c with
        | some c => scanText size (taken + 1) next (t.push c) s
        | none => t.fail .invalidEscape (at_ + 1) (at_ + 1)
    | .hex count n start =>
      match Text.hexValue? c with
      | none =>
        if start + 4 ≤ size then t.fail .invalidEscape (start + 4) (start + 4)
        else t.fail .endInText size size
      | some d =>
        let n := 16 * n + d
        if count < 3 then scanText size (taken + 1) next { t with mode := .hex (count + 1) n start } s
        else scanText size (taken + 1) next (t.unit n next) s

end SoftFail.Json
