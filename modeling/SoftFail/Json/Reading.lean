import SoftFail.Decode.Skip
import SoftFail.Json.Tokens

/-! Reading JSON texts, with the line and column of the first fault. -/

namespace SoftFail.Json

open Decode

structure Position where
  line : Nat
  column : Nat
  deriving DecidableEq

def Position.find (at_ : Position) (offset : Nat) : List Char → Position
  | [] => at_
  | c :: s =>
    if offset < c.utf8Size then ⟨at_.line, at_.column + offset⟩
    else
      let next := if c = '\n' then ⟨at_.line + 1, 0⟩ else ⟨at_.line, at_.column + c.utf8Size⟩
      find next (offset - c.utf8Size) s

structure ReadError where
  cause : Cause
  position : Option Position

def ReadError.message (e : ReadError) : String :=
  e.cause.message Decimal.scientific ++
    match e.position with
    | none => ""
    | some p =>
      " at line " ++ Decimal.text p.line ++ " column " ++ Decimal.text p.column

def read {α : Type} (r : Reader α) (text : String) : Except ReadError α :=
  match r.atEnd.run ⟨tokens text, 0, text.utf8ByteSize⟩ with
  | .ok a => .ok a
  | .error f => .error ⟨f.cause, f.offset.map fun n => Position.find ⟨1, 0⟩ n text.toList⟩

def depth : Nat := 127

def parse (text : String) : Except ReadError Value := read (Reader.value Value.ofFields depth) text

end SoftFail.Json
