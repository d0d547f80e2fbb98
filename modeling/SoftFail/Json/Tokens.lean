import SoftFail.Json.Number
import SoftFail.Json.Quoted

/-! The tokens of a JSON text. -/

namespace SoftFail.Json

open Decode

def isBlank (c : Char) : Bool := c = ' ' || c = '\n' || c = '\r' || c = '\t'

def wordFault? (size at_ : Nat) : (word s : List Char) → Option Fault
  | [], _ => none
  | _ :: _, [] => some (.flaw .endInValue size)
  | w :: word, c :: s =>
    if c = w then wordFault? size (at_ + 1) word s else some (.flaw .expectedWord (at_ + 1))

def wordLexeme (size at_ : Nat) (kind : Kind) (word s : List Char) : Lexeme :=
  match wordFault? size (at_ + 1) word s with
  | none => ⟨kind, word.length, at_ + 1 + word.length, false⟩
  | some f => ⟨.broken f, 0, at_, true⟩

def numberLexeme (at_ : Nat) (s : List Char) : Lexeme :=
  match Literal.read at_ s with
  | .ok n => ⟨.number n.value none, n.stop - at_ - 1, n.stop, false⟩
  | .error d =>
    ⟨.number (.error (.flaw d.read d.offset)) (some (.flaw d.skipped d.offset)), 0, at_, true⟩

def lexeme (size at_ : Nat) (c : Char) (s : List Char) : Lexeme :=
  let sign (kind : Kind) : Lexeme := ⟨kind, 0, at_ + 1, false⟩
  match c with
  | '[' => sign .openList
  | ']' => sign .closeList
  | '\x7b' => sign .openRecord
  | '\x7d' => sign .closeRecord
  | ',' => sign .comma
  | ':' => sign .colon
  | '"' => scanText size 0 (at_ + 1) .start s
  | 'n' => wordLexeme size at_ .null ['u', 'l', 'l'] s
  | 't' => wordLexeme size at_ (.boolean true) ['r', 'u', 'e'] s
  | 'f' => wordLexeme size at_ (.boolean false) ['a', 'l', 's', 'e'] s
  | c =>
    if c = '-' || c.isDigit then numberLexeme at_ (c :: s) else ⟨.stray, 0, at_, true⟩

/-- Collects tokens from byte `at_` on; `skip` characters still belong to the last one. -/
def tokensFrom (size : Nat) (done : List Token) (skip at_ : Nat) : List Char → List Token
  | [] => done.reverse
  | c :: s =>
    let next := at_ + c.utf8Size
    match skip with
    | skip + 1 => tokensFrom size done skip next s
    | 0 =>
      if isBlank c then tokensFrom size done 0 next s
      else
        let x := lexeme size at_ c s
        let done := ⟨x.kind, at_, x.stop⟩ :: done
        if x.last then done.reverse else tokensFrom size done x.taken next s

def tokens (text : String) : List Token := tokensFrom text.utf8ByteSize [] 0 0 text.toList

end SoftFail.Json
