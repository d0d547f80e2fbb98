import SoftFail.Decimal.Notation
import SoftFail.Text.Quoted

/-! What can be wrong with a document: its notation is broken, or it does not fit what is read
from it. -/

namespace SoftFail.Decode

inductive Flaw where
  | endInValue
  | endInText
  | endInList
  | endInRecord
  | expectedValue
  | expectedWord
  | expectedColon
  | expectedListComma
  | expectedRecordComma
  | expectedKey
  | trailingComma
  | trailingCharacters
  | invalidNumber
  | numberOutOfRange
  | invalidEscape
  | controlCharacter
  | loneSurrogate
  | unpairedSurrogate
  | tooDeep
  deriving DecidableEq

def Flaw.message : Flaw → String
  | .endInValue => "EOF while parsing a value"
  | .endInText => "EOF while parsing a string"
  | .endInList => "EOF while parsing a list"
  | .endInRecord => "EOF while parsing an object"
  | .expectedValue => "expected value"
  | .expectedWord => "expected ident"
  | .expectedColon => "expected `:`"
  | .expectedListComma => "expected `,` or `]`"
  | .expectedRecordComma => "expected `,` or `\x7d`"
  | .expectedKey => "key must be a string"
  | .trailingComma => "trailing comma"
  | .trailingCharacters => "trailing characters"
  | .invalidNumber => "invalid number"
  | .numberOutOfRange => "number out of range"
  | .invalidEscape => "invalid escape"
  | .controlCharacter => "control character (\\u0000-\\u001F) found while parsing a string"
  | .loneSurrogate => "lone leading surrogate in hex escape"
  | .unpairedSurrogate => "unexpected end of hex escape"
  | .tooDeep => "recursion limit exceeded"

inductive Found where
  | null
  | boolean (b : Bool)
  | integer (i : Int)
  | float (x : Float)
  | text (s : String)
  | list
  | record

def Found.describe (style : Decimal.Style) : Found → String
  | .null => "null"
  | .boolean b => "boolean `" ++ (if b then "true" else "false") ++ "`"
  | .integer i => "integer `" ++ Decimal.intText i ++ "`"
  | .float x => "floating point `" ++ style.text x ++ "`"
  | .text s => "string " ++ Text.quoted s
  | .list => "sequence"
  | .record => "map"

inductive Misfit where
  | wrongType (found : Found) (expected : String)
  | wrongValue (found : Found) (expected : String)
  | wrongLength (length : Nat) (expected : String)
  | unknownVariant (name : String) (known : List String)
  | missingField (name : String)
  | duplicateField (name : String)
  | noVariant (type : String)

def choices : List String → String
  | [] => "there are no variants"
  | [a] => "expected `" ++ a ++ "`"
  | [a, b] => "expected `" ++ a ++ "` or `" ++ b ++ "`"
  | names => "expected one of " ++ ", ".intercalate (names.map fun n => "`" ++ n ++ "`")

def Misfit.message (style : Decimal.Style) : Misfit → String
  | .wrongType found expected =>
    "invalid type: " ++ found.describe style ++ ", expected " ++ expected
  | .wrongValue found expected =>
    "invalid value: " ++ found.describe style ++ ", expected " ++ expected
  | .wrongLength length expected =>
    "invalid length " ++ Decimal.text length ++ ", expected " ++ expected
  | .unknownVariant name known => "unknown variant `" ++ name ++ "`, " ++ choices known
  | .missingField name => "missing field `" ++ name ++ "`"
  | .duplicateField name => "duplicate field `" ++ name ++ "`"
  | .noVariant type => "data did not match any variant of untagged enum " ++ type

inductive Cause where
  | flaw (f : Flaw)
  | misfit (m : Misfit)

def Cause.message (style : Decimal.Style) : Cause → String
  | .flaw f => f.message
  | .misfit m => m.message style

structure Fault where
  cause : Cause
  offset : Option Nat

def Fault.flaw (f : Flaw) (offset : Nat) : Fault := ⟨.flaw f, some offset⟩

def Fault.misfit (m : Misfit) : Fault := ⟨.misfit m, none⟩

def Fault.settle (f : Fault) (offset : Nat) : Fault := { f with offset := some (f.offset.getD offset) }

end SoftFail.Decode
