import SoftFail.Bound
import SoftFail.Config.Basic
import SoftFail.Decimal.Reading

/-! Options overridden by variables of the environment. -/

namespace SoftFail.Config

def override {α : Type} (read? : String → Option α) (old : α) : Option String → α
  | none => old
  | some s => (read? s).getD old

/-- Reads a length: decimal digits after at most one plus sign, that fit into 64 bits. -/
def length? (s : String) : Option Nat := Decimal.below? bound64 s

def flag? (s : String) : Option Bool :=
  if s = "true" then some true else if s = "false" then some false else none

/-- An empty content type turns the check off. -/
def contentTypeOf (s : String) : Option String := if s = "" then none else some s

def withOverrides (c : Config) (lookup : String → Option String) : Config :=
  { c with
    minContentLength := override length? c.minContentLength (lookup "FETCHGUARD_MIN_CONTENT_LENGTH")
    maxContentLength :=
      override (fun s => (length? s).map some) c.maxContentLength
        (lookup "FETCHGUARD_MAX_CONTENT_LENGTH")
    expectedContentType :=
      override (fun s => some (contentTypeOf s)) c.expectedContentType
        (lookup "FETCHGUARD_EXPECTED_CONTENT_TYPE")
    checkJsRendering := override flag? c.checkJsRendering (lookup "FETCHGUARD_CHECK_JS_RENDERING")
    minTextRatio := override Decimal.float? c.minTextRatio (lookup "FETCHGUARD_MIN_TEXT_RATIO") }

end SoftFail.Config
