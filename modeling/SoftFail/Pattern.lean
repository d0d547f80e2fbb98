import SoftFail.Config.Basic
import SoftFail.Regex.Basic

/-! Expected patterns, ready to be matched. -/

namespace SoftFail

structure Pattern where
  name : String
  regex : Regex
  minCount : Nat

inductive DetectorError where
  /-- The expression of the pattern of this name is ill-formed. -/
  | invalidPattern (name : String)
  | invalidConfig (e : ConfigError)

def DetectorError.message : DetectorError → String
  | .invalidPattern name => "invalid expected pattern '" ++ name ++ "'"
  | .invalidConfig e => "invalid detector configuration: " ++ e.message

namespace Pattern

def compile (p : ExpectedPattern) : Except DetectorError Pattern :=
  match Regex.parse? p.expression with
  | some regex => .ok ⟨p.name, regex, p.minCount⟩
  | none => .error (.invalidPattern p.name)

/-- Compiles all patterns but those with an empty expression; the first that is ill-formed is the
error. -/
def compileAll (ps : List ExpectedPattern) : Except DetectorError (List Pattern) :=
  (ps.filter fun p => p.expression ≠ "").mapM compile

def values (p : Pattern) (body : List Char) : List String := p.regex.values body

end Pattern

end SoftFail
