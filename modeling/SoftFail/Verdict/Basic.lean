import SoftFail.Check.Basic

/-! Verdicts on a response. -/

namespace SoftFail

inductive Verdict where
  | valid
  /-- The first check that fails. -/
  | invalid (check : Check) (category : Category) (reason : String)
  deriving DecidableEq

namespace Verdict

def isValid : Verdict → Bool
  | valid => true
  | invalid .. => false

def reason? : Verdict → Option String
  | valid => none
  | invalid _ _ reason => some reason

def check? : Verdict → Option Check
  | valid => none
  | invalid check _ _ => some check

def category? : Verdict → Option Category
  | valid => none
  | invalid _ category _ => some category

/-- The verdict for those who only ask whether, and why not. -/
def parts (v : Verdict) : Bool × Option String := (v.isValid, v.reason?)

end Verdict

end SoftFail
