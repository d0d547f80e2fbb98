import SoftFail.Check.Outcome
import SoftFail.Config.Record

/-! Outcomes of checks as JSON records. -/

namespace SoftFail

open Decode Reader

namespace Outcome

def readField (st : List String × Outcome) (name : String) : Reader (List String × Outcome) := do
  let (seen, o) := st
  match name with
  | "passed" => let seen ← once seen name; return (seen, { o with passed := ← member boolean })
  | "reason" => let seen ← once seen name; return (seen, { o with reason := ← member (option text) })
  | _ => member skip; pure st

def read : Reader Outcome :=
  record "struct CheckResult"
    (do
      let passed ← itemAt 0 "struct CheckResult with 2 elements" boolean
      return ⟨passed, (← item? false (option text)).join⟩)
    (do
      let (seen, o) ← fields readField ([], .pass)
      require seen "passed"
      pure o)

def toValue (o : Outcome) : Value :=
  .record (("passed", .boolean o.passed) :: match o.reason with
    | none => []
    | some r => [("reason", .text r)])

end Outcome

end SoftFail
