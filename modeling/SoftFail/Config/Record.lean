import SoftFail.Config.Basic
import SoftFail.Snapshot.Record

/-! Configurations as records of any notation. -/

namespace SoftFail

open Decode Reader

namespace ExpectedPattern

def readField (st : List String × ExpectedPattern) (name : String) :
    Reader (List String × ExpectedPattern) := do
  let (seen, p) := st
  match name with
  | "name" => let seen ← once seen name; return (seen, { p with name := ← member text })
  | "pattern" => let seen ← once seen name; return (seen, { p with expression := ← member text })
  | "min_count" => let seen ← once seen name; return (seen, { p with minCount := ← member size })
  | _ => member skip; pure st

def read : Reader ExpectedPattern :=
  record "struct ExpectedPattern"
    (do
      let expected := "struct ExpectedPattern with 3 elements"
      let name ← itemAt 0 expected text
      let expression ← itemAt 1 expected text
      return ⟨name, expression, (← item? false size).getD 1⟩)
    (do
      let (seen, p) ← fields readField ([], { name := "", expression := "" })
      require seen "name"
      require seen "pattern"
      pure p)

def toValue (p : ExpectedPattern) : Value :=
  .record [("name", .text p.name), ("pattern", .text p.expression),
    ("min_count", .natural p.minCount)]

end ExpectedPattern

namespace Config

def readField (st : List String × Config) (name : String) : Reader (List String × Config) := do
  let (seen, c) := st
  let set (r : Reader Config) : Reader (List String × Config) := do
    let seen ← once seen name
    return (seen, ← member r)
  match name with
  | "min_content_length" => set (return { c with minContentLength := ← size })
  | "max_content_length" => set (return { c with maxContentLength := ← option size })
  | "expected_content_type" => set (return { c with expectedContentType := ← option text })
  | "required_markers" => set (return { c with requiredMarkers := ← list text })
  | "min_item_count" => set (return { c with minItemCount := ← option size })
  | "check_lazy_loading" => set (return { c with checkLazyLoading := ← boolean })
  | "check_pagination" => set (return { c with checkPagination := ← boolean })
  | "check_noscript" => set (return { c with checkNoscript := ← boolean })
  | "check_structured_data" => set (return { c with checkStructuredData := ← boolean })
  | "check_js_rendering" => set (return { c with checkJsRendering := ← boolean })
  | "min_text_ratio" => set (return { c with minTextRatio := ← float })
  | "expected_patterns" => set (return { c with expectedPatterns := ← list ExpectedPattern.read })
  | _ => member skip; pure st

def read : Reader Config :=
  record "struct DetectorConfig"
    (do
      let c : Config := {}
      return {
        minContentLength := (← item? true size).getD c.minContentLength
        maxContentLength := (← item? false (option size)).getD c.maxContentLength
        expectedContentType := (← item? false (option text)).getD c.expectedContentType
        requiredMarkers := (← item? false (list text)).getD c.requiredMarkers
        minItemCount := (← item? false (option size)).getD c.minItemCount
        checkLazyLoading := (← item? false boolean).getD c.checkLazyLoading
        checkPagination := (← item? false boolean).getD c.checkPagination
        checkNoscript := (← item? false boolean).getD c.checkNoscript
        checkStructuredData := (← item? false boolean).getD c.checkStructuredData
        checkJsRendering := (← item? false boolean).getD c.checkJsRendering
        minTextRatio := (← item? false float).getD c.minTextRatio
        expectedPatterns := (← item? false (list ExpectedPattern.read)).getD c.expectedPatterns })
    (do
      let (_, c) ← fields readField ([], {})
      pure c)

def ofJson (text : String) : Except Json.ReadError Config := Json.read read text

def ofValue (v : Value) : Except Cause Config :=
  match read.run ⟨valueTokens v [], 0, 0⟩ with
  | .ok c => .ok c
  | .error f => .error f.cause

end Config

end SoftFail
