import SoftFail.Config.Record
import SoftFail.Toml.Printing

/-! Configuration files. -/

namespace SoftFail.Config

/-- Where an expected pattern is a list of its three values, what follows them is not looked at. -/
def withoutSurplus : Value → Value
  | .list values => .list (values.take 3)
  | v => v

def readable : Value → Value
  | .record fields => .record (fields.map fun
    | ("expected_patterns", .list patterns) =>
      ("expected_patterns", .list (patterns.map withoutSurplus))
    | field => field)
  | v => v

def ofToml (text : String) : Except ConfigError Config :=
  match Toml.parse text with
  | none => .error .illFormed
  | some v =>
    match ofValue (readable v) with
    | .ok c => .ok c
    | .error (.misfit m) => .error (.misfit m)
    | .error (.flaw _) => .error .illFormed

def toFields (c : Config) (ratio : Value) : List (String × Value) :=
  let optional (name : String) (v : Option Value) : List (String × Value) :=
    v.toList.map fun v => (name, v)
  [("min_content_length", .natural c.minContentLength)] ++
    optional "max_content_length" (c.maxContentLength.map .natural) ++
    optional "expected_content_type" (c.expectedContentType.map .text) ++
    [("required_markers", .list (c.requiredMarkers.map .text))] ++
    optional "min_item_count" (c.minItemCount.map .natural) ++
    [("check_lazy_loading", .boolean c.checkLazyLoading),
      ("check_pagination", .boolean c.checkPagination),
      ("check_noscript", .boolean c.checkNoscript),
      ("check_structured_data", .boolean c.checkStructuredData),
      ("check_js_rendering", .boolean c.checkJsRendering),
      ("min_text_ratio", ratio),
      ("expected_patterns", .list (c.expectedPatterns.map ExpectedPattern.toValue))]

/-- Lengths and counts beyond the integers of the notation cannot be written. -/
def toToml (c : Config) : Except ConfigError String :=
  match Toml.print (c.toFields (.number (.float c.minTextRatio))) with
  | some text => .ok text
  | none => .error .unwritable

end SoftFail.Config
