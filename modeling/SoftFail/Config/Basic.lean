import SoftFail.Decimal.Notation
import SoftFail.Decode.Fault
import SoftFail.Text.Blank

/-! The options of a detector. -/

namespace SoftFail

structure ExpectedPattern where
  name : String
  expression : String
  minCount : Nat := 1
  deriving DecidableEq

structure Config where
  /-- In bytes; 0 turns the lower bound off. -/
  minContentLength : Nat := 500
  /-- In bytes; none turns the upper bound off. -/
  maxContentLength : Option Nat := none
  /-- Part of the content type that is expected; none and the empty text turn the check off. -/
  expectedContentType : Option String := some "text/html"
  /-- Texts that must all occur in the body. -/
  requiredMarkers : List String := []
  /-- Number of repeated items; none and 0 turn the check off. -/
  minItemCount : Option Nat := none
  checkLazyLoading : Bool := true
  checkPagination : Bool := true
  checkNoscript : Bool := true
  checkStructuredData : Bool := true
  checkJsRendering : Bool := false
  /-- Smallest share of visible text in a page that was rendered. -/
  minTextRatio : Float := 0.05
  expectedPatterns : List ExpectedPattern := []

inductive ConfigError where
  /-- There is no place for configuration files. -/
  | noDirectory
  | notFound (path : String)
  /-- The text is not in the notation of configuration files. -/
  | illFormed
  /-- The text holds something else than a configuration. -/
  | misfit (m : Decode.Misfit)
  /-- A number is too large for a configuration file. -/
  | unwritable
  /-- The file system refuses. -/
  | io
  | crossedLengths (min max : Nat)
  | badRatio (ratio : Float)
  | namelessPattern (expression : String)
  /-- A path that cannot be the path of a file. -/
  | noParent

def ConfigError.message : ConfigError → String
  | .noDirectory => "could not determine config directory (XDG base directories not available)"
  | .notFound path => "config file not found at " ++ path
  | .illFormed => "failed to parse config TOML"
  | .misfit m =>
    m.message { Decimal.pointed with nan := "NaN.0", infinity := "inf.0" }
  | .unwritable => "failed to serialize config: out-of-range value for u64 type"
  | .io => "I/O error"
  | .crossedLengths min max =>
    "invalid config value for max_content_length: must be at least min_content_length (" ++
      Decimal.text min ++ "), got " ++ Decimal.text max
  | .badRatio ratio =>
    "invalid config value for min_text_ratio: must be between 0 and 1, got " ++
      Decimal.plain.text ratio
  | .namelessPattern expression =>
    "invalid config value for expected_patterns: pattern '" ++ expression ++ "' has an empty name"
  | .noParent => "invalid config value for config_path: no parent directory"

namespace Config

def contentType? (c : Config) : Option String := c.expectedContentType.filter (· ≠ "")

def itemCount? (c : Config) : Option Nat := c.minItemCount.filter (0 < ·)

def isNameless (p : ExpectedPattern) : Bool := p.name.toList.all Text.isBlank

/-- Bounds must not cross, the ratio must be one, and patterns must have names. -/
def validate (c : Config) : Except ConfigError Unit := do
  if let some max := c.maxContentLength then
    if max < c.minContentLength then throw (.crossedLengths c.minContentLength max)
  if !(0.0 ≤ c.minTextRatio && c.minTextRatio ≤ 1.0) then throw (.badRatio c.minTextRatio)
  if let some p := c.expectedPatterns.find? isNameless then throw (.namelessPattern p.expression)

/-- Two configurations agree when all options are equal; a ratio that is no number equals none. -/
def agrees (c d : Config) : Bool :=
  c.minContentLength = d.minContentLength && c.maxContentLength = d.maxContentLength &&
    c.expectedContentType = d.expectedContentType && c.requiredMarkers = d.requiredMarkers &&
    c.minItemCount = d.minItemCount && c.checkLazyLoading = d.checkLazyLoading &&
    c.checkPagination = d.checkPagination && c.checkNoscript = d.checkNoscript &&
    c.checkStructuredData = d.checkStructuredData && c.checkJsRendering = d.checkJsRendering &&
    c.minTextRatio == d.minTextRatio && c.expectedPatterns = d.expectedPatterns

end Config

end SoftFail
