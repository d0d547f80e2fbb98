import SoftFail.Check.Basic
import SoftFail.Check.Delivery
import SoftFail.Check.Expectation
import SoftFail.Check.Fallback
import SoftFail.Check.LinkedData
import SoftFail.Check.Loading
import SoftFail.Check.Protection
import SoftFail.Check.Rendering

/-! Running the checks. -/

namespace SoftFail

structure Subject where
  snapshot : Snapshot
  config : Config
  /-- The patterns of the configuration, compiled. -/
  patterns : List Pattern

def Subject.body (s : Subject) : List Char := (s.snapshot.text?.getD "").toList

structure Outcome where
  passed : Bool
  reason : Option String
  deriving DecidableEq

namespace Outcome

def pass : Outcome := ⟨true, none⟩

def fail (reason : String) : Outcome := ⟨false, some reason⟩

def failure? (o : Outcome) : Option String := if o.passed then none else o.reason

def ofComplaint : Option Complaint → Outcome
  | none => pass
  | some c => fail c.message

end Outcome

namespace Check

def complaint? (c : Check) (s : Subject) : Option Complaint :=
  match c with
  | .status => statusComplaint s.snapshot
  | .suspiciousStatus => suspiciousStatusComplaint s.snapshot
  | .protectionHeaders => protectionComplaint s.snapshot.headers
  | .contentType => contentTypeComplaint s.config.contentType? s.snapshot
  | .redirects => redirectComplaint s.snapshot.redirects
  | .decode => decodeComplaint s.snapshot.body
  | .contentLength => contentLengthComplaint s.config s.snapshot.contentLength
  | .botKeywords => keywordComplaint s.body
  | .requiredMarkers => markerComplaint s.config.requiredMarkers s.body
  | .lazyLoading => lazyComplaint s.body
  | .pagination => paginationComplaint s.body
  | .itemCount => itemComplaint s.config.itemCount? s.body
  | .expectedPatterns => patternsComplaint s.patterns s.body
  | .noscript => noscriptComplaint s.body
  | .structuredData => linkedDataComplaint s.body
  | .jsPlaceholders => placeholderComplaint s.body
  | .contentDensity => densityComplaint s.config.minTextRatio s.body
  | .embeddedData => embeddedDataComplaint s.body

def run (c : Check) (s : Subject) : Outcome := .ofComplaint (c.complaint? s)

def isEnabled (config : Config) : Check → Bool
  | .status | .suspiciousStatus | .protectionHeaders | .redirects | .decode | .contentLength
  | .botKeywords => true
  | .contentType => config.contentType?.isSome
  | .requiredMarkers => !config.requiredMarkers.isEmpty
  | .lazyLoading => config.checkLazyLoading
  | .pagination => config.checkPagination
  | .itemCount => config.itemCount?.isSome
  | .expectedPatterns => !config.expectedPatterns.isEmpty
  | .noscript => config.checkNoscript
  | .structuredData => config.checkStructuredData
  | .jsPlaceholders | .contentDensity | .embeddedData => config.checkJsRendering

end Check

end SoftFail
