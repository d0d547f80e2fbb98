/-! The checks of a response, by name, in the order in which they run: facts about the delivery
first, scans of the body last. -/

namespace SoftFail

inductive Category where
  | transport
  | protection
  | structural
  | incompleteness
  | rendering
  | decode
  deriving DecidableEq, Repr

namespace Category

def all : List Category :=
  [.transport, .protection, .structural, .incompleteness, .rendering, .decode]

def name : Category → String
  | .transport => "transport"
  | .protection => "protection"
  | .structural => "structural"
  | .incompleteness => "incompleteness"
  | .rendering => "rendering"
  | .decode => "decode"

def named : List (String × Category) := all.map fun c => (c.name, c)

end Category

inductive Check where
  | status
  | suspiciousStatus
  | protectionHeaders
  | contentType
  | redirects
  | decode
  | contentLength
  | botKeywords
  | requiredMarkers
  | lazyLoading
  | pagination
  | itemCount
  | expectedPatterns
  | noscript
  | structuredData
  | jsPlaceholders
  | contentDensity
  | embeddedData
  deriving DecidableEq, Repr

namespace Check

def all : List Check :=
  [.status, .suspiciousStatus, .protectionHeaders, .contentType, .redirects, .decode,
    .contentLength, .botKeywords, .requiredMarkers, .lazyLoading, .pagination, .itemCount,
    .expectedPatterns, .noscript, .structuredData, .jsPlaceholders, .contentDensity, .embeddedData]

def name : Check → String
  | .status => "status"
  | .suspiciousStatus => "suspicious_status"
  | .protectionHeaders => "protection_headers"
  | .contentType => "content_type"
  | .redirects => "redirects"
  | .decode => "decode"
  | .contentLength => "content_length"
  | .botKeywords => "bot_keywords"
  | .requiredMarkers => "required_markers"
  | .lazyLoading => "lazy_loading"
  | .pagination => "pagination"
  | .itemCount => "item_count"
  | .expectedPatterns => "expected_patterns"
  | .noscript => "noscript"
  | .structuredData => "structured_data"
  | .jsPlaceholders => "js_placeholders"
  | .contentDensity => "content_density"
  | .embeddedData => "embedded_data"

def named : List (String × Check) := all.map fun c => (c.name, c)

def ofName? (name : String) : Option Check := named.lookup name

def index (c : Check) : Nat := all.idxOf c

def category : Check → Category
  | .status | .suspiciousStatus => .transport
  | .protectionHeaders | .botKeywords => .protection
  | .contentType | .redirects | .contentLength => .structural
  | .decode => .decode
  | .requiredMarkers | .lazyLoading | .pagination | .itemCount | .expectedPatterns | .noscript
  | .structuredData => .incompleteness
  | .jsPlaceholders | .contentDensity | .embeddedData => .rendering

theorem mem_all (c : Check) : c ∈ all := by cases c <;> decide

theorem ofName?_name (c : Check) : ofName? c.name = some c := by cases c <;> rfl

end Check

end SoftFail
