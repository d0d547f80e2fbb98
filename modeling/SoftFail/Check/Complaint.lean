import SoftFail.Decimal.Notation
import SoftFail.Json.Reading
import SoftFail.Text.Quoted

/-! Complaints: what a check can have against a response. -/

namespace SoftFail

inductive Complaint where
  | badStatus (status : UInt16)
  /-- A successful status with which soft blocks are delivered. -/
  | softBlock (status : UInt16)
  | protectionHeader (header sign : String)
  | wrongContentType (expected actual : String)
  | redirectLoop
  | challengeRedirect (keyword url : String)
  | blockingRedirect (status : UInt16) (url : String)
  | tooManyRedirects (hops : Nat)
  | undecodable (error : String)
  | emptyBody
  | tooSmall (length min : Nat)
  | tooLarge (length max : Nat)
  | botKeyword (keyword context : String)
  | missingMarkers (markers : List String)
  /-- Labels of placeholders with the number of their occurrences. -/
  | unloaded (counts : List (String × Nat))
  | loadMore (excerpt : String)
  | firstPageOnly
  | infiniteScroll (trigger : String)
  | tooFew (count : Nat) (label : String) (min : Nat)
  | identicalValues (name value : String)
  | dominantValue (count total : Nat) (name : String)
  | largeNoscript (chars : Nat)
  | scriptNotice (notice : String)
  /-- Linked data is numbered from 1 on. -/
  | malformedData (index : Nat) (error : Json.ReadError)
  | productWithoutName (index : Nat)
  | productWithoutPrice (index : Nat)
  | emptyItemList (index : Nat)
  | placeholders (labels : List String)
  | emptyDocument
  /-- Bytes of visible text, bytes in all, and number of scripts. -/
  | sparseText (text total scripts : Nat)
  | heavyScripts (text total scripts : Nat)
  | unrenderedData (labels : List String)

def share (text total : Nat) : Float := Float.ofNat text / Float.ofNat total

def percent (text total : Nat) : String := Decimal.fixed 1 (share text total * 100.0)

namespace Complaint

open Decimal (text)

def message : Complaint → String
  | badStatus status => s!"HTTP error: {text status.toNat}"
  | softBlock status => s!"Suspicious status code: {text status.toNat}"
  | protectionHeader header sign => s!"Protection detected via header {header}: {sign}"
  | wrongContentType expected actual =>
    s!"Wrong content-type: expected '{expected}', got '{actual}'"
  | redirectLoop => "Redirect loop detected"
  | challengeRedirect keyword url => s!"Suspicious redirect ({keyword}): {url}"
  | blockingRedirect status url =>
    s!"Blocking status in redirect chain: {text status.toNat} at {url}"
  | tooManyRedirects hops => s!"Too many redirects: {text hops}"
  | undecodable error => s!"Failed to decode response: {error}"
  | emptyBody => "Empty response body"
  | tooSmall length min => s!"Content too small: {text length} bytes (min: {text min})"
  | tooLarge length max => s!"Content too large: {text length} bytes (max: {text max})"
  | botKeyword keyword context =>
    s!"Bot detection indicator found: '{keyword}' (context: ...{context}...)"
  | missingMarkers markers => s!"Missing required content markers: {Text.quotedList markers}"
  | unloaded counts =>
    "Unloaded content: " ++ ", ".intercalate (counts.map fun p => s!"{p.1} ({text p.2}x)")
  | loadMore excerpt => s!"Unpaginated content detected: {excerpt}"
  | firstPageOnly => "Only first page content loaded"
  | infiniteScroll trigger => s!"Infinite scroll not triggered: {trigger}"
  | tooFew count label min => s!"Only {text count} {label} found (expected ≥{text min})"
  | identicalValues name value => s!"All {name} have identical value '{value}' (placeholder?)"
  | dominantValue count total name =>
    s!"{text count}/{text total} {name} have same value (likely placeholder)"
  | largeNoscript chars => s!"Large noscript content ({text chars} chars) - may be no-JS version"
  | scriptNotice notice => s!"JS-required message in main content: '{notice}'"
  | malformedData index error => s!"Malformed JSON-LD at index {text index}: {error.message}"
  | productWithoutName index => s!"Product schema #{text index} missing name"
  | productWithoutPrice index => s!"Product schema #{text index} missing price"
  | emptyItemList index => s!"ItemList schema #{text index} has no items"
  | placeholders labels => "JS placeholder detected: " ++ ", ".intercalate labels
  | emptyDocument => "Empty HTML"
  | sparseText visible total scripts =>
    s!"Low content density: {percent visible total}% text, {text scripts} scripts (likely JS-rendered)"
  | heavyScripts visible total scripts =>
    s!"Heavy JS usage: {text scripts} scripts with {percent visible total}% text content"
  | unrenderedData labels => "Found embedded data requiring JS: " ++ ", ".intercalate labels

end Complaint

end SoftFail
