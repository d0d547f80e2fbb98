import SoftFail.Check.Complaint
import SoftFail.Markup.Content
import SoftFail.Text.Lower

/-! Checks for pages whose content scripts never rendered. -/

namespace SoftFail.Check

open Text

def frameworkSigns : List (String × String) := [
  ("data-reactroot", "React root"),
  ("id=\"root\"", "React/Vue root element"),
  ("id=\"app\"", "Vue/SPA app element"),
  ("data-vue-app", "Vue app"),
  ("ng-app", "Angular app"),
  ("ng-version", "Angular framework"),
  ("<div id=\"root\"></div>", "Empty React root"),
  ("<div id=\"app\"></div>", "Empty app container"),
  ("<main></main>", "Empty main element"),
  ("skeleton-loader", "Skeleton loading state"),
  ("placeholder-glow", "Placeholder animation"),
  ("spinner", "Loading spinner")]

def hydrationSigns : List (String × String) := [
  ("type=\"application/json\"", "JSON script tag"),
  ("type=\"application/ld+json\"", "JSON-LD structured data"),
  ("__initial_state__", "Initial state data"),
  ("__preloaded_state__", "Preloaded state"),
  ("window.__data__", "Window data object"),
  ("id=\"__next_data__\"", "Next.js data"),
  ("__next_data__", "Next.js SSR data"),
  ("window.__initial_data__", "Initial data")]

/-- A body that begins with an empty division and a script. -/
def emptyShell : Template where
  first := '<'
  steps := [.literal "body".toList, .through '>', .blanks, .literal "<div".toList, .through '>',
    .blanks, .literal "</div>".toList, .blanks, .literal "<script".toList]

def emptyShellLabel : String := "Single empty div with scripts (SPA pattern)"

def maxPlaceholdersReported : Nat := 3

def maxDataReported : Nat := 2

def minJudgedLength : Nat := 1000

def manyScripts : Nat := 15

def heavyShare : Float := 0.15

def minRenderedChars : Nat := 500

def labelsIn (signs : List (String × String)) (lowered : List Char) : List String :=
  (signs.filter fun s => contains s.1.toList lowered).map Prod.snd

def placeholderLabels (body : List Char) : List String :=
  let lowered := lower body
  labelsIn frameworkSigns lowered ++
    if (emptyShell.first? lowered).isSome then [emptyShellLabel] else []

def placeholderComplaint (body : List Char) : Option Complaint :=
  match placeholderLabels body with
  | [] => none
  | labels => some (.placeholders (labels.take maxPlaceholdersReported))

def byteLength (s : List Char) : Nat := s.foldl (fun n c => n + c.utf8Size) 0

def densityComplaint (minRatio : Float) (body : List Char) : Option Complaint :=
  let total := byteLength body
  if total = 0 then some .emptyDocument
  else
    let visible := byteLength (Markup.visibleText body)
    let scripts := count "<script".toList (lower body)
    let ratio := share visible total
    if ratio < minRatio && minJudgedLength < total then some (.sparseText visible total scripts)
    else if manyScripts < scripts && ratio < heavyShare then
      some (.heavyScripts visible total scripts)
    else none

def embeddedDataComplaint (body : List Char) : Option Complaint :=
  match labelsIn hydrationSigns (lower body) with
  | [] => none
  | labels =>
    if minRenderedChars ≤ (Markup.renderedText body).length then none
    else some (.unrenderedData (labels.take maxDataReported))

end SoftFail.Check
