import SoftFail.Check.Complaint
import SoftFail.Pattern
import SoftFail.Text.Template

/-! Checks for the content that a configuration asks for: markers, items and patterns. -/

namespace SoftFail.Check

open Text

def markerComplaint (markers : List String) (body : List Char) : Option Complaint :=
  match markers.filter fun m => !contains m.toList body with
  | [] => none
  | missing => some (.missingMarkers missing)

def itemTemplates : List (Template × String) := [
  (.ofWord "data-product-id=\"" [.through '"'], "products"),
  (.ofWord "class=\"" [.valueWith "product-card".toList], "product cards"),
  (.ofWord "class=\"" [.valueWith "item".toList], "items"),
  (.ofWord "<article" [.through '>'], "articles"),
  (.ofWord "data-item-id=\"" [.through '"'], "items"),
  (.ofWord "class=\"" [.valueWith "post".toList], "posts")]

/-- The container found most often, the first one of several; none when all are absent. -/
def bestItems (body : List Char) : String × Nat :=
  itemTemplates.foldl (fun best t =>
    let n := t.1.count body
    if best.2 < n then (t.2, n) else best) ("items", 0)

def itemComplaint (min? : Option Nat) (body : List Char) : Option Complaint :=
  match min? with
  | none => none
  | some min =>
    let (label, count) := bestItems body
    if count < min then some (.tooFew count label min) else none

def minSample : Nat := 5

def maxValueExcerpt : Nat := 30

/-- The value that more than half of the values are equal to, if there is one: equal values add up,
and different ones cancel out. -/
def majority (values : List String) : String × Nat :=
  values.foldl (fun best v =>
    if best.2 = 0 then (v, 1)
    else if v = best.1 then (best.1, best.2 + 1)
    else (best.1, best.2 - 1)) ("", 0)

/-- Values are uniform when one value makes up more than four fifths. -/
def uniformComplaint (name : String) (values : List String) : Option Complaint :=
  let value := (majority values).1
  let count := values.count value
  if count = values.length then
    some (.identicalValues name (String.ofList (value.toList.take maxValueExcerpt)))
  else if values.length * 4 < count * 5 then some (.dominantValue count values.length name)
  else none

def patternComplaint (p : Pattern) (body : List Char) : Option Complaint :=
  let values := p.values body
  if values.length < p.minCount then some (.tooFew values.length p.name p.minCount)
  else if values.length < minSample then none
  else uniformComplaint p.name values

def patternsComplaint (ps : List Pattern) (body : List Char) : Option Complaint :=
  ps.findSome? fun p => patternComplaint p body

end SoftFail.Check
