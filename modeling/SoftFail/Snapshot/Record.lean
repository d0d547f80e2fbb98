import SoftFail.Decode.Skip
import SoftFail.Json.Reading
import SoftFail.Json.Printing
import SoftFail.Snapshot.Basic

/-! Snapshots as JSON records. -/

namespace SoftFail

open Decode Reader

namespace Headers

/-- Of a repeated name the last value counts; of names that differ in letter case only, the first
in order. -/
def read : Reader Headers := return (NameMap.ofList (← map text)).toHeaders

def toValue (h : Headers) : Value := .record (h.entries.map fun e => (e.1, .text e.2))

end Headers

namespace Hop

def readField (st : List String × Hop) (name : String) : Reader (List String × Hop) := do
  let (seen, hop) := st
  match name with
  | "url" => let seen ← once seen name; return (seen, { hop with url := ← member text })
  | "status" => let seen ← once seen name; return (seen, { hop with status := ← member word16 })
  | _ => member skip; pure st

def read : Reader Hop :=
  record "struct RedirectHop"
    (do
      let expected := "struct RedirectHop with 2 elements"
      return ⟨← itemAt 0 expected text, ← itemAt 1 expected word16⟩)
    (do
      let (seen, hop) ← fields readField ([], ⟨"", 0⟩)
      require seen "url"
      require seen "status"
      pure hop)

def toValue (hop : Hop) : Value :=
  .record [("url", .text hop.url), ("status", .natural hop.status.toNat)]

end Hop

namespace Body

def ofValue? : Value → Option Body
  | .text s => some (.text s)
  | .record fields =>
    match fields.filter (·.1 = "error") with
    | [(_, .text e)] => some (.undecodable e)
    | _ => none
  | _ => none

/-- Reads a body inside `outer` records. -/
def read (outer : Nat) : Reader Body := do
  match ofValue? (← Reader.value .record (Json.depth - outer)) with
  | some body => pure body
  | none => misfit (.noVariant "Body")

def toValue : Body → Value
  | .text s => .text s
  | .undecodable e => .record [("error", .text e)]

end Body

namespace Snapshot

def readField (st : List String × Snapshot) (name : String) :
    Reader (List String × Snapshot) := do
  let (seen, s) := st
  match name with
  | "status" => let seen ← once seen name; return (seen, { s with status := ← member word16 })
  | "headers" => let seen ← once seen name; return (seen, { s with headers := ← member Headers.read })
  | "redirect_history" =>
    let seen ← once seen name
    return (seen, { s with redirects := ← member (list Hop.read) })
  | "body" => let seen ← once seen name; return (seen, { s with body := ← member (Body.read 1) })
  | _ => member skip; pure st

def read : Reader Snapshot :=
  record "struct ResponseSnapshot"
    (do
      let expected := "struct ResponseSnapshot with 4 elements"
      let status ← itemAt 0 expected word16
      let headers ← item? false Headers.read
      let redirects ← item? false (list Hop.read)
      let body ← itemAt 3 expected (Body.read 1)
      return ⟨status, headers.getD .empty, redirects.getD [], body⟩)
    (do
      let (seen, s) ← fields readField ([], .ofText 0 "")
      require seen "status"
      require seen "body"
      pure s)

def toValue (s : Snapshot) : Value :=
  .record [("status", .natural s.status.toNat), ("headers", s.headers.toValue),
    ("redirect_history", .list (s.redirects.map Hop.toValue)), ("body", s.body.toValue)]

def ofJson (text : String) : Except Json.ReadError Snapshot := Json.read read text

def toJson (s : Snapshot) : String := Json.print s.toValue

end Snapshot

end SoftFail
