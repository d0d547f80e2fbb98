import SoftFail.Check.Complaint
import SoftFail.Markup.Element

/-! The check of linked data: JSON texts in a document that describe what it shows. -/

namespace SoftFail.Check

open Markup

/-- Whether a member is there and holds something: neither null, false, zero nor empty. -/
def holds : Option Value → Bool
  | none | some .null => false
  | some (.boolean b) => b
  | some (.number (.integer i)) => i ≠ 0
  | some (.number (.float x)) => x != 0.0
  | some (.text s) => s ≠ ""
  | some (.list items) => !items.isEmpty
  | some (.record fields) => !fields.isEmpty

def isRecord : Value → Bool
  | .record _ => true
  | _ => false

/-- The records of one payload: itself, or the items of its list, each followed by the items of its
graph. -/
def entities (payload : Value) : List Value :=
  let roots := match payload with
    | .list items => items
    | v => [v]
  (roots.filter isRecord).flatMap fun root =>
    root :: match root.get? "@graph" with
      | some (.list graph) => graph.filter isRecord
      | _ => []

def hasType (entity : Value) (type : String) : Bool :=
  match entity.get? "@type" with
  | some (.text t) => t = type
  | some (.list types) => types.any fun
    | .text t => t = type
    | _ => false
  | _ => false

def offersPrice (offer : Value) : Bool :=
  holds (offer.get? "price") || holds (offer.get? "lowPrice")

/-- One offer with a price is enough. Offers that are neither a record nor a list are not judged. -/
def hasPrice (product : Value) : Bool :=
  match product.get? "offers" with
  | none => false
  | some (.list offers) => offers.any offersPrice
  | some offer => if isRecord offer then offersPrice offer else true

def entityComplaint (index : Nat) (entity : Value) : Option Complaint :=
  if hasType entity "Product" then
    if !holds (entity.get? "name") then some (.productWithoutName index)
    else if !hasPrice entity then some (.productWithoutPrice index)
    else none
  else if hasType entity "ItemList" && !holds (entity.get? "itemListElement") then
    some (.emptyItemList index)
  else none

def payloadComplaint (index : Nat) (payload : List Char) : Option Complaint :=
  match Json.parse (String.ofList (Text.trim payload)) with
  | .error e => some (.malformedData index e)
  | .ok v => (entities v).findSome? (entityComplaint index)

def linkedDataComplaint (body : List Char) : Option Complaint :=
  (Element.linkedData.contents body).zipIdx 1 |>.findSome? fun p => payloadComplaint p.2 p.1

end SoftFail.Check
