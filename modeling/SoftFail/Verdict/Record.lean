import SoftFail.Config.Record
import SoftFail.Verdict.Basic

/-! Verdicts as JSON records. -/

namespace SoftFail

open Decode Reader

namespace Verdict

def foundIn : Value → Found
  | .null => .null
  | .boolean b => .boolean b
  | .number n => found n
  | .text s => .text s
  | .list _ => .list
  | .record _ => .record

def variantOf {α : Type} (variants : List (String × α)) (v : Value) : Except Misfit α := do
  let named (name : String) : Except Misfit α :=
    match variants.lookup name with
    | some a => .ok a
    | none => .error (.unknownVariant name (variants.map Prod.fst))
  match v with
  | .text s => named s
  | .record [(name, content)] =>
    let a ← named name
    match content with
    | .null | .record [] => pure a
    | v => throw (.wrongType (foundIn v) "unit")
  | .record _ => throw (.wrongValue .record "map with a single key")
  | v => throw (.wrongType (foundIn v) "string or map")

def textOf : Value → Except Misfit String
  | .text s => .ok s
  | v => .error (.wrongType (foundIn v) "a string")

structure Draft where
  check : Option Check := none
  category : Option Category := none
  reason : Option String := none

def Draft.field (d : Draft) (name : String) (v : Value) : Except Misfit Draft := do
  match name with
  | "check" =>
    if d.check.isSome then throw (.duplicateField name)
    return { d with check := ← variantOf Check.named v }
  | "category" =>
    if d.category.isSome then throw (.duplicateField name)
    return { d with category := ← variantOf Category.named v }
  | "reason" =>
    if d.reason.isSome then throw (.duplicateField name)
    return { d with reason := ← textOf v }
  | _ => return d

def Draft.finish (d : Draft) : Except Misfit Verdict := do
  let some check := d.check | throw (.missingField "check")
  let some category := d.category | throw (.missingField "category")
  let some reason := d.reason | throw (.missingField "reason")
  return .invalid check category reason

def surplus (length expected : Nat) : Misfit :=
  .wrongLength length
    (Decimal.text expected ++ if expected = 1 then " element in sequence" else " elements in sequence")

/-- What is left of an invalid verdict when its tag is taken away. -/
def invalidOf : Value → Except Misfit Verdict
  | .record fields => do (← fields.foldlM (fun d f => d.field f.1 f.2) ({} : Draft)).finish
  | .list items => do
    let short (n : Nat) : Misfit := .wrongLength n "struct variant Verdict::Invalid with 3 elements"
    match items with
    | [] => throw (short 0)
    | check :: items =>
      let check ← variantOf Check.named check
      match items with
      | [] => throw (short 1)
      | category :: items =>
        let category ← variantOf Category.named category
        match items with
        | [] => throw (short 2)
        | reason :: items =>
          let reason ← textOf reason
          if items.isEmpty then return .invalid check category reason
          else throw (surplus (items.length + 3) 3)
  | v => throw (.wrongType (foundIn v) "struct variant Verdict::Invalid")

/-- What is left of a valid verdict is ignored in a record, and must not be there in a list. -/
def validOf : Value → Except Misfit Verdict
  | .list items => if items.isEmpty then .ok .valid else .error (surplus items.length 0)
  | _ => .ok .valid

def tags : List (String × Bool) := [("valid", true), ("invalid", false)]

def readParts (k : Kind) : Reader (Bool × Value) := settled do
  let content := Reader.value .record (Json.depth - 1)
  match k with
  | .openList =>
    advance
    enclosed endList do
      match ← item? true (variantName tags) with
      | none => misfit (.missingField "status")
      | some tag =>
        let items ← itemsFrom content ((← get).tokens.length + 1) false []
        return (tag, .list items)
  | .openRecord =>
    advance
    enclosed endRecord do
      let step (st : Option Bool × List (String × Value)) (name : String) :
          Reader (Option Bool × List (String × Value)) := do
        if name = "status" then
          if st.1.isSome then misfit (.duplicateField name)
          else return (some (← member (variantName tags)), st.2)
        else return (st.1, (name, ← member content) :: st.2)
      let (tag, rest) ← fields step (none, [])
      match tag with
      | none => misfit (.missingField "status")
      | some tag => return (tag, .record rest.reverse)
  | k => wrongType k "internally tagged enum Verdict"

/-- Reads a verdict by its tag `status`. Misfits in the rest have no place in the text. -/
def read : Reader Verdict := do
  let (isGood, rest) ← readParts (← peekValue)
  match if isGood then validOf rest else invalidOf rest with
  | .ok v => pure v
  | .error m => misfit m

def toValue : Verdict → Value
  | .valid => .record [("status", .text "valid")]
  | .invalid check category reason =>
    .record [("status", .text "invalid"), ("check", .text check.name),
      ("category", .text category.name), ("reason", .text reason)]

def ofJson (text : String) : Except Json.ReadError Verdict := Json.read read text

end Verdict

end SoftFail
