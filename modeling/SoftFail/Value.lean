/-! Structured data without a notation: what documents of any notation hold. -/

namespace SoftFail

inductive Number where
  | integer (i : Int)
  | float (x : Float)

inductive Value where
  | null
  | boolean (b : Bool)
  | number (n : Number)
  | text (s : String)
  | list (items : List Value)
  | record (fields : List (String × Value))

namespace Value

instance : Inhabited Value := ⟨.null⟩

def natural (n : Nat) : Value := .number (.integer n)

def get? (v : Value) (name : String) : Option Value :=
  match v with
  | .record fields => fields.lookup name
  | _ => none

def ofOption {α : Type} (f : α → Value) : Option α → Value
  | none => .null
  | some a => f a

/-- Puts a field at its place in ascending order of names; the last value given for a name is
kept. -/
def putField (name : String) (v : Value) : List (String × Value) → List (String × Value)
  | [] => [(name, v)]
  | f :: rest =>
    if name < f.1 then (name, v) :: f :: rest
    else if name = f.1 then (name, v) :: rest
    else f :: putField name v rest

def ofFields (fields : List (String × Value)) : Value :=
  .record (fields.foldl (fun fs f => putField f.1 f.2 fs) [])

end Value

end SoftFail
