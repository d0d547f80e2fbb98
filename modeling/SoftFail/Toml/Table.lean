import SoftFail.Value

/-! The tables of a TOML document while it is read, and what may be added to them. -/

namespace SoftFail.Toml

inductive Origin where
  /-- By its own header, or written out as a value. -/
  | header
  /-- On the way of a header to its table. -/
  | path
  /-- On the way of a dotted key to its value. -/
  | key
  deriving DecidableEq

inductive Node where
  | value (v : Value)
  | table (origin : Origin) (fields : List (String × Node))
  /-- The tables of a list; the last one grows. -/
  | tables (all : List (List (String × Node)))

abbrev Fields := List (String × Node)

mutual

def Node.toValue : Node → Value
  | .value v => v
  | .table _ fields => .record (toFields fields)
  | .tables all => .list (toRecords all)

def toFields : Fields → List (String × Value)
  | [] => []
  | (name, n) :: fields => (name, n.toValue) :: toFields fields

def toRecords : List Fields → List Value
  | [] => []
  | fields :: all => .record (toFields fields) :: toRecords all

end

namespace Fields

def alter (name : String) (f : Option Node → Option Node) : Fields → Option Fields
  | [] => (f none).map fun n => [(name, n)]
  | (other, n) :: fields =>
    if other = name then (f (some n)).map fun n => (name, n) :: fields
    else (alter name f fields).map ((other, n) :: ·)

def alterLast (f : Fields → Option Fields) : List Fields → Option (List Fields)
  | [] => none
  | [last] => (f last).map ([·])
  | fields :: all => (alterLast f all).map (fields :: ·)

/-- Changes the table that a path leads to, and makes those that are missing, with `new` as their
origin. A dotted key does not lead into tables that were made by a header. -/
def within (new : Origin) (f : Origin → Fields → Option Fields) :
    (path : List String) → Origin → Fields → Option Fields
  | [], origin, fields => f origin fields
  | name :: path, _, fields =>
    alter name (fun n => match n with
      | none => (within new f path new []).map (.table new)
      | some (.value _) => none
      | some (.table origin inner) =>
        if new = .key && origin = .header then none
        else (within new f path origin inner).map (.table origin)
      | some (.tables all) => (alterLast (within new f path .header) all).map .tables) fields

/-- Adds the value of a dotted key. Every key is given once, and only dotted keys add to the tables
of dotted keys. -/
def addValue (path : List String) (name : String) (v : Value) : Origin → Fields → Option Fields :=
  within .key (fun origin fields =>
    if (origin = .key) = (path = []) then none
    else alter name (fun n => if n.isNone then some (.value v) else none) fields) path

/-- Begins the table of a header. It may have come about on the way of another header, and then
moves behind the fields that are there. -/
def addTable (path : List String) (name : String) : Fields → Option Fields :=
  within .path (fun _ fields =>
    match fields.lookup name with
    | none => some (fields ++ [(name, .table .header [])])
    | some (.table .path inner) =>
      some (fields.filter (·.1 ≠ name) ++ [(name, .table .header inner)])
    | some _ => none) path .header

def addItem (path : List String) (name : String) : Fields → Option Fields :=
  within .path (fun _ => alter name fun n => match n with
    | none => some (.tables [[]])
    | some (.tables all) => some (.tables (all ++ [[]]))
    | some _ => none) path .header

end Fields

end SoftFail.Toml
