import SoftFail.Regex.CharSet
import SoftFail.Regex.Syntax
import SoftFail.Text.Find
import SoftFail.Unicode.Age
import SoftFail.Unicode.Break
import SoftFail.Unicode.Category
import SoftFail.Unicode.Property
import SoftFail.Unicode.Script
import SoftFail.Unicode.ScriptExtension

/-! Character properties by name. Names are compared without blanks, dashes, underscores and letter
case, and a leading `is` does not count. -/

namespace SoftFail.Regex

def normalName (name : List Char) : String :=
  let isPrefixed := match name with
    | a :: b :: _ => (a = 'i' || a = 'I') && (b = 's' || b = 'S')
    | _ => false
  let kept := ((if isPrefixed then name.drop 2 else name).filter fun c =>
    c ≠ ' ' && c ≠ '_' && c ≠ '-' && c.toNat < 0x80).map Char.toLower
  if isPrefixed && kept = ['c'] then "isc" else String.ofList kept

def isNamed (name : String) (t : String × String) : Bool :=
  Text.contains (' ' :: name.toList ++ [' ']) (' ' :: t.1.toList ++ [' '])

def table? (tables : List (String × String)) (name : String) : Option Unicode.RangeSet :=
  (tables.find? (isNamed name)).map fun t => .ofTable t.2

def tableUnion (tables : List (String × String)) : CharSet :=
  tables.foldl (fun s t => .union s (.table (.ofTable t.2))) .empty

def categoryUnion (accept : String → Bool) : CharSet :=
  tableUnion (Unicode.categories.filter fun t => accept t.1)

/-- Categories that are made of others, by the first letter of these. -/
def categoryGroups : List (String × Char) := [
  ("l", 'l'), ("letter", 'l'), ("m", 'm'), ("mark", 'm'), ("combiningmark", 'm'), ("n", 'n'),
  ("number", 'n'), ("p", 'p'), ("punctuation", 'p'), ("punct", 'p'), ("s", 's'), ("symbol", 's'),
  ("z", 'z'), ("separator", 'z')]

def category? (name : String) : Option CharSet :=
  let assigned := categoryUnion fun _ => true
  if name = "any" then some .any
  else if name = "ascii" then some (.ranges [(0, 0x7F)])
  else if name = "assigned" then some assigned
  else if name = "cn" || name = "unassigned" then some (.complement assigned)
  else if name = "c" || name = "other" then
    some (.complement (categoryUnion fun names => names.toList.head? ≠ some 'c'))
  else if name = "cs" || name = "surrogate" then some .empty
  else if name = "lc" || name = "casedletter" then
    some (categoryUnion fun names =>
      ["lu", "ll", "lt"].contains (String.ofList (names.toList.take 2)))
  else match categoryGroups.lookup name with
    | some c => some (categoryUnion fun names => names.toList.head? = some c)
    | none => (table? Unicode.categories name).map .table

def script? (name : String) : Option CharSet := (table? Unicode.scripts name).map .table

def scriptExtension? (name : String) : Option CharSet :=
  ((table? Unicode.scriptExtensions name).orElse fun _ => table? Unicode.scripts name).map .table

/-- What one version of Unicode has, and so those before it had. -/
def age? (name : String) : Option CharSet :=
  (Unicode.ages.findIdx? (isNamed name)).map fun i => tableUnion (Unicode.ages.take (i + 1))

/-- A binary property, a category or a script, in this order. Three short names mean the category
although a property has them too. -/
def property? (name : String) : Option CharSet :=
  let binary := if ["cf", "sc", "lc"].contains name then none
    else (table? Unicode.properties name).map .table
  binary.orElse fun _ => (category? name).orElse fun _ => script? name

def valuedProperties : List (List String × (String → Option CharSet)) := [
  (["gc", "generalcategory", "category"], category?),
  (["sc", "script"], script?),
  (["scx", "scriptextensions"], scriptExtension?),
  (["age"], age?),
  (["gcb", "graphemeclusterbreak"], fun value => (table? Unicode.graphemeBreaks value).map .table),
  (["wb", "wordbreak"], fun value => (table? Unicode.wordBreaks value).map .table),
  (["sb", "sentencebreak"], fun value => (table? Unicode.sentenceBreaks value).map .table)]

def PropertyName.set? : PropertyName → Option CharSet
  | .plain name => property? (normalName name)
  | .valued property value => do
    let (_, read) ← valuedProperties.find? fun p => p.1.contains (normalName property)
    read (normalName value)

def alphabetic : CharSet := (property? "alphabetic").getD .empty

def numeric : CharSet := (category? "n").getD .empty

def isAlphabetic (c : Char) : Bool :=
  if c.toNat < 0x80 then c.isAlpha else alphabetic.contains c.toNat

def isAlphanumeric (c : Char) : Bool :=
  if c.toNat < 0x80 then c.isAlphanum else alphabetic.contains c.toNat || numeric.contains c.toNat

end SoftFail.Regex
