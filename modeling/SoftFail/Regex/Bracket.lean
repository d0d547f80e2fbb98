import SoftFail.Regex.Escape

/-! Reading classes in square brackets. -/

namespace SoftFail.Regex

open Text

def asciiClasses : List (String × List (Nat × Nat)) := [
  ("alnum", [(0x30, 0x39), (0x41, 0x5A), (0x61, 0x7A)]),
  ("alpha", [(0x41, 0x5A), (0x61, 0x7A)]),
  ("ascii", [(0x00, 0x7F)]),
  ("blank", [(0x09, 0x09), (0x20, 0x20)]),
  ("cntrl", [(0x00, 0x1F), (0x7F, 0x7F)]),
  ("digit", [(0x30, 0x39)]),
  ("graph", [(0x21, 0x7E)]),
  ("lower", [(0x61, 0x7A)]),
  ("print", [(0x20, 0x7E)]),
  ("punct", [(0x21, 0x2F), (0x3A, 0x40), (0x5B, 0x60), (0x7B, 0x7E)]),
  ("space", [(0x09, 0x0D), (0x20, 0x20)]),
  ("upper", [(0x41, 0x5A)]),
  ("word", [(0x30, 0x39), (0x41, 0x5A), (0x5F, 0x5F), (0x61, 0x7A)]),
  ("xdigit", [(0x30, 0x39), (0x41, 0x46), (0x61, 0x66)])]

/-- Reads a named class such as `[:^alpha:]`, behind its first bracket. -/
def asciiClass? (s : List Char) : Option (SetSyntax × List Char) := do
  let s ← dropPrefix? [':'] s
  let (negated, s) := match s with
    | '^' :: s => (true, s)
    | s => (false, s)
  let name := s.takeWhile (· ≠ ':')
  let rest ← dropPrefix? [':', ']'] (s.dropWhile (· ≠ ':'))
  let rs ← asciiClasses.lookup (String.ofList name)
  some (.ascii rs negated, rest)

def literalItem (c : Char) : Tall SetSyntax := .leaf (.literal ⟨c.toNat, false⟩)

def leadingDashes (ignore : Bool) : (fuel : Nat) → (items : List (Tall SetSyntax)) → List Char →
    List (Tall SetSyntax) × List Char
  | 0, items, s => (items, s)
  | fuel + 1, items, s =>
    match s with
    | '-' :: s => leadingDashes ignore fuel (literalItem '-' :: items) (pastBlanks ignore s)
    | s => (items, s)

/-- Reads the beginning of a class, behind its bracket: whether it is negated, and the items that
would mean something else further on. -/
def opening (ignore : Bool) (s : List Char) : Bool × List (Tall SetSyntax) × List Char :=
  let s := pastBlanks ignore s
  let (negated, s) := match s with
    | '^' :: s => (true, pastBlanks ignore s)
    | s => (false, s)
  let (items, s) := leadingDashes ignore s.length [] s
  match items, s with
  | [], ']' :: s => (negated, [literalItem ']'], pastBlanks ignore s)
  | items, s => (negated, items, s)

def peekPast (ignore : Bool) (s : List Char) : Option Char :=
  if ignore then
    let t := s.dropWhile isBlank
    let t := match t with
      | '#' :: t => t.dropWhile isBlank
      | t => t
    (t.head?).orElse fun _ => s.head?
  else s.head?

def setPrimitive (ignore : Bool) : List Char → Option (SetSyntax × List Char)
  | [] => none
  | '\\' :: s =>
    match escape ignore s with
    | some (.literal l, s) => some (.literal l, s)
    | some (.perl p negated, s) => some (.perl p negated, s)
    | some (.property name negated, s) => some (.property name negated, s)
    | _ => none
  | c :: s => some (.literal ⟨c.toNat, false⟩, s)

def setItem (ignore : Bool) (s : List Char) : Option (SetSyntax × List Char) := do
  let (low, s) ← setPrimitive ignore s
  match pastBlanks ignore s with
  | [] => none
  | c :: s =>
    let next := peekPast ignore s
    if c ≠ '-' || next = some ']' || next = some '-' then some (low, c :: s)
    else
      let (high, s) ← setPrimitive ignore (pastBlanks ignore s)
      match low, high with
      | .literal a, .literal b => if a.char ≤ b.char then some (.range a b, s) else none
      | _, _ => none

/-- What waits for the rest of a class: an open bracket with the items of the class around it, or
an operation with its first operand. -/
inductive SetFrame where
  | bracket (around : List (Tall SetSyntax)) (negated : Bool)
  | operation (op : SetOperator) (first : Tall SetSyntax)

def closeOperation (stack : List SetFrame) (items : List (Tall SetSyntax)) :
    Option (Tall SetSyntax × List SetFrame) := do
  let s ← SetSyntax.ofUnion items.reverse
  match stack with
  | .operation op first :: stack =>
    some (← Tall.over (.operation op first.node s.node) [first.height, s.height], stack)
  | stack => some (s, stack)

/-- Reads on until the outermost bracket is closed. `fuel` is no less than the length of the
text. -/
def bracketFrom (ignore : Bool) : (fuel : Nat) → List SetFrame → List (Tall SetSyntax) →
    List Char → Option (Tall Syntax × List Char)
  | 0, _, _, _ => none
  | fuel + 1, stack, items, s =>
    let operation (op : SetOperator) (s : List Char) := do
      let (first, stack) ← closeOperation stack items
      bracketFrom ignore fuel (.operation op first :: stack) [] s
    match pastBlanks ignore s with
    | [] => none
    | '[' :: s =>
      match asciiClass? s with
      | some (item, s) => bracketFrom ignore fuel stack (.leaf item :: items) s
      | none =>
        let (negated, inner, s) := opening ignore s
        bracketFrom ignore fuel (.bracket items negated :: stack) inner s
    | ']' :: s => do
      let (inner, stack) ← closeOperation stack items
      match stack with
      | [.bracket _ negated] => some (← Tall.over (.bracket negated inner.node) [inner.height], s)
      | .bracket around negated :: stack =>
        let item ← Tall.over (.bracket negated inner.node) [inner.height]
        bracketFrom ignore fuel stack (item :: around) s
      | _ => none
    | '&' :: '&' :: s => operation .inter s
    | '-' :: '-' :: s => operation .diff s
    | '~' :: '~' :: s => operation .symmDiff s
    | s => do
      let (item, s) ← setItem ignore s
      bracketFrom ignore fuel stack (.leaf item :: items) s

def bracket (ignore : Bool) (s : List Char) : Option (Tall Syntax × List Char) :=
  let (negated, items, rest) := opening ignore s
  bracketFrom ignore (s.length + 1) [.bracket [] negated] items rest

end SoftFail.Regex
