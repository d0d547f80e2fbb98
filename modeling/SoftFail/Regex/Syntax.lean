/-! The syntax of regular expressions, before flags are applied. -/

namespace SoftFail.Regex

inductive Flag where
  | caseInsensitive
  | multiLine
  | dotAll
  | swapGreed
  | unicode
  | crlf
  | ignoreBlanks
  deriving DecidableEq

abbrev FlagSetting := List (Flag × Bool)

/-- A character written for itself. One that is written as a raw byte beyond ASCII is a character
only where expressions match characters and not bytes. -/
structure Literal where
  char : Nat
  rawByte : Bool

inductive Perl where
  | digit
  | blank
  | word
  deriving DecidableEq

inductive Anchor where
  | startLine
  | endLine
  | startText
  | endText
  | wordBoundary
  | notWordBoundary
  | wordStart
  | wordEnd
  | wordStartHalf
  | wordEndHalf
  deriving DecidableEq

inductive PropertyName where
  | plain (name : List Char)
  | valued (property value : List Char)

inductive SetOperator where
  | inter
  | diff
  | symmDiff
  deriving DecidableEq

inductive SetSyntax where
  | literal (l : Literal)
  | range (low high : Literal)
  | ascii (rs : List (Nat × Nat)) (negated : Bool)
  | property (name : PropertyName) (negated : Bool)
  | perl (p : Perl) (negated : Bool)
  | bracket (negated : Bool) (s : SetSyntax)
  | union (items : List SetSyntax)
  | operation (op : SetOperator) (s t : SetSyntax)

inductive Syntax where
  | empty
  | setFlags (fs : FlagSetting)
  | literal (l : Literal)
  | dot
  | anchor (a : Anchor)
  | property (name : PropertyName) (negated : Bool)
  | perl (p : Perl) (negated : Bool)
  | bracket (negated : Bool) (s : SetSyntax)
  | repeated (e : Syntax) (min : Nat) (max : Option Nat) (greedy : Bool)
  | capture (index : Nat) (e : Syntax)
  | group (fs : FlagSetting) (e : Syntax)
  | alternation (es : List Syntax)
  | concat (es : List Syntax)

/-- Syntax with its height. Repetitions, groups, brackets, lists and operations count. -/
structure Tall (α : Type) where
  node : α
  height : Nat

def maxHeight : Nat := 250

def Tall.leaf {α : Type} (a : α) : Tall α := ⟨a, 0⟩

/-- Syntax one higher than what it is made of, unless that is too high. -/
def Tall.over {α : Type} (a : α) (heights : List Nat) : Option (Tall α) :=
  let h := heights.foldl max 0 + 1
  if h ≤ maxHeight then some ⟨a, h⟩ else none

def Syntax.ofConcat : List (Tall Syntax) → Option (Tall Syntax)
  | [] => some (.leaf .empty)
  | [e] => some e
  | es => Tall.over (.concat (es.map Tall.node)) (es.map Tall.height)

def Syntax.ofBranches : List (Tall Syntax) → Option (Tall Syntax)
  | [e] => some e
  | es => Tall.over (.alternation (es.map Tall.node)) (es.map Tall.height)

def SetSyntax.ofUnion : List (Tall SetSyntax) → Option (Tall SetSyntax)
  | [s] => some s
  | [] => some (.leaf (.union []))
  | ss => Tall.over (.union (ss.map Tall.node)) (ss.map Tall.height)

end SoftFail.Regex
