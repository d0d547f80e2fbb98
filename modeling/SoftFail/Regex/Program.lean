import SoftFail.Regex.Expr

/-! Expressions as programs: instructions that name those that follow them. -/

namespace SoftFail.Regex

inductive Instr where
  /-- Takes one character of the set. -/
  | set (s : CharSet) (next : Nat)
  | place (p : Place) (next : Nat)
  /-- Goes on in two ways, of which the first is preferred. -/
  | split (first second : Nat)
  /-- The first group begins. -/
  | openGroup (next : Nat)
  /-- The first group ends. -/
  | closeGroup (next : Nat)
  | matched

abbrev Code := Array Instr

namespace Code

def add (code : Code) (i : Instr) : Nat × Code := (code.size, code.push i)

def choice (greedy : Bool) (enter leave : Nat) : Instr :=
  if greedy then .split enter leave else .split leave enter

def copies (part : Nat → Code → Nat × Code) : (n next : Nat) → Code → Nat × Code
  | 0, next, code => (next, code)
  | n + 1, next, code =>
    let (start, code) := part next code
    copies part n start code

/-- Puts at most `n` copies of a part in front of `next`, each of which may be left out with all
that follow it. -/
def options (part : Nat → Code → Nat × Code) (greedy : Bool) (next : Nat) :
    (n follow : Nat) → Code → Nat × Code
  | 0, follow, code => (follow, code)
  | n + 1, follow, code =>
    let (start, code) := part follow code
    let (start, code) := code.add (choice greedy start next)
    options part greedy next n start code

/-- One copy of a part or more: behind each one the loop is left or entered again. Returns where
the loop begins, and where the choice stands. -/
def loop (part : Nat → Code → Nat × Code) (greedy : Bool) (next : Nat) (code : Code) :
    Nat × Nat × Code :=
  let (again, code) := code.add .matched
  let (start, code) := part again code
  (start, again, code.setIfInBounds again (choice greedy start next))

end Code

def Expr.code : Expr → (next : Nat) → Code → Nat × Code
  | .empty, next, code => (next, code)
  | .set s, next, code => code.add (.set s next)
  | .place p, next, code => code.add (.place p next)
  | .seq a b, next, code =>
    let (start, code) := b.code next code
    a.code start code
  | .alt a b, next, code =>
    let (first, code) := a.code next code
    let (second, code) := b.code next code
    code.add (.split first second)
  | .repeated e min (some max) greedy, next, code =>
    let (start, code) := Code.options e.code greedy next (max - min) next code
    Code.copies e.code min start code
  | .repeated e (min + 1) none greedy, next, code =>
    let (start, _, code) := Code.loop e.code greedy next code
    Code.copies e.code min start code
  | .repeated e 0 none greedy, next, code =>
    let (start, again, code) := Code.loop e.code greedy next code
    if e.nullable then code.add (Code.choice greedy start next) else (again, code)
  | .capture 1 e, next, code =>
    let (close, code) := code.add (.closeGroup next)
    let (start, code) := e.code close code
    code.add (.openGroup start)
  | .capture _ e, next, code => e.code next code

structure Program where
  code : Code
  start : Nat

/-- The program of an expression ends at its first instruction. -/
def Expr.program (e : Expr) : Program :=
  let (start, code) := e.code 0 #[.matched]
  ⟨code, start⟩

end SoftFail.Regex
