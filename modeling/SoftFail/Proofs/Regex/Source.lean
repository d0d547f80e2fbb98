import SoftFail.Proofs.Regex.Division
import SoftFail.Regex.Basic

/-! Expressions that are fixed, by the text that they are read from. -/

namespace SoftFail.Regex

/-- Reads an expression, with or without regard to letter case. -/
def expr? (ignoreCase : Bool) (source : String) : Option Expr := do
  let syn ← Syntax.parse? source.toList
  let (e, _) ← syn.meaning { caseInsensitive := ignoreCase }
  if e.isWithinLimit then some e else none

theorem parse?_eq_map (source : String) : parse? source = (expr? true source).map ofExpr := by
  rw [parse?, expr?]
  simp only [Option.bind_eq_bind, Option.map_bind]
  refine Option.bind_congr fun syn _ => ?_
  simp only [Function.comp_apply, Option.map_bind]
  exact Option.bind_congr fun p _ => (apply_ite (Option.map ofExpr) _ (some p.1) none).symm

def found (ignoreCase : Bool) (source : String) (s : List Char) : List Match :=
  ((expr? ignoreCase source).map fun e => e.program.allMatches s).getD []

def found? (ignoreCase : Bool) (source : String) (s : List Char) : Option Match :=
  (expr? ignoreCase source).bind fun e => e.program.first? (.ofText s)

def replaced (ignoreCase : Bool) (source : String) (fill s : List Char) : List Char :=
  ((expr? ignoreCase source).map fun e => e.program.replaceAll fill s).getD s

section Read

variable {ignoreCase : Bool} {source : String} {e : Expr}
  (h : expr? ignoreCase source = some e)

include h

theorem found_eq (s : List Char) : found ignoreCase source s = e.program.allMatches s := by
  rw [found, h, Option.map_some, Option.getD_some]

theorem found?_eq (s : List Char) : found? ignoreCase source s = e.program.first? (.ofText s) := by
  rw [found?, h, Option.bind_some]

theorem replaced_eq (fill s : List Char) :
    replaced ignoreCase source fill s = e.program.replaceAll fill s := by
  rw [replaced, h, Option.map_some, Option.getD_some]

end Read

theorem isSome_leftmost {result : Cursor → Option Match} {begins occurs : List Char → Bool}
    (hresult : ∀ here, (result here).isSome = begins here.rest) (hnil : occurs [] = begins [])
    (hcons : ∀ c s, occurs (c :: s) = (begins (c :: s) || occurs s)) (before : Option Char)
    (offset : ℕ) (s : List Char) : (leftmost result before offset s).isSome = occurs s := by
  induction s generalizing before offset with
  | nil => rw [leftmost, hresult, hnil]
  | cons c s ih => rw [leftmost, Option.isSome_or, hresult, ih, hcons]

end SoftFail.Regex
