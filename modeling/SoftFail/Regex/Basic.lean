import SoftFail.Regex.Meaning
import SoftFail.Regex.Parser
import SoftFail.Regex.Search
import SoftFail.Regex.Size

/-! Regular expressions as they are used: read from text, without regard to letter case unless they
say otherwise. -/

namespace SoftFail

structure Regex where
  expr : Regex.Expr
  program : Regex.Program

namespace Regex

def ofExpr (e : Expr) : Regex := ⟨e, e.program⟩

/-- Reads an expression; there is none when it is ill-formed or too large. -/
def parse? (s : String) : Option Regex := do
  let syn ← Syntax.parse? s.toList
  let (e, _) ← syn.meaning { caseInsensitive := true }
  if e.isWithinLimit then some (ofExpr e) else none

/-- The value of a match: its first group if the expression has groups, which is empty where it
took no part, and else all of it. -/
def valueOf (r : Regex) (m : Match) : String :=
  if r.expr.captures then (m.group.map Span.toString).getD "" else m.whole.toString

def values (r : Regex) (s : List Char) : List String :=
  (r.program.allMatches s).map r.valueOf

end Regex

end SoftFail
