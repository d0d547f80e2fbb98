import Mathlib.Tactic.SplitIfs
import SoftFail.Regex.Meaning

/-! Groups that are counted from one more mean the same, with every group counted from one more. -/

namespace SoftFail.Regex

mutual

def Syntax.renumbered : Syntax → Syntax
  | .empty => .empty
  | .setFlags fs => .setFlags fs
  | .literal l => .literal l
  | .dot => .dot
  | .anchor a => .anchor a
  | .property name negated => .property name negated
  | .perl p negated => .perl p negated
  | .bracket negated s => .bracket negated s
  | .repeated e min max greedy => .repeated e.renumbered min max greedy
  | .capture i e => .capture (i + 1) e.renumbered
  | .group fs e => .group fs e.renumbered
  | .alternation es => .alternation (Syntax.allRenumbered es)
  | .concat es => .concat (Syntax.allRenumbered es)

def Syntax.allRenumbered : List Syntax → List Syntax
  | [] => []
  | e :: es => e.renumbered :: Syntax.allRenumbered es

end

theorem Syntax.allRenumbered_eq_map (es : List Syntax) :
    Syntax.allRenumbered es = es.map Syntax.renumbered := by
  induction es with
  | nil => rw [allRenumbered, List.map_nil]
  | cons e es ih => rw [allRenumbered, List.map_cons, ih]

def Expr.renumbered : Expr → Expr
  | .empty => .empty
  | .set s => .set s
  | .place p => .place p
  | .seq a b => .seq a.renumbered b.renumbered
  | .alt a b => .alt a.renumbered b.renumbered
  | .repeated e min max greedy => .repeated e.renumbered min max greedy
  | .capture i e => .capture (i + 1) e.renumbered

namespace Expr

theorem renumbered_of_captures {e : Expr} (h : e.captures = false) : e.renumbered = e := by
  induction e <;> simp_all [renumbered, captures]

theorem maxLength_renumbered (e : Expr) : e.renumbered.maxLength = e.maxLength := by
  induction e <;> simp_all [renumbered, maxLength]

theorem times_renumbered (e : Expr) (min : Nat) (max : Option Nat) (greedy : Bool) :
    (e.times min max greedy).renumbered = e.renumbered.times min max greedy := by
  unfold times
  rw [maxLength_renumbered]
  generalize (if e.maxLength = some 0 then _ else _ : Nat × Option Nat) = counts
  obtain ⟨min, max⟩ := counts
  dsimp only
  split_ifs <;> rfl

end Expr

def renumber (x : Expr × Flags) : Expr × Flags := (x.1.renumbered, x.2)

theorem bind_renumber {x x' : Option (Expr × Flags)} {f f' : Flags → Option (Expr × Flags)}
    {g : Expr → Expr → Expr} (hx : x' = x.map renumber) (hf : ∀ fl, f' fl = (f fl).map renumber)
    (hg : ∀ a b, (g a b).renumbered = g a.renumbered b.renumbered) :
    (do let (a, fl) ← x'; let (b, fl) ← f' fl; return (g a b, fl)) =
      (do let (a, fl) ← x; let (b, fl) ← f fl; return (g a b, fl)).map renumber := by
  subst hx
  rcases x with _ | ⟨a, fl⟩
  · rfl
  · simp only [Option.map_some, renumber, Option.bind_eq_bind, Option.bind_some, hf]
    rcases f fl with _ | ⟨b, fl⟩
    · rfl
    · simp [renumber, hg]

mutual

theorem Syntax.meaning_renumbered (fl : Flags) : ∀ e : Syntax,
    e.renumbered.meaning fl = (e.meaning fl).map renumber
  | .empty => by simp [renumbered, meaning, renumber, Expr.renumbered]
  | .setFlags fs => by simp [renumbered, meaning, renumber, Expr.renumbered]
  | .literal l => by
    rw [renumbered, meaning]
    cases fl.literal? l <;> rfl
  | .dot => by
    rw [renumbered, meaning]
    split_ifs <;> rfl
  | .anchor a => by simp [renumbered, meaning, renumber, Expr.renumbered]
  | .property name negated => by
    rw [renumbered, meaning]
    cases fl.property? name negated <;> rfl
  | .perl p negated => by
    rw [renumbered, meaning]
    cases fl.perl? p negated <;> rfl
  | .bracket negated s => by
    rw [renumbered, meaning]
    rcases s.meaning fl with _ | members
    · rfl
    · simp only [Option.bind_eq_bind, Option.bind_some]
      cases fl.complementIf? negated (fl.fold members) <;> rfl
  | .repeated e min max greedy => by
    rw [renumbered, meaning, meaning, Syntax.meaning_renumbered fl e]
    rcases e.meaning fl with _ | ⟨e, fl'⟩
    · rfl
    · simp [renumber, Expr.times_renumbered]
  | .capture i e => by
    rw [renumbered, meaning, meaning, Syntax.meaning_renumbered fl e]
    rcases e.meaning fl with _ | ⟨e, fl'⟩ <;> rfl
  | .group fs e => by
    rw [renumbered, meaning, meaning, Syntax.meaning_renumbered (fl.apply fs) e]
    rcases e.meaning (fl.apply fs) with _ | ⟨e, fl'⟩ <;> rfl
  | .alternation es => by
    rw [renumbered, meaning, meaning, Syntax.branchMeaning_renumbered fl es]
  | .concat es => by
    rw [renumbered, meaning, meaning, Syntax.concatMeaning_renumbered fl es]

theorem Syntax.branchMeaning_renumbered (fl : Flags) : ∀ es : List Syntax,
    Syntax.branchMeaning fl (Syntax.allRenumbered es) = (Syntax.branchMeaning fl es).map renumber
  | [] => by simp [allRenumbered, branchMeaning, renumber, Expr.renumbered]
  | [e] => by
    rw [allRenumbered, allRenumbered, branchMeaning, branchMeaning, Syntax.meaning_renumbered fl e]
  | e :: e' :: es => by
    rw [allRenumbered, allRenumbered, branchMeaning, branchMeaning]
    · exact bind_renumber (Syntax.meaning_renumbered fl e)
        (fun fl => Syntax.branchMeaning_renumbered fl (e' :: es)) fun _ _ => rfl
    all_goals nofun

theorem Syntax.concatMeaning_renumbered (fl : Flags) : ∀ es : List Syntax,
    Syntax.concatMeaning fl (Syntax.allRenumbered es) = (Syntax.concatMeaning fl es).map renumber
  | [] => by simp [allRenumbered, concatMeaning, renumber, Expr.renumbered]
  | [e] => by
    rw [allRenumbered, allRenumbered, concatMeaning, concatMeaning, Syntax.meaning_renumbered fl e]
  | e :: e' :: es => by
    rw [allRenumbered, allRenumbered, concatMeaning, concatMeaning]
    · exact bind_renumber (Syntax.meaning_renumbered fl e)
        (fun fl => Syntax.concatMeaning_renumbered fl (e' :: es)) fun _ _ => rfl
    all_goals nofun

end

end SoftFail.Regex
