import Mathlib.Tactic.SplitIfs
import SoftFail.Check.Outcome
import SoftFail.Proofs.Decimal.Comparison

/-! The conditions that responses meet, for the checks with options of their own: each is the exact
condition under which a check has no complaint. -/

namespace SoftFail

namespace Pattern

theorem mem_of_mapM_ok {α β ε : Type} {f : α → Except ε β} {xs : List α} {ys : List β}
    (h : xs.mapM f = .ok ys) {y : β} : y ∈ ys ↔ ∃ x ∈ xs, f x = .ok y := by
  induction xs generalizing ys with
  | nil =>
    obtain rfl : [] = ys := by simpa [pure, Except.pure] using h
    simp
  | cons x xs ih =>
    rw [List.mapM_cons] at h
    cases hx : f x with
    | error e => simp [hx, bind, Except.bind] at h
    | ok z =>
      cases hxs : xs.mapM f with
      | error e => simp [hx, hxs, bind, Except.bind] at h
      | ok zs =>
        obtain rfl : z :: zs = ys := by
          simpa [hx, hxs, bind, Except.bind, pure, Except.pure] using h
        simp [ih hxs, hx, eq_comm]

theorem mem_compileAll_iff {es : List ExpectedPattern} {ps : List Pattern}
    (h : compileAll es = .ok ps) {p : Pattern} :
    p ∈ ps ↔ ∃ e ∈ es, e.expression ≠ "" ∧ compile e = .ok p := by
  rw [mem_of_mapM_ok h]
  simp [and_assoc]

theorem compile_eq_ok_iff {e : ExpectedPattern} {p : Pattern} :
    compile e = .ok p ↔ ∃ regex, Regex.parse? e.expression = some regex ∧
      p = ⟨e.name, regex, e.minCount⟩ := by
  unfold compile
  cases Regex.parse? e.expression <;> simp [eq_comm]

end Pattern

namespace Check

theorem contentTypeComplaint_eq_none_iff (expected? : Option String) (s : Snapshot) :
    contentTypeComplaint expected? s = none ↔ ∀ t ∈ expected?,
      Text.contains (Text.lower t.toList)
        (Text.lower ((s.headers.get? "content-type").getD "").toList) = true := by
  cases expected? with
  | none => simp [contentTypeComplaint]
  | some t => simp [contentTypeComplaint]

theorem contentLengthComplaint_eq_none_iff (c : Config) (length : Nat) :
    contentLengthComplaint c length = none ↔
      0 < length ∧ c.minContentLength ≤ length ∧ ∀ max ∈ c.maxContentLength, length ≤ max := by
  unfold contentLengthComplaint
  cases c.maxContentLength with
  | none => split_ifs <;> simp <;> omega
  | some max => split_ifs <;> simp <;> omega

theorem markerComplaint_eq_none_iff (markers : List String) (body : List Char) :
    markerComplaint markers body = none ↔ ∀ m ∈ markers, Text.contains m.toList body = true := by
  unfold markerComplaint
  cases h : markers.filter fun m => !Text.contains m.toList body with
  | nil => simpa using h
  | cons m ms =>
    have hm : m ∈ markers.filter fun m => !Text.contains m.toList body := by simp [h]
    obtain ⟨hm, habsent⟩ := List.mem_filter.1 hm
    simp only [reduceCtorEq, false_iff]
    intro hall
    simp [hall m hm] at habsent

theorem itemComplaint_eq_none_iff (min? : Option Nat) (body : List Char) :
    itemComplaint min? body = none ↔ ∀ min ∈ min?, min ≤ (bestItems body).2 := by
  cases min? with
  | none => simp [itemComplaint]
  | some min => simp [itemComplaint]

theorem uniformComplaint_congr_name (name name' : String) (values : List String) :
    uniformComplaint name values = none ↔ uniformComplaint name' values = none := by
  simp only [uniformComplaint]
  split_ifs <;> simp

theorem patternComplaint_eq_none_iff (p : Pattern) (body : List Char) :
    patternComplaint p body = none ↔ p.minCount ≤ (p.values body).length ∧
      (minSample ≤ (p.values body).length → uniformComplaint p.name (p.values body) = none) := by
  unfold patternComplaint
  grind

theorem patternsComplaint_eq_none_iff (ps : List Pattern) (body : List Char) :
    patternsComplaint ps body = none ↔ ∀ p ∈ ps, patternComplaint p body = none :=
  List.findSome?_eq_none_iff

theorem densityComplaint_congr {ratio ratio' : Float} (h : (ratio == ratio') = true)
    (body : List Char) : densityComplaint ratio body = densityComplaint ratio' body := by
  simp only [densityComplaint, Decimal.lt_congr_right h]

end Check

end SoftFail
