import Mathlib.Data.Rat.Cast.Order
import Mathlib.Tactic.Linarith
import SoftFail.Proofs.Check.Conditions
import SoftFail.Proofs.Check.Uniformity
import SoftFail.Proofs.Detector.FirstFailure

/-! Expected patterns: the first one that is not met decides, by how often each of its values
occurs. -/

namespace SoftFail.Check

variable {p q : Pattern} {body body' : List Char}

/-- Enough values, and none that makes up more than four fifths of five or more. -/
def IsMet (p : Pattern) (body : List Char) : Prop :=
  p.minCount ≤ (p.values body).length ∧ ((p.values body).length < 5 ∨
    ∀ v, ((p.values body).count v : ℚ) ≤ 4 / 5 * (p.values body).length)

theorem dominates_iff {v : String} {values : List String} :
    Dominates v values ↔ (4 / 5 * values.length : ℚ) < values.count v := by
  have hcast : ((values.length * 4 : Nat) : ℚ) < (values.count v * 5 : Nat) ↔
      values.length * 4 < values.count v * 5 := Nat.cast_lt
  rw [Dominates, ← hcast]
  push_cast
  constructor <;> intro h <;> linarith

theorem ne_nil_of_minSample_le {values : List String} (h : minSample ≤ values.length) :
    values ≠ [] := by
  rintro rfl
  cases h

theorem patternComplaint_eq_none_iff_isMet :
    patternComplaint p body = none ↔ IsMet p body := by
  rw [patternComplaint_eq_none_iff, IsMet, ← Nat.not_le, ← imp_iff_not_or]
  refine and_congr_right fun _ => imp_congr_right fun hsample => ?_
  rw [uniformComplaint_eq_none_iff (ne_nil_of_minSample_le hsample)]
  exact forall_congr' fun v => by rw [dominates_iff, not_lt]

theorem exists_dominates (hp : ¬IsMet p body) (hmin : p.minCount ≤ (p.values body).length) :
    (∃ v, Dominates v (p.values body)) ∧
      patternComplaint p body = uniformComplaint p.name (p.values body) := by
  simp only [IsMet, not_and, not_or, not_lt, not_forall, not_le, ← dominates_iff] at hp
  obtain ⟨hsample, hdominates⟩ := hp hmin
  refine ⟨hdominates, ?_⟩
  simp only [patternComplaint, if_neg (Nat.not_lt.2 hmin)]
  exact if_neg (Nat.not_lt.2 hsample)

theorem patternComplaint_congr (hname : p.name = q.name) (hmin : p.minCount = q.minCount)
    (hperm : (p.values body).Perm (q.values body')) :
    patternComplaint p body = patternComplaint q body' := by
  simp only [patternComplaint, hname, hmin, hperm.length_eq, uniformComplaint_perm hperm]

theorem patternsComplaint_of_first {earlier later : List Pattern}
    (hearlier : ∀ q ∈ earlier, IsMet q body) (hp : ¬IsMet p body) :
    patternsComplaint (earlier ++ p :: later) body = patternComplaint p body :=
  findSome?_of_first (fun q hq => patternComplaint_eq_none_iff_isMet.2 (hearlier q hq))
    fun hnone => hp (patternComplaint_eq_none_iff_isMet.1 hnone)

theorem patternsComplaint_congr {ps qs : List Pattern}
    (h : List.Forall₂ (fun p q => p.name = q.name ∧ p.minCount = q.minCount ∧
      (p.values body).Perm (q.values body')) ps qs) :
    patternsComplaint ps body = patternsComplaint qs body' := by
  induction h with
  | nil => rfl
  | cons hpq _ ih =>
    obtain ⟨hname, hmin, hperm⟩ := hpq
    simp only [patternsComplaint, List.findSome?_cons] at ih ⊢
    rw [patternComplaint_congr hname hmin hperm, ih]

def patternComplaintBy (p : Pattern) (values : List String) (table : List (String × Nat)) :
    Option Complaint :=
  if values.length < p.minCount then some (.tooFew values.length p.name p.minCount)
  else if values.length < minSample then none
  else tableComplaint p.name values table

theorem patternComplaintBy_eq {table : List (String × Nat)} (h : Counted table (p.values body)) :
    patternComplaintBy p (p.values body) table = patternComplaint p body := by
  simp only [patternComplaintBy, patternComplaint]
  split_ifs with hmin hsample
  · rfl
  · rfl
  · exact h.isTally.tableComplaint_eq (ne_nil_of_minSample_le (Nat.not_lt.1 hsample)) p.name

theorem patternsComplaint_eq_of_counted {ps : List Pattern} {tables : List (List (String × Nat))}
    (h : List.Forall₂ (fun p table => Counted table (p.values body)) ps tables) :
    patternsComplaint ps body = (ps.zip tables).findSome? fun (p, table) =>
      patternComplaintBy p (p.values body) table := by
  induction h with
  | nil => rfl
  | cons hcounted _ ih =>
    simp only [patternsComplaint, List.zip_cons_cons, List.findSome?_cons] at ih ⊢
    rw [patternComplaintBy_eq hcounted, ih]

theorem exists_counted_tables (ps : List Pattern) (body : List Char) :
    ∃ tables, List.Forall₂ (fun p table => Counted table (p.values body)) ps tables := by
  induction ps with
  | nil => exact ⟨[], .nil⟩
  | cons p ps ih =>
    obtain ⟨tables, h⟩ := ih
    obtain ⟨table, htable⟩ := exists_counted (p.values body)
    exact ⟨table :: tables, .cons htable h⟩

/-- Expected patterns pass when all of them are met; otherwise the first that is not decides. Only
how often each value occurs matters, and the tables of that may stand in any order. -/
theorem expectedPatterns_judged (s : Subject) :
    ((expectedPatterns.run s).passed = true ↔ ∀ p ∈ s.patterns, IsMet p s.body) ∧
    (∀ earlier p later, s.patterns = earlier ++ p :: later →
      (∀ q ∈ earlier, IsMet q s.body) → ¬IsMet p s.body →
      let values := p.values s.body
      let total := values.length
      (total < p.minCount →
        expectedPatterns.run s = .fail (Complaint.tooFew total p.name p.minCount).message) ∧
      (p.minCount ≤ total → ∀ v, (∀ u ∈ values, u = v) → expectedPatterns.run s =
        .fail (Complaint.identicalValues p.name (String.ofList (v.toList.take 30))).message) ∧
      (p.minCount ≤ total → (¬∃ v, ∀ u ∈ values, u = v) →
        ∃ v, (4 / 5 * total : ℚ) < values.count v ∧
          (∀ u, (4 / 5 * total : ℚ) < values.count u → u = v) ∧ expectedPatterns.run s =
            .fail (Complaint.dominantValue (values.count v) total p.name).message)) ∧
    (∀ t : Subject, List.Forall₂ (fun p q => p.name = q.name ∧ p.minCount = q.minCount ∧
      (p.values s.body).Perm (q.values t.body)) s.patterns t.patterns →
      expectedPatterns.run s = expectedPatterns.run t) ∧
    (∃ tables, List.Forall₂ (fun p table => Counted table (p.values s.body)) s.patterns tables) ∧
    ∀ tables, List.Forall₂ (fun p table => Counted table (p.values s.body)) s.patterns tables →
      expectedPatterns.run s = .ofComplaint ((s.patterns.zip tables).findSome? fun (p, table) =>
        patternComplaintBy p (p.values s.body) table) := by
  have hrun (t : Subject) :
      expectedPatterns.run t = .ofComplaint (patternsComplaint t.patterns t.body) := rfl
  refine ⟨?_, ?_, ?_, exists_counted_tables _ _, ?_⟩
  · rw [hrun, Outcome.passed_ofComplaint_iff, patternsComplaint_eq_none_iff]
    exact forall₂_congr fun p _ => patternComplaint_eq_none_iff_isMet
  · intro earlier p later hsplit hearlier hp values total
    have hfirst : expectedPatterns.run s = .ofComplaint (patternComplaint p s.body) := by
      rw [hrun, hsplit, patternsComplaint_of_first hearlier hp]
    rw [hfirst]
    refine ⟨fun hfew => ?_, fun hmin v hall => ?_, fun hmin hdiffer => ?_⟩
    · rw [patternComplaint]
      exact congrArg Outcome.ofComplaint (if_pos hfew)
    · obtain ⟨⟨u, hu⟩, hcomplaint⟩ := exists_dominates hp hmin
      rw [hcomplaint, uniformComplaint_of_forall_eq hu.ne_nil hall]
      rfl
    · obtain ⟨⟨v, hv⟩, hcomplaint⟩ := exists_dominates hp hmin
      refine ⟨v, dominates_iff.1 hv, fun u hu => hv.unique (dominates_iff.2 hu), ?_⟩
      rw [hcomplaint, uniformComplaint_of_dominates hv fun h => hdiffer ⟨v, h⟩]
      rfl
  · intro t h
    rw [hrun, hrun, patternsComplaint_congr h]
  · intro tables h
    rw [hrun, patternsComplaint_eq_of_counted h]

end SoftFail.Check
