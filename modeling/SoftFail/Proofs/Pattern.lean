import SoftFail.Check.Expectation
import SoftFail.Proofs.Regex.Parser
import SoftFail.Proofs.Regex.Surrounded
import SoftFail.Proofs.Unicode.CaseFold

/-! The values of a pattern are those of its matches, one for each, whether it has groups or not. -/

namespace SoftFail

namespace Regex

variable {s : String} {r : Regex}

theorem exists_of_parse? (h : parse? s = some r) : ∃ syn e fl, Syntax.parse? s.toList = some syn ∧
    syn.meaning { caseInsensitive := true } = some (e, fl) ∧ r = ofExpr e := by
  obtain ⟨syn, hsyn, h⟩ := Option.bind_eq_some_iff.1 h
  obtain ⟨⟨e, fl⟩, he, h⟩ := Option.bind_eq_some_iff.1 h
  obtain ⟨-, h⟩ := Option.ite_none_right_eq_some.1 h
  exact ⟨syn, e, fl, hsyn, he, (Option.some.inj h).symm⟩

theorem parse?_group {q : Regex} (h : parse? s = some r) (hq : parse? ("(" ++ s ++ ")") = some q)
    (hplain : r.expr.captures = false) : q = ofExpr (.capture 1 r.expr) := by
  obtain ⟨syn, e, fl, hsyn, he, rfl⟩ := exists_of_parse? h
  obtain ⟨syn', e', fl', hsyn', he', rfl⟩ := exists_of_parse? hq
  have htext : ("(" ++ s ++ ")").toList = '(' :: (s.toList ++ [')']) := by
    simp [String.toList_append]
  rw [htext] at hsyn'
  rw [Syntax.parse?_group hsyn hsyn', Syntax.meaning, Syntax.meaning_renumbered, he] at he'
  obtain rfl : Expr.capture 1 e.renumbered = e' := congrArg Prod.fst (Option.some.inj he')
  exact congrArg (fun e => ofExpr (.capture 1 e)) (Expr.renumbered_of_captures hplain)

theorem eq_ofExpr_of_parse? (h : parse? s = some r) : r = ofExpr r.expr := by
  obtain ⟨_, e, _, -, -, rfl⟩ := exists_of_parse? h
  rfl

theorem values_capture {e : Expr} (hplain : e.captures = false) (body : List Char) :
    (ofExpr (.capture 1 e)).values body = (ofExpr e).values body := by
  have hmatches := (Expr.capture 1 e).allMatches_ungrouped body
  rw [Expr.ungrouped, Expr.ungrouped_of_captures hplain] at hmatches
  have hgroup := Expr.group_of_mem_allMatches hplain body
  simp only [values, ofExpr, hmatches, List.map_map]
  refine List.map_congr_left fun m hm => ?_
  simp only [valueOf, Function.comp_apply, Expr.captures, hplain, hgroup m hm]
  rfl

theorem length_values (e : Expr) (body : List Char) :
    ((ofExpr e).values body).length = (e.ungrouped.program.allMatches body).length := by
  rw [e.allMatches_ungrouped, List.length_map, values, List.length_map]
  rfl

end Regex

namespace Pattern

open Check

theorem uniformComplaint_ne_tooFew (name : String) (values : List String) (n least : Nat)
    (name' : String) : uniformComplaint name values ≠ some (.tooFew n name' least) := by
  rw [uniformComplaint]
  split_ifs <;> nofun

theorem tooFew_iff {p : Pattern} {body : List Char} {n : Nat} :
    patternComplaint p body = some (.tooFew n p.name p.minCount) ↔
      n = (p.values body).length ∧ n < p.minCount := by
  rw [patternComplaint]
  split_ifs with hfew hsample
  · constructor
    · rintro ⟨⟩
      exact ⟨rfl, hfew⟩
    · rintro ⟨rfl, -⟩
      rfl
  · exact ⟨nofun, fun ⟨hn, hless⟩ => absurd (hn ▸ hless) hfew⟩
  · exact ⟨fun h => absurd h (uniformComplaint_ne_tooFew _ _ _ _ _),
      fun ⟨hn, hless⟩ => absurd (hn ▸ hless) hfew⟩

theorem exists_of_compile {p : ExpectedPattern} {P : Pattern} (h : compile p = .ok P) :
    Regex.parse? p.expression = some P.regex := by
  rw [compile] at h
  split at h
  next regex hregex =>
    cases h
    exact hregex
  next => cases h

/-- An expression in a group has the values that it has without. Where an expression has groups,
each match has a value, the text of the first group or no text, and the least number of values is
one of matches. -/
theorem values_group :
    (∀ (p q : ExpectedPattern) (P Q : Pattern), q.expression = "(" ++ p.expression ++ ")" →
      compile p = .ok P → compile q = .ok Q → P.regex.expr.captures = false →
      ∀ body, Q.values body = P.values body) ∧
    ∀ (p : ExpectedPattern) (P : Pattern), compile p = .ok P → ∀ body,
      let found := P.regex.program.allMatches body
      let whole := P.regex.expr.ungrouped.program.allMatches body
      found.map Regex.Match.bare = whole ∧
      (P.regex.expr.captures = true →
        P.values body = found.map fun m => (m.group.map Regex.Span.toString).getD "") ∧
      (P.values body).length = whole.length ∧
      ∀ n, patternComplaint P body = some (.tooFew n P.name P.minCount) ↔
        n = whole.length ∧ n < P.minCount := by
  refine ⟨fun p q P Q htext hP hQ hplain body => ?_, fun p P hP body => ?_⟩
  · have hregex := exists_of_compile hP
    have hgroup := Regex.parse?_group hregex (htext ▸ exists_of_compile hQ) hplain
    rw [values, values, hgroup, Regex.eq_ofExpr_of_parse? hregex]
    exact Regex.values_capture hplain body
  · have hregex := Regex.eq_ofExpr_of_parse? (exists_of_compile hP)
    have hlength : (P.values body).length =
        (P.regex.expr.ungrouped.program.allMatches body).length := by
      rw [values, hregex]
      exact Regex.length_values _ body
    have hmatches : (P.regex.program.allMatches body).map Regex.Match.bare =
        P.regex.expr.ungrouped.program.allMatches body := by
      rw [hregex]
      exact (P.regex.expr.allMatches_ungrouped body).symm
    refine ⟨hmatches, fun hgroups => ?_, hlength, fun n => ?_⟩
    · refine List.map_congr_left fun m _ => ?_
      rw [Regex.valueOf, hgroups]
      rfl
    · rw [tooFew_iff, hlength]

def oneOrFew : Regex.Expr :=
  .alt (.set (.ofList (Unicode.caseVariants 0x61)))
    (.repeated (.set (.ofList (Unicode.caseVariants 0x62))) 0 none false)

theorem values_oneOrFew :
    (Regex.ofExpr oneOrFew).values "xabb".toList = ["", "a", "", ""] ∧
      (Regex.ofExpr (.capture 1 oneOrFew)).values "xabb".toList = ["", "a", "", ""] := by
  have ha : Unicode.caseVariants 0x61 = [0x41, 0x61] :=
    Unicode.caseVariants_of_filter (by decide +kernel)
  have hb : Unicode.caseVariants 0x62 = [0x42, 0x62] :=
    Unicode.caseVariants_of_filter (by decide +kernel)
  rw [oneOrFew, ha, hb]
  decide +kernel

theorem values_group_lazy :
    ∃ P Q, compile ⟨"badge", "a|b*?", 1⟩ = .ok P ∧ compile ⟨"badge", "(a|b*?)", 1⟩ = .ok Q ∧
      P.regex.expr.captures = false ∧ Q.regex.expr.captures = true ∧
      P.values "xabb".toList = ["", "a", "", ""] ∧ Q.values "xabb".toList = ["", "a", "", ""] ∧
      (∀ body, Q.values body = P.values body) ∧
      ∀ body, (Q.values body).length = (Q.regex.expr.ungrouped.program.allMatches body).length := by
  have hplain : Regex.parse? "a|b*?" = some (.ofExpr oneOrFew) := rfl
  have hgroup : Regex.parse? "(a|b*?)" = some (.ofExpr (.capture 1 oneOrFew)) := rfl
  have hP : compile ⟨"badge", "a|b*?", 1⟩ = .ok ⟨"badge", .ofExpr oneOrFew, 1⟩ := by
    simp only [compile, hplain]
  have hQ : compile ⟨"badge", "(a|b*?)", 1⟩ = .ok ⟨"badge", .ofExpr (.capture 1 oneOrFew), 1⟩ := by
    simp only [compile, hgroup]
  obtain ⟨hvalues, hall⟩ := values_group
  refine ⟨_, _, hP, hQ, rfl, rfl, values_oneOrFew.1, values_oneOrFew.2,
    hvalues _ _ _ _ rfl hP hQ rfl, fun body => ?_⟩
  obtain ⟨-, -, hlength, -⟩ := hall _ _ hQ body
  exact hlength

end Pattern

end SoftFail
