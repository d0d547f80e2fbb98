import SoftFail.Proofs.Check.Conditions
import SoftFail.Proofs.Detector.FirstFailure

/-! Checks that are turned off: an option that asks for nothing is as good as one that is not set,
and a check that is not planned for its options would have passed. -/

namespace SoftFail

namespace Config

/-- The same options, without those that ask for nothing: an empty type, no items, and patterns with
an empty expression. -/
def withoutIdle (c : Config) : Config :=
  { c with
    expectedContentType := if c.expectedContentType = some "" then none else c.expectedContentType
    minItemCount := if c.minItemCount = some 0 then none else c.minItemCount
    expectedPatterns := c.expectedPatterns.filter fun p => p.expression ≠ "" }

variable {c : Config}

theorem contentType?_withoutIdle (c : Config) : c.withoutIdle.contentType? = c.contentType? := by
  unfold contentType? withoutIdle
  dsimp only
  split_ifs with h
  · rw [h]
    rfl
  · rfl

theorem itemCount?_withoutIdle (c : Config) : c.withoutIdle.itemCount? = c.itemCount? := by
  unfold itemCount? withoutIdle
  dsimp only
  split_ifs with h
  · rw [h]
    rfl
  · rfl

theorem validate_eq_ok_iff : c.validate = .ok () ↔
    (∀ max ∈ c.maxContentLength, c.minContentLength ≤ max) ∧
      (0.0 ≤ c.minTextRatio && c.minTextRatio ≤ 1.0) = true ∧
      c.expectedPatterns.find? isNameless = none := by
  unfold validate
  -- Each of the three conditions holds or fails, and the first one that fails is the error.
  cases decide (0.0 ≤ c.minTextRatio) && decide (c.minTextRatio ≤ 1.0) <;>
    cases c.expectedPatterns.find? isNameless <;>
    cases c.maxContentLength with
    | none => simp [bind, Except.bind, throw, throwThe, MonadExceptOf.throw, pure, Except.pure]
    | some max =>
      rcases Nat.lt_or_ge max c.minContentLength with hlt | hge
      · simp [bind, Except.bind, throw, throwThe, MonadExceptOf.throw, hlt]
      · simp [bind, Except.bind, throw, throwThe, MonadExceptOf.throw, pure, Except.pure, hge,
          Nat.not_lt.2 hge]

theorem validate_withoutIdle (h : c.validate = .ok ()) : c.withoutIdle.validate = .ok () := by
  obtain ⟨hlengths, hratio, hnames⟩ := validate_eq_ok_iff.1 h
  refine validate_eq_ok_iff.2 ⟨hlengths, hratio, ?_⟩
  rw [List.find?_eq_none] at hnames ⊢
  exact fun p hp => hnames p (List.mem_filter.1 hp).1

end Config

namespace Check

variable {c : Config} {k : Check}

def optional : List Check := [.contentType, .requiredMarkers, .itemCount, .expectedPatterns]

theorem compileAll_withoutIdle (c : Config) :
    Pattern.compileAll c.withoutIdle.expectedPatterns = Pattern.compileAll c.expectedPatterns := by
  unfold Pattern.compileAll Config.withoutIdle
  dsimp only
  rw [List.filter_filter]
  simp only [Bool.and_self]

theorem complaint?_withoutIdle (k : Check) (s : Snapshot) (c : Config) (ps : List Pattern) :
    k.complaint? ⟨s, c.withoutIdle, ps⟩ = k.complaint? ⟨s, c, ps⟩ := by
  cases k with
  | contentType => rw [complaint?, complaint?, Config.contentType?_withoutIdle]
  | itemCount =>
    rw [complaint?, complaint?, Config.itemCount?_withoutIdle]
    rfl
  | _ => rfl

theorem complaint?_of_not_isEnabled {ps : List Pattern}
    (hps : Pattern.compileAll c.expectedPatterns = .ok ps) (hk : k ∈ optional)
    (hoff : isEnabled c k = false) (s : Snapshot) : k.complaint? ⟨s, c, ps⟩ = none := by
  cases k with
  | contentType =>
    rw [complaint?, Option.not_isSome_iff_eq_none.1 (Bool.eq_false_iff.1 hoff)]
    rfl
  | requiredMarkers =>
    have hnone : c.requiredMarkers = [] := by simpa [isEnabled] using hoff
    rw [complaint?, hnone]
    rfl
  | itemCount =>
    rw [complaint?, Option.not_isSome_iff_eq_none.1 (Bool.eq_false_iff.1 hoff)]
    rfl
  | expectedPatterns =>
    have hnone : c.expectedPatterns = [] := by simpa [isEnabled] using hoff
    rw [hnone] at hps
    cases hps
    rfl
  | _ => simp [optional] at hk

theorem mem_optional (hon : isEnabled c k = true) (hoff : isEnabled c.withoutIdle k = false) :
    k ∈ optional := by
  cases k <;> first | decide | exact absurd (hon.symm.trans hoff) (by decide)

theorem isEnabled_of_withoutIdle (h : isEnabled c.withoutIdle k = true) : isEnabled c k = true := by
  cases k with
  | contentType => rwa [isEnabled, Config.contentType?_withoutIdle] at h
  | itemCount => rwa [isEnabled, Config.itemCount?_withoutIdle] at h
  | expectedPatterns =>
    simp only [isEnabled, Bool.not_eq_true', List.isEmpty_eq_false_iff_exists_mem] at h ⊢
    exact h.imp fun p hp => (List.mem_filter.1 hp).1
  | _ => exact h

end Check

namespace Detector

variable {d d' : Detector} {s : Snapshot} {k : Check} {c : Config}

theorem judge_cons_of_passed (h : (d.run k s).passed = true) (cs : List Check) :
    d.judge s (k :: cs) = d.judge s cs := by
  rw [judge, (d.consistent_run k s).failure?_eq_none_iff.2 h]

/-- A check that passes may stand anywhere. -/
theorem judge_insert_of_passed (h : (d.run k s).passed = true) (earlier later : List Check) :
    d.judge s (earlier ++ k :: later) = d.judge s (earlier ++ later) := by
  induction earlier with
  | nil => exact judge_cons_of_passed h later
  | cons c earlier ih => rw [List.cons_append, List.cons_append, judge, judge, ih]

theorem judge_filter {keep : Check → Bool} {cs : List Check}
    (h : ∀ c ∈ cs, keep c = false → (d.run c s).passed = true) :
    d.judge s (cs.filter keep) = d.judge s cs := by
  induction cs with
  | nil => rfl
  | cons c cs ih =>
    obtain ⟨hc, hcs⟩ := List.forall_mem_cons.1 h
    cases hkeep : keep c with
    | true => rw [List.filter_cons_of_pos hkeep, judge, judge, ih hcs]
    | false =>
      rw [List.filter_cons_of_neg (by simp [hkeep]), ih hcs, judge_cons_of_passed (hc hkeep)]

theorem judge_congr_run (h : ∀ c, d.run c s = d'.run c s) (cs : List Check) :
    d.judge s cs = d'.judge s cs := by
  induction cs with
  | nil => rfl
  | cons c cs ih => rw [judge, judge, h, ih]

theorem passed_run_of_turnedOff (h : ofConfig c = .ok d) (hk : k ∈ Check.optional)
    (hoff : Check.isEnabled c k = false) (s : Snapshot) : (d.run k s).passed = true := by
  obtain ⟨-, ps, hps, rfl⟩ := ofConfig_eq_ok_iff.1 h
  exact (k.passed_run_iff _).2 (Check.complaint?_of_not_isEnabled hps hk hoff s)

theorem run_withoutAll (d : Detector) (removed : List Check) (k : Check) (s : Snapshot) :
    (d.withoutAll removed).run k s = d.run k s := by
  rw [withoutAll_eq]
  rfl

theorem run_withoutIdle (h : ofConfig c = .ok d) (h' : ofConfig c.withoutIdle = .ok d')
    (k : Check) (s : Snapshot) : d'.run k s = d.run k s := by
  obtain ⟨-, ps, hps, rfl⟩ := ofConfig_eq_ok_iff.1 h
  obtain ⟨-, ps', hps', rfl⟩ := ofConfig_eq_ok_iff.1 h'
  rw [Check.compileAll_withoutIdle, hps] at hps'
  cases hps'
  exact congrArg Outcome.ofComplaint (Check.complaint?_withoutIdle k s c ps)

theorem exists_ofConfig_withoutIdle (h : ofConfig c = .ok d) :
    ∃ d', ofConfig c.withoutIdle = .ok d' := by
  obtain ⟨hvalid, ps, hps, -⟩ := ofConfig_eq_ok_iff.1 h
  exact ⟨_, ofConfig_eq_ok_iff.2 ⟨Config.validate_withoutIdle hvalid, ps,
    (Check.compileAll_withoutIdle c).trans hps, rfl⟩⟩

theorem plan_withoutIdle (h : ofConfig c = .ok d) (h' : ofConfig c.withoutIdle = .ok d')
    (removed : List Check) :
    (d'.withoutAll removed).plan =
      (d.withoutAll removed).plan.filter (Check.isEnabled c.withoutIdle) := by
  rw [plan_withoutAll h, plan_withoutAll h', List.filter_filter]
  refine List.filter_congr fun k _ => ?_
  cases hk : Check.isEnabled c.withoutIdle k with
  | true => simp [Check.isEnabled_of_withoutIdle hk]
  | false => simp

/-- Idle options change no verdict, and neither does a check that they turn off, wherever it is put
into the plan. -/
theorem evaluate_withoutIdle (h : ofConfig c = .ok d) :
    (∃ d', ofConfig c.withoutIdle = .ok d' ∧ ∀ removed s,
        (d'.withoutAll removed).evaluate s = (d.withoutAll removed).evaluate s) ∧
      ∀ k ∈ Check.optional, Check.isEnabled c k = false → ∀ s, (d.run k s).passed = true ∧
        ∀ earlier later, d.plan = earlier ++ later →
          d.judge s (earlier ++ k :: later) = d.evaluate s := by
  refine ⟨?_, fun k hk hoff s => ?_⟩
  · obtain ⟨d', h'⟩ := exists_ofConfig_withoutIdle h
    refine ⟨d', h', fun removed s => ?_⟩
    have hrun (k : Check) : (d'.withoutAll removed).run k s = (d.withoutAll removed).run k s := by
      rw [run_withoutAll, run_withoutAll, run_withoutIdle h h']
    -- What is planned for `c` only has a gate that closes without the idle options.
    have hdropped : ∀ k ∈ (d.withoutAll removed).plan, Check.isEnabled c.withoutIdle k = false →
        ((d.withoutAll removed).run k s).passed = true := by
      intro k hk hoff
      rw [plan_withoutAll h] at hk
      have hon : Check.isEnabled c k = true := (of_decide_eq_true (List.mem_filter.1 hk).2).1
      rw [← hrun, run_withoutAll]
      exact passed_run_of_turnedOff h' (Check.mem_optional hon hoff) hoff s
    rw [evaluate, evaluate, plan_withoutIdle h h', judge_congr_run hrun, judge_filter hdropped]
  · have hpass := passed_run_of_turnedOff h hk hoff s
    refine ⟨hpass, fun earlier later hplan => ?_⟩
    rw [judge_insert_of_passed hpass, ← hplan, evaluate]

/-- A page judged for no type, no items and a pattern without expression: the gate of patterns is
open although there is none to look for. -/
theorem evaluate_withoutIdle_page :
    let c : Config := {
      minContentLength := 1
      expectedContentType := some ""
      minItemCount := some 0
      expectedPatterns := [⟨"price", "", 3⟩] }
    let page := Snapshot.ofText 200 "sold out"
    Check.isEnabled c .expectedPatterns = true ∧
      Check.isEnabled c.withoutIdle .expectedPatterns = false ∧
      Check.isEnabled c .contentType = false ∧
      ∃ d d', ofConfig c = .ok d ∧ ofConfig c.withoutIdle = .ok d' ∧ d.evaluate page = .valid ∧
        d'.evaluate page = d.evaluate page ∧ (d.run .contentType page).passed = true ∧
        d.judge page (d.plan.take 3 ++ .contentType :: d.plan.drop 3) = d.evaluate page := by
  intro c page
  have hoff : Check.isEnabled c .contentType = false := by decide
  have hvalid : c.validate = .ok () :=
    Config.validate_eq_ok_iff.2 ⟨by simp [c], by decide, by decide⟩
  have h : ofConfig c = .ok _ := ofConfig_eq_ok_iff.2 ⟨hvalid, [], rfl, rfl⟩
  obtain ⟨⟨d', h', hsame⟩, hpassed⟩ := evaluate_withoutIdle h
  obtain ⟨hpass, hjudge⟩ := hpassed .contentType (by decide) hoff page
  exact ⟨by decide, by decide, hoff, _, d', h, h', by decide +kernel, hsame [] page, hpass,
    hjudge _ _ (List.take_append_drop 3 _).symm⟩

end Detector

end SoftFail
