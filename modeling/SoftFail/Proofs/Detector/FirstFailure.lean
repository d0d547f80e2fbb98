import SoftFail.Detector

/-! The verdict of a detector is its first failure: of the planned checks that fail, the earliest
one in the order of all checks. Taking checks off the plan changes nothing else. -/

namespace SoftFail

theorem findSome?_of_first {α β : Type} {f : α → Option β} {earlier later : List α} {a : α}
    (hearlier : ∀ b ∈ earlier, f b = none) (ha : f a ≠ none) :
    (earlier ++ a :: later).findSome? f = f a := by
  obtain ⟨c, hc⟩ := Option.ne_none_iff_exists'.1 ha
  rw [hc]
  exact List.findSome?_eq_some_iff.2 ⟨earlier, a, later, rfl, hc, hearlier⟩

namespace Outcome

def Consistent (o : Outcome) : Prop := o.reason.isSome = !o.passed

theorem consistent_ofComplaint (c? : Option Complaint) : (ofComplaint c?).Consistent := by
  cases c? <;> rfl

theorem passed_ofComplaint_iff {c? : Option Complaint} :
    (ofComplaint c?).passed = true ↔ c? = none := by
  cases c? <;> simp [ofComplaint, pass, fail]

theorem failure?_eq_some_iff {o : Outcome} {reason : String} :
    o.failure? = some reason ↔ o.passed = false ∧ o.reason = some reason := by
  unfold failure?
  cases o.passed <;> simp

theorem Consistent.failure?_eq_none_iff {o : Outcome} (h : o.Consistent) :
    o.failure? = none ↔ o.passed = true := by
  unfold failure?
  cases hp : o.passed with
  | true => simp
  | false =>
    have hr : o.reason.isSome = true := by rw [h, hp]; rfl
    simp [Option.isSome_iff_ne_none.1 hr]

end Outcome

namespace Check

theorem all_ascending : all.Pairwise (·.index < ·.index) := by decide

theorem consistent_run (c : Check) (s : Subject) : (c.run s).Consistent :=
  Outcome.consistent_ofComplaint _

theorem passed_run_iff (c : Check) (s : Subject) :
    (c.run s).passed = true ↔ c.complaint? s = none :=
  Outcome.passed_ofComplaint_iff

end Check

namespace Detector

variable {d : Detector} {s : Snapshot}

theorem consistent_run (d : Detector) (c : Check) (s : Snapshot) : (d.run c s).Consistent :=
  c.consistent_run _

structure FailsFirst (d : Detector) (s : Snapshot) (cs : List Check) (c : Check) : Prop where
  listed : c ∈ cs
  failed : (d.run c s).passed = false
  earliest : ∀ b ∈ cs, b.index < c.index → (d.run b s).passed = true

theorem FailsFirst.head {a : Check} {cs : List Check} (h : (d.run a s).passed = false)
    (ha : ∀ b ∈ cs, a.index < b.index) : d.FailsFirst s (a :: cs) a where
  listed := List.mem_cons_self
  failed := h
  earliest b hb hlt := by
    rcases List.mem_cons.1 hb with rfl | hb
    · exact absurd hlt (Nat.lt_irrefl _)
    · exact absurd hlt (Nat.lt_asymm (ha b hb))

theorem FailsFirst.eq_head {a c : Check} {cs : List Check} (h : d.FailsFirst s (a :: cs) c)
    (hfail : (d.run a s).passed = false) (ha : ∀ b ∈ cs, a.index < b.index) : c = a := by
  rcases List.mem_cons.1 h.listed with hc | hc
  · exact hc
  · rw [h.earliest a List.mem_cons_self (ha c hc)] at hfail
    cases hfail

theorem failsFirst_cons_iff {a c : Check} {cs : List Check} (hpass : (d.run a s).passed = true) :
    d.FailsFirst s (a :: cs) c ↔ d.FailsFirst s cs c := by
  constructor
  · intro h
    have hne : c ≠ a := by
      rintro rfl
      rw [h.failed] at hpass
      cases hpass
    exact ⟨(List.mem_cons.1 h.listed).resolve_left hne, h.failed,
      (List.forall_mem_cons.1 h.earliest).2⟩
  · intro h
    exact ⟨List.mem_cons_of_mem _ h.listed, h.failed,
      List.forall_mem_cons.2 ⟨fun _ => hpass, h.earliest⟩⟩

theorem judge_eq_valid_iff (d : Detector) (s : Snapshot) (cs : List Check) :
    d.judge s cs = .valid ↔ ∀ c ∈ cs, (d.run c s).passed = true := by
  induction cs with
  | nil => simp [judge]
  | cons a cs ih =>
    have ha := (d.consistent_run a s).failure?_eq_none_iff
    rw [judge, List.forall_mem_cons, ← ih, ← ha]
    cases (d.run a s).failure? <;> simp

theorem judge_eq_invalid_iff {cs : List Check} (hcs : cs.Pairwise (·.index < ·.index))
    {c : Check} {category : Category} {reason : String} :
    d.judge s cs = .invalid c category reason ↔
      d.FailsFirst s cs c ∧ category = c.category ∧ (d.run c s).reason = some reason := by
  induction cs with
  | nil => exact ⟨fun h => by simp [judge] at h, fun ⟨h, _⟩ => absurd h.listed List.not_mem_nil⟩
  | cons a cs ih =>
    -- The plan ascends, so that no check behind its head can come before it.
    obtain ⟨ha, hcs⟩ := List.pairwise_cons.1 hcs
    rw [judge]
    cases hf : (d.run a s).failure? with
    | some r =>
      obtain ⟨hp, hr⟩ := Outcome.failure?_eq_some_iff.1 hf
      constructor
      · rintro ⟨⟩
        exact ⟨.head hp ha, rfl, hr⟩
      · rintro ⟨h, rfl, hreason⟩
        obtain rfl := h.eq_head hp ha
        rw [hr] at hreason
        cases hreason
        rfl
    | none =>
      have hp := (d.consistent_run a s).failure?_eq_none_iff.1 hf
      rw [ih hcs, failsFirst_cons_iff hp]

theorem exists_evaluate_eq_invalid (hd : d.plan.Pairwise (·.index < ·.index)) {c : Check}
    (hc : c ∈ d.plan) (hfail : (d.run c s).passed = false) :
    ∃ b category reason, d.evaluate s = .invalid b category reason ∧ b.index ≤ c.index := by
  cases hv : d.evaluate s with
  | valid =>
    have hpass := (judge_eq_valid_iff d s d.plan).1 hv c hc
    rw [hfail] at hpass
    cases hpass
  | invalid b category reason =>
    refine ⟨b, category, reason, rfl, Nat.le_of_not_lt fun hlt => ?_⟩
    have hpass := ((judge_eq_invalid_iff hd).1 hv).1.earliest c hc hlt
    rw [hfail] at hpass
    cases hpass

/-! The plan. -/

theorem ofConfig_eq_ok_iff {config : Config} :
    ofConfig config = .ok d ↔ config.validate = .ok () ∧
      ∃ patterns, Pattern.compileAll config.expectedPatterns = .ok patterns ∧
        d = ⟨config, patterns, Check.all.filter (Check.isEnabled config)⟩ := by
  unfold ofConfig
  cases config.validate with
  | error e => simp [bind, Except.bind, throw, throwThe, MonadExceptOf.throw]
  | ok u =>
    cases Pattern.compileAll config.expectedPatterns with
    | error e => simp [bind, Except.bind]
    | ok patterns =>
      constructor
      · rintro ⟨⟩
        exact ⟨rfl, patterns, rfl, rfl⟩
      · rintro ⟨-, _, ⟨⟩, rfl⟩
        rfl

theorem withoutAll_eq (d : Detector) (cs : List Check) :
    d.withoutAll cs = { d with plan := d.plan.filter (· ∉ cs) } := by
  induction cs generalizing d with
  | nil => simp [withoutAll, List.filter_eq_self.2]
  | cons a cs ih =>
    rw [withoutAll, List.foldl_cons, ← withoutAll, ih, without]
    simp [List.filter_filter, Bool.and_comm]

/-- No check is missing from the plan but those that are turned off or removed, and none is out of
order. -/
theorem plan_withoutAll {config : Config} (h : ofConfig config = .ok d) (removed : List Check) :
    (d.withoutAll removed).plan =
      Check.all.filter fun c => Check.isEnabled config c ∧ c ∉ removed := by
  obtain ⟨_, patterns, _, rfl⟩ := ofConfig_eq_ok_iff.1 h
  rw [withoutAll_eq, List.filter_filter]
  exact List.filter_congr fun c _ => by simp [Bool.and_comm]

theorem plan_ascending {config : Config} (h : ofConfig config = .ok d) (removed : List Check) :
    (d.withoutAll removed).plan.Pairwise (·.index < ·.index) := by
  rw [plan_withoutAll h]
  exact Check.all_ascending.filter _

/-- The verdict under any removals, by the outcomes of the single checks. -/
theorem evaluate_withoutAll {config : Config} {d : Detector} (h : ofConfig config = .ok d)
    (removed : List Check) (s : Snapshot) :
    let reduced := d.withoutAll removed
    reduced.plan = (Check.all.filter fun c => Check.isEnabled config c ∧ c ∉ removed) ∧
      (∀ c category reason, reduced.evaluate s = .invalid c category reason ↔
        reduced.FailsFirst s reduced.plan c ∧ category = c.category ∧
          (reduced.run c s).reason = some reason) ∧
      (reduced.evaluate s = .valid ↔ ∀ c ∈ reduced.plan, (reduced.run c s).passed = true) ∧
      ∀ removed', (∀ c, c ∈ removed' ↔ c ∈ removed) →
        (d.withoutAll removed').evaluate s = reduced.evaluate s := by
  refine ⟨plan_withoutAll h removed, fun c category reason => ?_, ?_, fun removed' hsame => ?_⟩
  · exact judge_eq_invalid_iff (plan_ascending h removed)
  · exact judge_eq_valid_iff _ s _
  · have : d.withoutAll removed' = d.withoutAll removed := by
      simp only [withoutAll_eq, hsame]
    rw [this]

/-- A page without its marker, judged by all checks but those of its type and its length. -/
theorem evaluate_withoutAll_marker :
    ∃ d, ofConfig { requiredMarkers := ["price"], checkJsRendering := true } = .ok d ∧
      (d.withoutAll [.contentLength, .contentType, .contentLength]).FailsFirst
        (.ofText 200 "sold out")
        (d.withoutAll [.contentLength, .contentType, .contentLength]).plan .requiredMarkers ∧
      (d.withoutAll [.contentType, .contentLength]).evaluate (.ofText 200 "sold out") =
        .invalid .requiredMarkers .incompleteness
          "Missing required content markers: [\"price\"]" := by
  have h : ofConfig { requiredMarkers := ["price"], checkJsRendering := true } = .ok _ :=
    ofConfig_eq_ok_iff.2 ⟨rfl, [], rfl, rfl⟩
  obtain ⟨_, hinvalid, _, hremoved⟩ := evaluate_withoutAll h
    [.contentLength, .contentType, .contentLength] (.ofText 200 "sold out")
  have hverdict := (hinvalid .requiredMarkers .incompleteness
    "Missing required content markers: [\"price\"]").1 (by decide +kernel)
  refine ⟨_, h, hverdict.1, ?_⟩
  rw [hremoved _ (by simp [or_comm])]
  exact (hinvalid _ _ _).2 hverdict

end Detector

end SoftFail
