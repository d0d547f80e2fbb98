import SoftFail.Check.Record
import SoftFail.Proofs.Detector.FirstFailure
import SoftFail.Proofs.Snapshot.Replay
import SoftFail.Proofs.Verdict.Replay

/-! What checks and detectors give is sound: a check that fails has a reason, one that passes has
none, and a verdict names the category of the check that failed. What is read from text need not
be, since outcomes and verdicts of every kind are read as they are written. -/

namespace SoftFail

open Decode

namespace Outcome

structure Sound (o : Outcome) : Prop where
  reason_iff : o.reason.isSome = true ↔ o.passed = false
  failure?_iff : o.failure? = none ↔ o.passed = true

theorem Consistent.sound {o : Outcome} (h : o.Consistent) : o.Sound where
  reason_iff := by rw [h, Bool.not_eq_true']
  failure?_iff := h.failure?_eq_none_iff

theorem failure?_eq_none_iff (o : Outcome) :
    o.failure? = none ↔ o.passed = true ∨ o.reason = none := by
  unfold failure?
  cases o.passed <;> simp

theorem sound_iff (o : Outcome) : o.Sound ↔ o = pass ∨ ∃ reason, o = fail reason := by
  constructor
  · intro h
    obtain ⟨passed, reason⟩ := o
    have hreason := h.reason_iff
    cases passed with
    | true =>
      have hnone : reason = none := by simpa using hreason
      exact .inl (by rw [hnone, pass])
    | false =>
      obtain ⟨r, rfl⟩ := Option.isSome_iff_exists.1 (hreason.2 rfl)
      exact .inr ⟨r, rfl⟩
  · rintro (rfl | ⟨r, rfl⟩)
    · exact Consistent.sound rfl
    · exact Consistent.sound rfl

theorem plain_toValue (o : Outcome) : o.toValue.Plain 1 := by
  refine .record (List.forall_mem_cons.2 ⟨.boolean 0 _, ?_⟩)
  cases o.reason with
  | none => exact fun _ h => absurd h List.not_mem_nil
  | some r => exact List.forall_mem_singleton.2 (.text 0 r)

theorem takes_read (o : Outcome) : Takes read o.toValue.kinds [] o := by
  obtain ⟨passed, reason⟩ := o
  have hpassed : Takes (readField ([], .pass) "passed") (.colon :: (Value.boolean passed).kinds) []
      (["passed"], ⟨passed, none⟩) :=
    .look (.once rfl _) ((Takes.member (.boolean passed)).giving _)
  cases reason with
  | none =>
    rw [toValue, Value.kinds_record]
    refine .record ((Takes.fields (.cons hpassed (.nil _))).last ?_) _ _
    exact .look (.require rfl _) (.pure _ _)
  | some r =>
    have hreason : Takes (readField (["passed"], ⟨passed, none⟩) "reason")
        (.colon :: (Value.text r).kinds) [] (["reason", "passed"], ⟨passed, some r⟩) :=
      .look (.once rfl _) ((Takes.member (.ofOption (.ofText r) (by simp))).giving _)
    rw [toValue, Value.kinds_record]
    refine .record ((Takes.fields (.cons hpassed (.cons hreason (.nil _)))).last ?_) _ _
    exact .look (.require rfl _) (.pure _ _)

theorem read_print (o : Outcome) : Json.read read (Json.print o.toValue) = .ok o :=
  Json.read_print o.plain_toValue o.takes_read

end Outcome

theorem Check.sound_run (c : Check) (s : Subject) : (c.run s).Sound := (c.consistent_run s).sound

namespace Verdict

def Sound (v : Verdict) : Prop := v.category? = v.check?.map Check.category

theorem sound_iff (v : Verdict) :
    v.Sound ↔ v = .valid ∨ ∃ check reason, v = .invalid check check.category reason := by
  cases v with
  | valid => simp [Sound, category?, check?]
  | invalid check category reason => simp [Sound, category?, check?]

theorem read_print (v : Verdict) : ofJson (Json.print v.toValue) = .ok v :=
  Json.read_print v.plain_toValue v.takes_read

end Verdict

namespace Detector

theorem sound_judge (d : Detector) (s : Snapshot) (cs : List Check) : (d.judge s cs).Sound := by
  induction cs with
  | nil => exact rfl
  | cons c cs ih =>
    rw [judge]
    cases (d.run c s).failure? with
    | some reason => exact rfl
    | none => exact ih

theorem sound_evaluate (d : Detector) (s : Snapshot) : (d.evaluate s).Sound :=
  d.sound_judge s d.plan

end Detector

/-- All that checks and detectors give is sound. What is read from text may be any outcome and any
verdict: it is sound only where it could have been given, and a failure without a reason counts as
none. -/
theorem sound_made_and_read_any (o : Outcome) (v : Verdict) :
    (∀ (c : Check) (s : Subject), (c.run s).Sound) ∧
      (∀ (d : Detector) (s : Snapshot), (d.evaluate s).Sound) ∧
      (Json.read Outcome.read (Json.print o.toValue) = .ok o ∧
        (o.Sound ↔ o = .pass ∨ ∃ reason, o = .fail reason) ∧
        (o.failure? = none ↔ o.passed = true ∨ o.reason = none)) ∧
      Verdict.ofJson (Json.print v.toValue) = .ok v ∧
        (v.Sound ↔ v = .valid ∨ ∃ c reason, v = .invalid c c.category reason) := by
  refine ⟨Check.sound_run, Detector.sound_evaluate, ?_, v.read_print, v.sound_iff⟩
  exact ⟨o.read_print, o.sound_iff, o.failure?_eq_none_iff⟩

/-- A failure without a reason, a pass with one, and a failed transport that is one of decoding. -/
theorem read_unsound :
    (∃ o, Json.read Outcome.read "\x7b\"passed\":false\x7d" = .ok o ∧
      o.passed = false ∧ o.reason = none ∧ o.failure? = none) ∧
    (∃ o, Json.read Outcome.read "\x7b\"passed\":true,\"reason\":\"x\"\x7d" = .ok o ∧
      o.passed = true ∧ o.reason = some "x") ∧
    ∃ v, Verdict.ofJson ("\x7b\"status\":\"invalid\",\"check\":\"status\"," ++
        "\"category\":\"decode\",\"reason\":\"x\"\x7d") = .ok v ∧
      v.check?.map Check.category = some .transport ∧ v.category? = some .decode := by
  have hfailed : Json.print (Outcome.toValue ⟨false, none⟩) = "\x7b\"passed\":false\x7d" := by
    decide +kernel
  have hpassed : Json.print (Outcome.toValue ⟨true, some "x"⟩) =
      "\x7b\"passed\":true,\"reason\":\"x\"\x7d" := by decide +kernel
  have hstatus : Json.print (Verdict.toValue (.invalid .status .decode "x")) =
      "\x7b\"status\":\"invalid\",\"check\":\"status\"," ++
        "\"category\":\"decode\",\"reason\":\"x\"\x7d" := by decide +kernel
  rw [← hfailed, ← hpassed, ← hstatus]
  exact ⟨⟨_, Outcome.read_print _, rfl, rfl, rfl⟩, ⟨_, Outcome.read_print _, rfl, rfl⟩,
    _, Verdict.read_print _, rfl, rfl⟩

end SoftFail
