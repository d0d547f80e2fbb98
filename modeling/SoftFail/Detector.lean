import SoftFail.Check.Outcome
import SoftFail.Verdict.Basic

/-! Detectors: a configuration that was found valid, its patterns, and the checks to run. -/

namespace SoftFail

structure Detector where
  config : Config
  patterns : List Pattern
  plan : List Check

namespace Detector

def ofConfig (config : Config) : Except DetectorError Detector := do
  match config.validate with
  | .error e => throw (.invalidConfig e)
  | .ok () => pure ()
  let patterns ← Pattern.compileAll config.expectedPatterns
  return ⟨config, patterns, Check.all.filter (Check.isEnabled config)⟩

def without (d : Detector) (c : Check) : Detector := { d with plan := d.plan.filter (· ≠ c) }

def withoutAll (d : Detector) (cs : List Check) : Detector := cs.foldl without d

def subject (d : Detector) (s : Snapshot) : Subject := ⟨s, d.config, d.patterns⟩

def run (d : Detector) (c : Check) (s : Snapshot) : Outcome := c.run (d.subject s)

def judge (d : Detector) (s : Snapshot) : List Check → Verdict
  | [] => .valid
  | c :: cs =>
    match (d.run c s).failure? with
    | some reason => .invalid c c.category reason
    | none => judge d s cs

def evaluate (d : Detector) (s : Snapshot) : Verdict := d.judge s d.plan

end Detector

def evaluate (s : Snapshot) (config : Config) : Except DetectorError Verdict :=
  (Detector.ofConfig config).map fun d => d.evaluate s

end SoftFail
