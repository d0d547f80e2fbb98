import SoftFail.Config.Overrides
import SoftFail.Proofs.Config.Writing

/-! What printing records of the configuration in force, which comes from a file and from
variables. -/

namespace SoftFail.Config

def LengthsFit (c : Config) : Prop :=
  c.minContentLength < bound63 ∧ ∀ n, c.maxContentLength = some n → n < bound63

/-- The printed form of `c` is read as `d` where no variable is set. -/
def ReadBack (c d : Config) : Prop :=
  ∃ out, c.toToml = .ok out ∧ (ofToml out).map (·.withOverrides fun _ => none) = .ok d

theorem withOverrides_unset (c : Config) : c.withOverrides (fun _ => none) = c := rfl

theorem readBack_of_fits {c : Config} (h : c.Fits)
    (hratio : Decimal.float? (Decimal.pointed.text c.minTextRatio) = some c.minTextRatio) :
    c.ReadBack { c with expectedContentType := some (c.expectedContentType.getD "text/html") } := by
  obtain ⟨out, hout, hreload⟩ := ofToml_toToml h hratio
  refine ⟨out, hout, ?_⟩
  rw [hreload]
  exact congrArg Except.ok (withOverrides_unset _)

theorem fits_withOverrides {c : Config} (h : c.Fits) (lookup : String → Option String) :
    (c.withOverrides lookup).Fits ↔ (c.withOverrides lookup).LengthsFit :=
  ⟨fun h' => ⟨h'.minContentLength, h'.maxContentLength⟩,
    fun h' => ⟨h'.1, h'.2, h.minItemCount, h.minCount⟩⟩

deriving instance DecidableEq for Config

theorem ofToml_eq_ok {text : String} {c : Config} (h : (ofToml text).toOption = some c) :
    ofToml text = .ok c := by
  cases hread : ofToml text with
  | error e =>
    rw [hread] at h
    cases h
  | ok d =>
    rw [hread] at h
    cases h
    rfl

def single (name value : String) : String → Option String := fun n =>
  if n = name then some value else none

/-- The configuration in force can be printed exactly when its lengths fit. What is printed is read
back with the same options; for the expected content type this is said only where there is one. -/
theorem record_withOverrides {text : String} {c₀ : Config} (hread : ofToml text = .ok c₀)
    (lookup : String → Option String)
    (hratio : Decimal.float? (Decimal.pointed.text (c₀.withOverrides lookup).minTextRatio) =
      some (c₀.withOverrides lookup).minTextRatio) :
    let c := c₀.withOverrides lookup
    (c.LengthsFit → ∃ d, c.ReadBack d ∧
      d = { c with expectedContentType := d.expectedContentType } ∧
      (c.expectedContentType ≠ none → d = c)) ∧
    (¬ c.LengthsFit → c.toToml = .error .unwritable) := by
  intro c
  -- All other numbers come from the file, which had room for them.
  have hfits := fits_withOverrides (fits_of_ofToml hread) lookup
  refine ⟨fun hlengths => ?_, fun hlengths => toToml_eq_error fun h => hlengths (hfits.1 h)⟩
  refine ⟨_, readBack_of_fits (hfits.2 hlengths) hratio, rfl, fun hset => ?_⟩
  obtain ⟨s, hs⟩ := Option.ne_none_iff_exists'.1 hset
  rw [hs, Option.getD_some, ← hs]

/-- A file with an upper bound from a variable. -/
theorem record_withOverrides_listing :
    let text := "min_item_count = 3\nmin_text_ratio = 0.1\n" ++
      "[[expected_patterns]]\nname = \"price\"\npattern = '[0-9]+'\nmin_count = 2\n"
    let c : Config := {
      maxContentLength := some 9000
      minItemCount := some 3
      minTextRatio := 0.1
      expectedPatterns := [⟨"price", "[0-9]+", 2⟩] }
    (ofToml text).map (·.withOverrides (single "FETCHGUARD_MAX_CONTENT_LENGTH" "9000")) = .ok c ∧
      Decimal.float? (Decimal.pointed.text c.minTextRatio) = some c.minTextRatio ∧
      c.ReadBack c := by
  intro text c
  have hread : ofToml text = .ok { c with maxContentLength := none } :=
    ofToml_eq_ok (by decide +kernel)
  have hc : withOverrides { c with maxContentLength := none }
      (single "FETCHGUARD_MAX_CONTENT_LENGTH" "9000") = c := by decide +kernel
  have hratio : Decimal.float? (Decimal.pointed.text c.minTextRatio) = some c.minTextRatio := by
    decide +kernel
  have hlengths : c.LengthsFit := by
    refine ⟨by decide, ?_⟩
    rintro _ ⟨⟩
    decide
  have hrecord := record_withOverrides hread (single "FETCHGUARD_MAX_CONTENT_LENGTH" "9000")
    (by rw [hc]; exact hratio)
  rw [hc] at hrecord
  obtain ⟨d, hback, -, hsame⟩ := hrecord.1 hlengths
  rw [hsame (by simp [c])] at hback
  exact ⟨by rw [hread]; exact congrArg _ hc, hratio, hback⟩

/-- A length that no file can hold, and a content type that is turned off, are lost. -/
theorem not_readBack_withOverrides :
    ofToml "" = .ok {} ∧
    (∃ c, withOverrides {} (single "FETCHGUARD_MIN_CONTENT_LENGTH" "9223372036854775808") = c ∧
      c.validate = .ok () ∧
      Decimal.float? (Decimal.pointed.text c.minTextRatio) = some c.minTextRatio ∧
      c.toToml = .error .unwritable) ∧
    (∃ c, withOverrides {} (single "FETCHGUARD_EXPECTED_CONTENT_TYPE" "") = c ∧
      c.validate = .ok () ∧
      Decimal.float? (Decimal.pointed.text c.minTextRatio) = some c.minTextRatio ∧
      ∃ d, c.ReadBack d ∧ d ≠ c) := by
  have hratio : Decimal.float? (Decimal.pointed.text 0.05) = some 0.05 := by decide +kernel
  have hlarge : withOverrides {} (single "FETCHGUARD_MIN_CONTENT_LENGTH" "9223372036854775808") =
      { minContentLength := bound63 } := by decide +kernel
  have hnone : withOverrides {} (single "FETCHGUARD_EXPECTED_CONTENT_TYPE" "") =
      { expectedContentType := none } := by decide +kernel
  have hfits : Fits { expectedContentType := none } :=
    ⟨fits_default.minContentLength, fits_default.maxContentLength, fits_default.minItemCount,
      fits_default.minCount⟩
  refine ⟨ofToml_eq_ok (by decide +kernel), ⟨_, hlarge, rfl, hratio, ?_⟩, _, hnone, rfl, hratio, ?_⟩
  · exact toToml_eq_error fun h => Nat.lt_irrefl _ h.minContentLength
  · exact ⟨_, readBack_of_fits hfits hratio, by simp⟩

end SoftFail.Config
