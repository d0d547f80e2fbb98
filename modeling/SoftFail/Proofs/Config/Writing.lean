import SoftFail.Proofs.Config.Reload
import SoftFail.Proofs.Toml.Writable

/-! A configuration is written exactly when its numbers fit. What is written is read back. -/

namespace SoftFail.Config

theorem writable_rows_iff (c : Config) :
    Toml.Writable ("expected_patterns", .list (c.rows.map .record)) ↔
      ∀ p ∈ c.expectedPatterns, p.minCount < bound63 := by
  have hpattern (p : ExpectedPattern) :
      (∀ f ∈ p.fields, (Toml.valueText f.2).isSome = true) ↔ p.minCount < bound63 := by
    simp [ExpectedPattern.fields, Toml.valueText, Toml.isSome_valueText_natural]
  rw [Toml.writable_rows, rows, List.forall_mem_map]
  simp only [hpattern]

/-- Only numbers can be too large to be written: texts, flags and the ratio never are. -/
theorem writable_toFields_iff (c : Config) :
    (∀ f ∈ c.toFields (.number (.float c.minTextRatio)), Toml.Writable f) ↔ c.Fits := by
  rw [toFields_eq_append, fits_iff, List.forall_mem_append, List.forall_mem_singleton,
    writable_rows_iff]
  simp only [settings, List.forall_mem_map, List.forall_mem_append, List.forall_mem_cons]
  simp [and_assoc]

theorem exists_toToml_eq_ok {c : Config} (h : c.Fits) : ∃ text, c.toToml = .ok text := by
  rw [← writable_toFields_iff, ← Toml.isSome_print] at h
  obtain ⟨text, htext⟩ := Option.isSome_iff_exists.1 h
  exact ⟨text, toToml_of_print htext⟩

theorem toToml_eq_error {c : Config} (h : ¬ c.Fits) : c.toToml = .error .unwritable := by
  rw [← writable_toFields_iff, ← Toml.isSome_print, Option.not_isSome_iff_eq_none] at h
  exact toToml_of_print h

theorem fits_of_toToml {c : Config} {text : String} (h : c.toToml = .ok text) : c.Fits := by
  refine Classical.byContradiction fun hlarge => ?_
  rw [toToml_eq_error hlarge] at h
  cases h

/-- A configuration cannot be written exactly when one of its numbers is too large. Of what is
written all options are read back; a content type that is not set is then the default one. -/
theorem toToml_error_iff_and_ofToml (c : Config) :
    ((∃ e, c.toToml = .error e) ↔
      bound63 ≤ c.minContentLength ∨ (∃ n, c.maxContentLength = some n ∧ bound63 ≤ n) ∨
        (∃ n, c.minItemCount = some n ∧ bound63 ≤ n) ∨
        ∃ p ∈ c.expectedPatterns, bound63 ≤ p.minCount) ∧
    ∀ text, c.toToml = .ok text →
      Decimal.float? (Decimal.pointed.text c.minTextRatio) = some c.minTextRatio →
        ofToml text =
          .ok { c with expectedContentType := some (c.expectedContentType.getD "text/html") } ∧
        (c.expectedContentType ≠ none → ofToml text = .ok c) := by
  constructor
  · rw [← not_fits_iff]
    constructor
    · rintro ⟨e, he⟩ hfits
      obtain ⟨text, htext⟩ := exists_toToml_eq_ok hfits
      rw [htext] at he
      cases he
    · exact fun hlarge => ⟨_, toToml_eq_error hlarge⟩
  · intro text htext hratio
    obtain ⟨text', htext', hread⟩ := ofToml_toToml (fits_of_toToml htext) hratio
    obtain rfl : text' = text := by
      rw [htext] at htext'
      cases htext'
      rfl
    refine ⟨hread, fun hset => ?_⟩
    obtain ⟨s, hs⟩ := Option.ne_none_iff_exists'.1 hset
    rw [hread, hs, Option.getD_some, ← hs]

/-- Quotation marks, backslashes, line ends and control characters in all places for text. -/
theorem toToml_error_iff_and_ofToml_quoted :
    let c : Config := {
      maxContentLength := some 9223372036854775807
      expectedContentType := some "text/\"html\"\r\n"
      requiredMarkers := ["it's", "\"\"\"'''\\", "\x00\t\x7f", "line\nline\n", "", "é🙂"]
      minItemCount := some 3
      minTextRatio := 0.1
      expectedPatterns := [⟨"price\n", "\\d+ '\"'", 2⟩, ⟨"", "", 0⟩] }
    ∃ text, c.toToml = .ok text ∧
      Decimal.float? (Decimal.pointed.text c.minTextRatio) = some c.minTextRatio ∧
      c.expectedContentType ≠ none ∧ ofToml text = .ok c := by
  intro c
  have hfits : c.Fits := by
    rw [fits_iff]
    decide
  have hratio : Decimal.float? (Decimal.pointed.text c.minTextRatio) = some c.minTextRatio := by
    decide +kernel
  obtain ⟨text, htext⟩ := exists_toToml_eq_ok hfits
  obtain ⟨-, hread⟩ := toToml_error_iff_and_ofToml c
  have hset : c.expectedContentType ≠ none := by simp [c]
  exact ⟨text, htext, hratio, hset, (hread text htext hratio).2 hset⟩

end SoftFail.Config
