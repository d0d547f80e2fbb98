import SoftFail.Config.Overrides
import SoftFail.Proofs.Decimal.Digits

/-! What the variables of the environment do to a configuration: each one that is set to a text that
can be read sets its own option, and nothing else happens. -/

namespace SoftFail.Config

variable {α : Type} {read? : String → Option α}

/-- What a variable makes of the old value of its option, by the texts that stand for values: the
value of its text, and without such a text the old value. -/
def Overridden (reads : String → α → Prop) (text? : Option String) (old new : α) : Prop :=
  ∀ a, new = a ↔ (∃ s ∈ text?, reads s a) ∨ (∀ s ∈ text?, ∀ b, ¬ reads s b) ∧ a = old

theorem overridden_override {reads : String → α → Prop} (h : ∀ s a, read? s = some a ↔ reads s a)
    (text? : Option String) (old : α) :
    Overridden reads text? old (override read? old text?) := by
  intro a
  cases text? with
  | none => simp [override, eq_comm]
  | some s =>
    simp only [override, Option.mem_some_iff, exists_eq_left', forall_eq', ← h]
    cases read? s <;> simp [eq_comm]

theorem override_override_self (old : α) (text? : Option String) :
    override read? (override read? old text?) text? = override read? old text? := by
  cases text? with
  | none => rfl
  | some s =>
    simp only [override]
    cases read? s <;> rfl

theorem override_comm {text? text?' : Option String} (h : text? = none ∨ text?' = none) (old : α) :
    override read? (override read? old text?) text?' =
      override read? (override read? old text?') text? := by
  rcases h with rfl | rfl <;> rfl

/-! The texts that stand for values of the options. -/

def IsLength (s : String) (n : ℕ) : Prop := Decimal.IsNatural s n ∧ n < 2 ^ 64

def IsUpperLength (s : String) (max : Option ℕ) : Prop := ∃ n, IsLength s n ∧ max = some n

def IsFlag (s : String) (b : Bool) : Prop := s = "true" ∧ b = true ∨ s = "false" ∧ b = false

def IsContentType (s : String) (type? : Option String) : Prop :=
  s = "" ∧ type? = none ∨ s ≠ "" ∧ type? = some s

theorem length?_eq_some_iff (s : String) (n : ℕ) : length? s = some n ↔ IsLength s n :=
  Decimal.below?_eq_some_iff

example : length? "+0018446744073709551615" = some (2 ^ 64 - 1) ∧
    length? "18446744073709551616" = none := by decide +kernel

theorem upperLength_eq_some_iff (s : String) (max : Option ℕ) :
    (length? s).map some = some max ↔ IsUpperLength s max := by
  simp only [Option.map_eq_some_iff, length?_eq_some_iff, IsUpperLength, @eq_comm _ max]

theorem flag?_eq_some_iff (s : String) (b : Bool) : flag? s = some b ↔ IsFlag s b := by
  unfold flag? IsFlag
  split_ifs with htrue hfalse
  · simp [htrue, eq_comm]
  · simp [hfalse, eq_comm]
  · simp [htrue, hfalse]

theorem contentTypeOf_eq_some_iff (s : String) (type? : Option String) :
    some (contentTypeOf s) = some type? ↔ IsContentType s type? := by
  unfold contentTypeOf IsContentType
  split_ifs with hempty <;> simp [hempty, eq_comm]

/-- Each of five options is overridden by the text of its own variable, whatever the others are set
to, and all other options stay as they were. Variables that are looked up once more change nothing,
and of two sets of variables without a common one it does not matter which is looked up first. -/
theorem withOverrides_overridden (c : Config) (lookup : String → Option String) :
    let d := c.withOverrides lookup
    Overridden IsLength (lookup "FETCHGUARD_MIN_CONTENT_LENGTH")
      c.minContentLength d.minContentLength ∧
    Overridden IsUpperLength (lookup "FETCHGUARD_MAX_CONTENT_LENGTH")
      c.maxContentLength d.maxContentLength ∧
    Overridden IsContentType (lookup "FETCHGUARD_EXPECTED_CONTENT_TYPE")
      c.expectedContentType d.expectedContentType ∧
    Overridden IsFlag (lookup "FETCHGUARD_CHECK_JS_RENDERING")
      c.checkJsRendering d.checkJsRendering ∧
    Overridden (Decimal.float? · = some ·) (lookup "FETCHGUARD_MIN_TEXT_RATIO")
      c.minTextRatio d.minTextRatio ∧
    d = { c with
      minContentLength := d.minContentLength
      maxContentLength := d.maxContentLength
      expectedContentType := d.expectedContentType
      checkJsRendering := d.checkJsRendering
      minTextRatio := d.minTextRatio } ∧
    d.withOverrides lookup = d ∧
    ∀ lookup', (∀ name, lookup name = none ∨ lookup' name = none) →
      d.withOverrides lookup' = (c.withOverrides lookup').withOverrides lookup := by
  intro d
  refine ⟨overridden_override length?_eq_some_iff _ _,
    overridden_override upperLength_eq_some_iff _ _,
    overridden_override contentTypeOf_eq_some_iff _ _,
    overridden_override flag?_eq_some_iff _ _,
    overridden_override (fun _ _ => Iff.rfl) _ _, rfl, ?_, fun lookup' h => ?_⟩
  · simp only [d, withOverrides, override_override_self]
  · simp only [d, withOverrides, override_comm (h _)]

end SoftFail.Config
