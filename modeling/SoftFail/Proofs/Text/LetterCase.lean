import Mathlib.Tactic.SplitIfs
import SoftFail.Proofs.Text.Scan
import SoftFail.Text.Lower
import SoftFail.Text.Template

/-! Letter case and the reading of texts. Lowering a text first and taking it apart afterwards
gives the lowered parts, for everything that matches words in any letter case. -/

namespace SoftFail.Text

/-! Characters. -/

def capitals : List Char :=
  ['A', 'B', 'C', 'D', 'E', 'F', 'G', 'H', 'I', 'J', 'K', 'L', 'M', 'N', 'O', 'P', 'Q', 'R', 'S',
    'T', 'U', 'V', 'W', 'X', 'Y', 'Z']

theorem toLower_eq_self {c : Char} (h : c ∉ capitals) : c.toLower = c := by
  unfold Char.toLower
  split
  · rename_i hc
    -- `Char.toLower` tests a range of numbers, which is listed here by offset.
    refine absurd ?_ h
    have hlow : 65 ≤ c.toNat := UInt32.le_iff_toNat_le.1 hc.1
    have hhigh : c.toNat ≤ 90 := UInt32.le_iff_toNat_le.1 hc.2
    have hall : ∀ n < 26, Char.ofNat (65 + n) ∈ capitals := by decide
    have hc := hall (c.toNat - 65) (by omega)
    rwa [Nat.add_sub_cancel' hlow, Char.ofNat_toNat] at hc
  · rfl

/-- What is the same for both letters of every pair does not depend on letter case. -/
theorem congr_toLower {α : Type} [DecidableEq α] (f : Char → α)
    (h : capitals.all (fun c => f c.toLower = f c) = true) (c : Char) : f c.toLower = f c := by
  by_cases hc : c ∈ capitals
  · exact of_decide_eq_true (List.all_eq_true.1 h c hc)
  · rw [toLower_eq_self hc]

theorem foldLetter_toLower (c : Char) : foldLetter c.toLower = foldLetter c :=
  congr_toLower foldLetter (by decide) c

theorem isBlank_toLower (c : Char) : isBlank c.toLower = isBlank c :=
  congr_toLower isBlank (by decide) c

theorem isDigit_toLower (c : Char) : c.toLower.isDigit = c.isDigit :=
  congr_toLower Char.isDigit (by decide) c

theorem isUnicodeDigit_toLower (c : Char) : Unicode.isDigit c.toLower = Unicode.isDigit c :=
  congr_toLower Unicode.isDigit (by decide) c

theorem utf8Size_toLower (c : Char) : c.toLower.utf8Size = c.utf8Size :=
  congr_toLower Char.utf8Size (by decide) c

def isCaseless (x : Char) : Bool := capitals.all fun c => c ≠ x ∧ c.toLower ≠ x

theorem toLower_eq_iff {x : Char} (hx : isCaseless x = true) (c : Char) :
    c.toLower = x ↔ c = x := by
  by_cases hc : c ∈ capitals
  · obtain ⟨hupper, hlower⟩ := of_decide_eq_true (List.all_eq_true.1 hx c hc)
    exact iff_of_false hlower hupper
  · rw [toLower_eq_self hc]

/-! Lists of characters. -/

@[simp] theorem lower_nil : lower [] = [] := rfl

@[simp] theorem lower_cons (c : Char) (s : List Char) : lower (c :: s) = c.toLower :: lower s := rfl

theorem lower_append (s t : List Char) : lower (s ++ t) = lower s ++ lower t := List.map_append

theorem lower_eq_iff {w : List Char} (hw : w.all isCaseless = true) (s : List Char) :
    lower s = w ↔ s = w := by
  induction s generalizing w with
  | nil => rfl
  | cons c s ih =>
    cases w with
    | nil => simp
    | cons a w =>
      rw [List.all_cons, Bool.and_eq_true] at hw
      obtain ⟨ha, hw⟩ := hw
      rw [lower_cons, List.cons.injEq, List.cons.injEq, toLower_eq_iff ha, ih hw]

theorem lower_reverse (s : List Char) : lower s.reverse = (lower s).reverse := List.map_reverse

theorem takeWhile_lower {p : Char → Bool} (hp : ∀ c, p c.toLower = p c) (s : List Char) :
    (lower s).takeWhile p = lower (s.takeWhile p) := by
  rw [lower, List.takeWhile_map, lower]
  congr 2
  exact funext hp

theorem dropWhile_lower {p : Char → Bool} (hp : ∀ c, p c.toLower = p c) (s : List Char) :
    (lower s).dropWhile p = lower (s.dropWhile p) := by
  rw [lower, List.dropWhile_map, lower]
  congr 2
  exact funext hp

theorem any_head?_lower {p : Char → Bool} (hp : ∀ c, p c.toLower = p c) (s : List Char) :
    (lower s).head?.any p = s.head?.any p := by
  cases s <;> simp [hp]

theorem trim_lower (s : List Char) : trim (lower s) = lower (trim s) := by
  simp only [trim, dropWhile_lower isBlank_toLower, ← lower_reverse]

theorem head?_lower_eq_iff {x : Char} (hx : isCaseless x = true) (s : List Char) :
    (lower s).head? = some x ↔ s.head? = some x := by
  cases s <;> simp [toLower_eq_iff hx]

theorem squeeze_cons (c : Char) (s : List Char) :
    squeeze (c :: s) =
      if isBlank c then
        if (squeeze s).head? = some ' ' then squeeze s else ' ' :: squeeze s
      else c :: squeeze s := by
  have hrest : List.foldr _ [] s = squeeze s := rfl
  rw [squeeze, List.foldr_cons, hrest]
  split
  · split
    · rename_i hout
      rw [hout]
      rfl
    · rename_i hout
      rw [if_neg]
      intro hhead
      obtain ⟨t, ht⟩ := List.head?_eq_some_iff.1 hhead
      exact hout t ht
  · rfl

theorem squeeze_lower (s : List Char) : squeeze (lower s) = lower (squeeze s) := by
  induction s with
  | nil => rfl
  | cons c s ih =>
    rw [lower_cons, squeeze_cons, squeeze_cons, isBlank_toLower, ih]
    simp only [head?_lower_eq_iff (x := ' ') (by decide)]
    split_ifs <;> rfl

/-! Strings. -/

theorem lower_toList_congr {s t : String} (h : lowerCase s = lowerCase t) :
    lower s.toList = lower t.toList := by
  have hlists := congrArg String.toList h
  rwa [lowerCase, lowerCase, String.toList_ofList, String.toList_ofList] at hlists

theorem utf8ByteSize_ofList_lower (s : List Char) :
    (String.ofList (lower s)).utf8ByteSize = (String.ofList s).utf8ByteSize := by
  induction s with
  | nil => rfl
  | cons c s ih =>
    rw [lower_cons, String.ofList_cons, String.ofList_cons, String.utf8ByteSize_append,
      String.utf8ByteSize_append, String.utf8ByteSize_singleton, String.utf8ByteSize_singleton,
      utf8Size_toLower, ih]

theorem utf8ByteSize_congr {s t : String} (h : lowerCase s = lowerCase t) :
    s.utf8ByteSize = t.utf8ByteSize := by
  have hs := utf8ByteSize_ofList_lower s.toList
  have ht := utf8ByteSize_ofList_lower t.toList
  rw [String.ofList_toList] at hs ht
  rw [← hs, ← ht, lower_toList_congr h]

/-! Words, and what stands around them. -/

theorem dropWord?_lower (w s : List Char) : dropWord? w (lower s) = (dropWord? w s).map lower := by
  induction w generalizing s with
  | nil => rfl
  | cons a w ih =>
    cases s with
    | nil => rfl
    | cons b s =>
      rw [lower_cons, dropWord?, dropWord?, foldLetter_toLower, ih]
      split <;> rfl

theorem cutWord?_go_lower (w before s : List Char) :
    cutWord?.go w (lower before) (lower s) =
      (cutWord?.go w before s).map (Prod.map lower lower) := by
  induction s generalizing before with
  | nil =>
    rw [cutWord?.go.eq_def, cutWord?.go.eq_def w before, dropWord?_lower]
    cases dropWord? w [] <;> simp [lower_reverse]
  | cons c s ih =>
    rw [cutWord?.go.eq_def, cutWord?.go.eq_def w before, dropWord?_lower]
    cases dropWord? w (c :: s) with
    | none => exact ih (c :: before)
    | some r => simp [lower_reverse]

theorem cutWord?_lower (w s : List Char) :
    cutWord? w (lower s) = (cutWord? w s).map (Prod.map lower lower) :=
  cutWord?_go_lower w [] s

theorem past?_lower {x : Char} (hx : isCaseless x = true) (s : List Char) :
    past? x (lower s) = (past? x s).map lower := by
  rw [past?, dropWhile_lower fun c => by simp [toLower_eq_iff hx], past?]
  cases s.dropWhile (· ≠ x) <;> rfl

/-! Steps and templates. -/

def Step.IgnoresCase : Step → Prop
  | .literal _ => False
  | .through stop => isCaseless stop = true
  | .word _ | .valueWith _ | .blanks | .gap | .digits => True

instance : (step : Step) → Decidable step.IgnoresCase
  | .literal _ => inferInstanceAs (Decidable False)
  | .through stop => inferInstanceAs (Decidable (isCaseless stop = true))
  | .word _ | .valueWith _ | .blanks | .gap | .digits => inferInstanceAs (Decidable True)

theorem Step.rest?_lower {step : Step} (h : step.IgnoresCase) (s : List Char) :
    step.rest? (lower s) = (step.rest? s).map lower := by
  cases step with
  | literal text => exact h.elim
  | word text => exact dropWord?_lower text s
  | through stop => exact past?_lower h s
  | valueWith text =>
    have hquote : isCaseless '"' = true := by decide
    rw [rest?, rest?, past?_lower hquote,
      takeWhile_lower fun c => by simp [toLower_eq_iff hquote], cutWord?_lower]
    simp only [Option.isSome_map]
    split <;> rfl
  | blanks => rw [rest?, rest?, dropWhile_lower isBlank_toLower, Option.map_some]
  | gap =>
    rw [rest?, rest?, any_head?_lower isBlank_toLower, dropWhile_lower isBlank_toLower]
    split <;> rfl
  | digits =>
    rw [rest?, rest?, any_head?_lower isUnicodeDigit_toLower,
      dropWhile_lower isUnicodeDigit_toLower]
    split <;> rfl

theorem stepsRest?_lower {steps : List Step} (h : ∀ step ∈ steps, step.IgnoresCase)
    (s : List Char) : stepsRest? steps (lower s) = (stepsRest? steps s).map lower := by
  induction steps generalizing s with
  | nil => rfl
  | cons step steps ih =>
    obtain ⟨hstep, hsteps⟩ := List.forall_mem_cons.1 h
    rw [stepsRest?, stepsRest?, Step.rest?_lower hstep]
    cases step.rest? s with
    | none => rfl
    | some r => exact ih hsteps r

theorem Template.rest?_lower {t : Template} (h : ∀ step ∈ t.steps, step.IgnoresCase)
    (s : List Char) : t.rest? (lower s) = (t.rest? s).map lower := by
  cases s with
  | nil => rfl
  | cons c s =>
    rw [lower_cons, rest?, rest?, foldLetter_toLower, stepsRest?_lower h]
    split <;> rfl

/-! Scans. -/

/-- A look says of the lowered text what it says of the text. -/
def IgnoresCase {α : Type} (look : (s : List Char) → Look s α) (f : α → α) : Prop :=
  ∀ s, (look (lower s)).said = (look s).said.map (Option.map (Prod.map f lower))

section Scan

variable {α : Type} {look : (s : List Char) → Look s α} {f : α → α}

theorem firstFind_lower (h : IgnoresCase look f) (s : List Char) :
    firstFind look (lower s) =
      (firstFind look s).map fun p => (lower p.1, f p.2.1, lower p.2.2) := by
  induction s with
  | nil => rfl
  | cons c s ih =>
    -- Both looks say the same at this place, and the induction covers the places behind it.
    have hc := h (c :: s)
    rw [lower_cons] at hc
    rw [lower_cons, firstFind_cons, firstFind_cons, hc]
    match (look (c :: s)).said with
    | none =>
      simp only [Option.map_none, ih]
      cases firstFind look s <;> rfl
    | some none => rfl
    | some (some p) => rfl

theorem findAll_lower (h : IgnoresCase look f) (s : List Char) :
    findAll look (lower s) =
      ((findAll look s).1.map fun p => (lower p.1, f p.2), lower (findAll look s).2) := by
  induction s using induction_on_finds look with
  | step s ih =>
    rw [findAll_eq (lower s), findAll_eq s, firstFind_lower h]
    cases hf : firstFind look s with
    | none => rfl
    | some p =>
      obtain ⟨before, content, rest⟩ := p
      simp [ih before content rest hf]

theorem contents_lower (h : IgnoresCase look f) (s : List Char) :
    contents look (lower s) = (contents look s).map f := by
  simp [contents, findAll_lower h]

theorem replace_lower (h : IgnoresCase look f) {fill : List Char} (hfill : lower fill = fill)
    (s : List Char) : replace look fill (lower s) = lower (replace look fill s) := by
  simp only [replace, findAll_lower h, lower_append]
  congr 1
  induction (findAll look s).1 with
  | nil => rfl
  | cons p ps ih => simp [ih, lower_append, hfill]

end Scan

namespace Template

variable {t : Template}

theorem said_look (t : Template) (s : List Char) :
    (t.look s).said = (t.rest? s).map fun r => some ((), r) := by
  unfold look
  split
  · simp_all [Look.said]
  · simp_all [Look.said]

theorem look_ignoresCase (h : ∀ step ∈ t.steps, step.IgnoresCase) : IgnoresCase t.look id := by
  intro s
  rw [said_look, said_look, rest?_lower h]
  cases t.rest? s <;> rfl

theorem isSome_first?_eq (t : Template) (s : List Char) :
    (t.first? s).isSome = (firstFind t.look s).isSome := by
  rw [first?, Option.isSome_map, ← parts_find?, Option.isSome_map]

theorem isSome_first?_lower (h : ∀ step ∈ t.steps, step.IgnoresCase) (s : List Char) :
    (t.first? (lower s)).isSome = (t.first? s).isSome := by
  rw [isSome_first?_eq, isSome_first?_eq, firstFind_lower (look_ignoresCase h), Option.isSome_map]

theorem count_lower (h : ∀ step ∈ t.steps, step.IgnoresCase) (s : List Char) :
    t.count (lower s) = t.count s := by
  rw [count, count, contents_lower (look_ignoresCase h), List.length_map]

end Template

end SoftFail.Text
