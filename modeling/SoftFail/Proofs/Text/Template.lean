import SoftFail.Proofs.Text.LetterCase
import SoftFail.Proofs.Text.Word

/-! Templates in larger texts. A template that is found in a text is found in every text around it,
unless it ends in a run of characters, which could go on behind the seam. -/

namespace SoftFail.Text

variable {s r : List Char} {steps : List Step}

theorem past?_eq_some_iff {c : Char} :
    past? c s = some r ↔ ∃ u, s = u ++ c :: r ∧ ∀ a ∈ u, decide (a ≠ c) = true := by
  unfold past?
  constructor
  · intro h
    split at h
    · cases h
    next d rest hdrop =>
      cases h
      obtain ⟨hs, hu, hd⟩ := takeWhile_dropWhile_iff.1 ⟨rfl, hdrop⟩
      obtain rfl : d = c := by simpa using hd d rfl
      exact ⟨_, hs, hu⟩
  · rintro ⟨u, rfl, hu⟩
    rw [(takeWhile_dropWhile_iff.2 ⟨rfl, hu, by simp⟩).2]

theorem past?_cons (c a : Char) (s : List Char) :
    past? c (a :: s) = if a = c then some s else past? c s := by
  unfold past?
  by_cases h : a = c <;> simp [h]

theorem past?_append_of_not_mem {a : Char} {x : List Char} (hx : a ∉ x) (y : List Char) :
    past? a (x ++ y) = past? a y := by
  induction x with
  | nil => rfl
  | cons b x ih =>
    obtain ⟨hb, hx⟩ := not_or.1 (mt List.mem_cons.2 hx)
    rw [List.cons_append, past?_cons, if_neg (Ne.symm hb), ih hx]

theorem past?_append_cons {c : Char} {x : List Char} (hx : c ∉ x) (y : List Char) :
    past? c (x ++ c :: y) = some y := by
  rw [past?_append_of_not_mem hx, past?_cons, if_pos rfl]

theorem exists_past? (c : Char) (x y : List Char) :
    ∃ z, past? c (x ++ c :: y) = some z ∧ y <:+ z := by
  induction x with
  | nil => exact ⟨y, past?_append_cons List.not_mem_nil y, List.suffix_refl y⟩
  | cons a x ih =>
    rw [List.cons_append, past?_cons]
    by_cases ha : a = c
    · rw [if_pos ha]
      exact ⟨_, rfl, (List.suffix_cons c y).trans (List.suffix_append x _)⟩
    · rw [if_neg ha]
      exact ih

theorem past?_eq_none_iff {c : Char} : past? c s = none ↔ c ∉ s := by
  rw [Option.eq_none_iff_forall_ne_some]
  constructor
  · intro h hmem
    obtain ⟨x, y, rfl⟩ := List.append_of_mem hmem
    obtain ⟨z, hz, -⟩ := exists_past? c x y
    exact h z hz
  · intro h r hr
    obtain ⟨u, rfl, -⟩ := past?_eq_some_iff.1 hr
    exact h (by simp)

def Step.IsRun : Step → Prop
  | .blanks | .gap | .digits => True
  | .literal _ | .word _ | .through _ | .valueWith _ => False

instance : (step : Step) → Decidable step.IsRun
  | .blanks | .gap | .digits => inferInstanceAs (Decidable True)
  | .literal _ | .word _ | .through _ | .valueWith _ => inferInstanceAs (Decidable False)

theorem dropWhile_append_of_ne_nil {p : Char → Bool} (h : s.dropWhile p = r) (hr : r ≠ [])
    (y : List Char) : (s ++ y).dropWhile p = r ++ y := by
  rw [List.dropWhile_append, h, if_neg]
  rwa [List.isEmpty_iff]

theorem dropRun_append {p : Char → Bool}
    (h : (if s.head?.any p then some (s.dropWhile p) else none) = some r) (hr : r ≠ [])
    (y : List Char) :
    (if (s ++ y).head?.any p then some ((s ++ y).dropWhile p) else none) = some (r ++ y) := by
  obtain ⟨hhead, hdrop⟩ := Option.ite_none_right_eq_some.1 h
  have hdrop := dropWhile_append_of_ne_nil (Option.some.inj hdrop) hr y
  cases s with
  | nil => cases hhead
  | cons c s => exact Option.ite_none_right_eq_some.2 ⟨hhead, congrArg some hdrop⟩

/-- What follows the text is left over by a step, unless the step is a run to the very end. -/
theorem Step.rest?_append {step : Step} (h : step.rest? s = some r) (hr : step.IsRun → r ≠ [])
    (y : List Char) : step.rest? (s ++ y) = some (r ++ y) := by
  cases step with
  | literal text =>
    obtain rfl := dropPrefix?_eq_some_iff.1 h
    exact dropPrefix?_eq_some_iff.2 (List.append_assoc text r y)
  | word text =>
    obtain ⟨hword, rfl⟩ := dropWord?_eq_some_iff.1 h
    have hlength : text.length ≤ s.length := length_fold s ▸ hword.length_le
    refine dropWord?_eq_some_iff.2 ⟨?_, List.drop_append_of_le_length hlength⟩
    rw [fold_append]
    exact hword.trans (List.prefix_append _ _)
  | through stop =>
    obtain ⟨u, rfl, hu⟩ := past?_eq_some_iff.1 h
    exact past?_eq_some_iff.2 ⟨u, by simp, hu⟩
  | valueWith text =>
    obtain ⟨hvalue, hpast⟩ := Option.ite_none_right_eq_some.1 h
    obtain ⟨u, rfl, hu⟩ := past?_eq_some_iff.1 hpast
    have hstops (z : List Char) : (u ++ '"' :: z).takeWhile (· ≠ '"') = u :=
      (takeWhile_dropWhile_iff.2 ⟨rfl, hu, by simp⟩).1
    rw [hstops] at hvalue
    rw [List.append_assoc, List.cons_append, rest?, hstops, if_pos hvalue]
    exact past?_eq_some_iff.2 ⟨u, rfl, hu⟩
  | blanks =>
    have hdrop : s.dropWhile isBlank = r := Option.some.inj h
    exact congrArg some (dropWhile_append_of_ne_nil hdrop (hr trivial) y)
  | gap => exact dropRun_append h (hr trivial) y
  | digits => exact dropRun_append h (hr trivial) y

/-- Behind every run there is still a step that needs a character. -/
def Closed : List Step → Prop
  | [] => True
  | step :: steps => (step.IsRun → stepsRest? steps [] = none) ∧ Closed steps

instance decidableClosed : (steps : List Step) → Decidable (Closed steps)
  | [] => inferInstanceAs (Decidable True)
  | step :: steps =>
    have := decidableClosed steps
    inferInstanceAs (Decidable ((step.IsRun → stepsRest? steps [] = none) ∧ Closed steps))

theorem stepsRest?_append (hsteps : Closed steps) (h : stepsRest? steps s = some r)
    (y : List Char) : stepsRest? steps (s ++ y) = some (r ++ y) := by
  induction steps generalizing s with
  | nil =>
    obtain rfl : s = r := Option.some.inj h
    rfl
  | cons step steps ih =>
    obtain ⟨hrun, hsteps⟩ := hsteps
    obtain ⟨t, ht, hr⟩ := Option.bind_eq_some_iff.1 h
    have hne : step.IsRun → t ≠ [] := by
      rintro hstep rfl
      rw [hrun hstep] at hr
      cases hr
    exact Option.bind_eq_some_iff.2 ⟨t ++ y, Step.rest?_append ht hne y, ih hsteps hr⟩

namespace Template

variable {t : Template}

theorem rest?_append (ht : Closed t.steps) (h : t.rest? s = some r) (y : List Char) :
    t.rest? (s ++ y) = some (r ++ y) := by
  cases s with
  | nil => cases h
  | cons c s =>
    obtain ⟨hfirst, hsteps⟩ := Option.ite_none_right_eq_some.1 h
    exact Option.ite_none_right_eq_some.2 ⟨hfirst, stepsRest?_append ht hsteps y⟩

theorem said_look_ne_stop (t : Template) (s : List Char) : (t.look s).said ≠ some none := by
  rw [said_look]
  simp

theorem isSome_first?_iff :
    (t.first? s).isSome = true ↔ ∃ x z, s = x ++ z ∧ (t.rest? z).isSome = true := by
  rw [isSome_first?_eq]
  constructor
  · intro h
    obtain ⟨⟨before, content, rest⟩, hf⟩ := Option.isSome_iff_exists.1 h
    obtain ⟨z, hs, hz, -⟩ := firstFind_eq_some hf
    rw [said_look, Option.map_eq_some_iff] at hz
    obtain ⟨r, hr, -⟩ := hz
    exact ⟨before, z, hs, Option.isSome_iff_exists.2 ⟨r, hr⟩⟩
  · rintro ⟨x, z, hs, hz⟩
    rw [Option.isSome_iff_ne_none]
    intro hnone
    have hne : z ≠ [] := by
      rintro rfl
      cases hz
    have hpass := said_of_firstFind_eq_none t.said_look_ne_stop hnone x z hs hne
    rw [said_look, Option.map_eq_none_iff] at hpass
    rw [hpass] at hz
    cases hz

theorem isSome_first?_surrounded (ht : Closed t.steps) (h : (t.first? s).isSome = true)
    (x y : List Char) : (t.first? (x ++ s ++ y)).isSome = true := by
  obtain ⟨before, z, rfl, hz⟩ := isSome_first?_iff.1 h
  obtain ⟨r, hr⟩ := Option.isSome_iff_exists.1 hz
  refine isSome_first?_iff.2 ⟨x ++ before, z ++ y, by simp only [List.append_assoc], ?_⟩
  rw [rest?_append ht hr y]
  rfl

end Template

end SoftFail.Text
