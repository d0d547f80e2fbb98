import Mathlib.Data.List.DropRight
import SoftFail.Proofs.Text.LetterCase

/-! Blanks at the ends of texts and between words. A text that has none at its ends is left alone by
trimming, and one with single spaces only by squeezing; what comes out of both is of that kind. -/

namespace SoftFail.Text

variable {s : List Char}

structure Trimmed (s : List Char) : Prop where
  begins : ∀ c ∈ s.head?, isBlank c = false
  ends : ∀ c ∈ s.getLast?, isBlank c = false

/-- No blank but single spaces, each between two other characters. -/
structure Tidy (s : List Char) : Prop extends Trimmed s where
  spaces : ∀ c ∈ s, isBlank c = true → c = ' '
  single : ¬[' ', ' '] <:+: s

/-! Trimming. -/

theorem trim_eq (s : List Char) : trim s = (s.dropWhile isBlank).rdropWhile isBlank := rfl

theorem exists_trim (s : List Char) :
    ∃ x z, s = x ++ trim s ++ z ∧ (∀ c ∈ x, isBlank c = true) ∧ ∀ c ∈ z, isBlank c = true := by
  refine ⟨s.takeWhile isBlank, (s.dropWhile isBlank).rtakeWhile isBlank, ?_, ?_, ?_⟩
  · rw [trim_eq, List.append_assoc, List.rdropWhile_append_rtakeWhile,
      List.takeWhile_append_dropWhile]
  · exact fun c hc => List.mem_takeWhile_imp hc
  · exact fun c hc => List.mem_rtakeWhile_imp hc

theorem infix_trim (s : List Char) : trim s <:+: s := by
  obtain ⟨x, z, hs, -, -⟩ := exists_trim s
  exact ⟨x, z, hs.symm⟩

theorem trimmed_trim (s : List Char) : Trimmed (trim s) where
  begins c hc := by
    obtain ⟨t, ht⟩ := List.head?_eq_some_iff.1 hc
    have hprefix : trim s <+: s.dropWhile isBlank := List.rdropWhile_prefix isBlank _
    have hhead := List.head?_dropWhile_not isBlank s
    rw [ht] at hprefix
    obtain ⟨z, hz⟩ := hprefix
    rw [← hz] at hhead
    exact hhead
  ends c hc := by
    obtain ⟨hne, rfl⟩ := List.mem_getLast?_eq_getLast hc
    exact eq_false_of_ne_true (List.rdropWhile_last_not isBlank _ hne)

theorem Trimmed.trim_eq_self (h : Trimmed s) : trim s = s := by
  have hdrop : s.dropWhile isBlank = s := by
    cases s with
    | nil => rfl
    | cons c s => rw [List.dropWhile_cons, h.begins c rfl, if_neg Bool.false_ne_true]
  rw [trim_eq, hdrop, List.rdropWhile_eq_self_iff]
  intro hne
  rw [h.ends _ (List.getLast?_eq_getLast_of_ne_nil hne)]
  exact Bool.false_ne_true

/-! Squeezing. -/

theorem head?_squeeze_of_not_isBlank {c : Char} (hc : isBlank c = false) (h : s.head? = some c) :
    (squeeze s).head? = some c := by
  obtain ⟨t, rfl⟩ := List.head?_eq_some_iff.1 h
  have hnot : ¬isBlank c = true := by rw [hc]; exact Bool.false_ne_true
  rw [squeeze_cons, if_neg hnot]
  rfl

theorem mem_squeeze {c : Char} (h : c ∈ squeeze s) : c = ' ' ∨ c ∈ s ∧ isBlank c = false := by
  induction s with
  | nil => cases h
  | cons a s ih =>
    have hrest (h : c ∈ squeeze s) : c = ' ' ∨ c ∈ a :: s ∧ isBlank c = false :=
      (ih h).imp_right (And.imp_left (List.mem_cons_of_mem a))
    rw [squeeze_cons] at h
    split_ifs at h with ha hhead
    · exact hrest h
    · exact (List.mem_cons.1 h).elim .inl hrest
    · rcases List.mem_cons.1 h with rfl | h
      · exact .inr ⟨List.mem_cons_self, eq_false_of_ne_true ha⟩
      · exact hrest h

theorem two_spaces_infix_cons_iff {c : Char} :
    [' ', ' '] <:+: c :: s ↔ (c = ' ' ∧ s.head? = some ' ') ∨ [' ', ' '] <:+: s := by
  have hfront : [' '] <+: s ↔ s.head? = some ' ' := by
    cases s with
    | nil => simp
    | cons d s =>
      rw [List.cons_prefix_cons, List.head?_cons, Option.some.injEq, and_iff_left List.nil_prefix]
      exact eq_comm
  rw [List.infix_cons_iff, List.cons_prefix_cons, hfront, @eq_comm _ ' ' c]

theorem not_two_spaces_squeeze (s : List Char) : ¬[' ', ' '] <:+: squeeze s := by
  induction s with
  | nil => simp [squeeze]
  | cons c s ih =>
    rw [squeeze_cons]
    split_ifs with hc hhead
    · exact ih
    · rw [two_spaces_infix_cons_iff]
      exact not_or.2 ⟨fun hspaces => hhead hspaces.2, ih⟩
    · rw [two_spaces_infix_cons_iff]
      refine not_or.2 ⟨fun hspaces => hc ?_, ih⟩
      rw [hspaces.1, isBlank_space]

theorem squeeze_eq_self (hspaces : ∀ c ∈ s, isBlank c = true → c = ' ')
    (hsingle : ¬[' ', ' '] <:+: s) : squeeze s = s := by
  induction s with
  | nil => rfl
  | cons c s ih =>
    obtain ⟨hc, hspaces⟩ := List.forall_mem_cons.1 hspaces
    obtain ⟨hpair, hsingle⟩ := not_or.1 (mt two_spaces_infix_cons_iff.2 hsingle)
    rw [squeeze_cons, ih hspaces hsingle]
    split_ifs with hblank hhead
    · exact absurd ⟨hc hblank, hhead⟩ hpair
    · rw [hc hblank]
    · rfl

theorem tidy_trim_squeeze (s : List Char) : Tidy (trim (squeeze s)) := by
  have hwithin := infix_trim (squeeze s)
  refine ⟨trimmed_trim _, fun c hc hblank => ?_, fun hspaces => ?_⟩
  · rcases mem_squeeze (hwithin.subset hc) with hspace | ⟨-, hvisible⟩
    · exact hspace
    · rw [hblank] at hvisible
      cases hvisible
  · exact not_two_spaces_squeeze s (hspaces.trans hwithin)

theorem Tidy.trim_squeeze (h : Tidy s) : trim (squeeze s) = s := by
  rw [squeeze_eq_self h.spaces h.single, h.trim_eq_self]

end SoftFail.Text
