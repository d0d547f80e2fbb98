import SoftFail.Proofs.Text.Substring
import SoftFail.Text.Letter

/-! Words in any letter case: they are found where exact words are found in the folded text. -/

namespace SoftFail.Text

def fold (s : List Char) : List Char := s.map foldLetter

theorem length_fold (s : List Char) : (fold s).length = s.length := List.length_map foldLetter

theorem fold_append (s t : List Char) : fold (s ++ t) = fold s ++ fold t := List.map_append

theorem fold_take_append_drop (s : List Char) (i : Nat) :
    fold (s.take i) ++ (fold s).drop i = fold s := by
  rw [fold, fold, List.map_take, List.take_append_drop]

theorem dropWord?_eq_some_iff {w s r : List Char} :
    dropWord? w s = some r ↔ w <+: fold s ∧ s.drop w.length = r := by
  induction w generalizing s with
  | nil => simp [dropWord?]
  | cons a w ih =>
    cases s with
    | nil => simp [dropWord?, fold]
    | cons b s =>
      rw [dropWord?, fold, List.map_cons, List.cons_prefix_cons, List.length_cons,
        List.drop_succ_cons, and_assoc, ← fold, ← ih]
      by_cases hb : foldLetter b = a
      · simp [hb]
      · simp [hb, Ne.symm hb]

theorem dropWord?_eq_none_iff {w s : List Char} : dropWord? w s = none ↔ ¬w <+: fold s := by
  rw [Option.eq_none_iff_forall_ne_some]
  constructor
  · exact fun h hw => h _ (dropWord?_eq_some_iff.2 ⟨hw, rfl⟩)
  · exact fun h r hr => h (dropWord?_eq_some_iff.1 hr).1

theorem dropWord?_append {w m : List Char} (h : fold m = w) (r : List Char) :
    dropWord? w (m ++ r) = some r := by
  subst h
  rw [dropWord?_eq_some_iff, fold_append, length_fold]
  exact ⟨List.prefix_append _ _, List.drop_left⟩

theorem cutWord?_go_eq (w before s : List Char) :
    cutWord?.go w before s =
      (index? w (fold s)).map fun i => (before.reverse ++ s.take i, s.drop (i + w.length)) := by
  induction s generalizing before with
  | nil =>
    rw [cutWord?.go.eq_def]
    cases w <;> simp [dropWord?, fold, index?, indexFrom]
  | cons c s ih =>
    have hfold : fold (c :: s) = foldLetter c :: fold s := rfl
    rw [cutWord?.go.eq_def, hfold, index?_cons, ← hfold]
    by_cases hw : w <+: fold (c :: s)
    · rw [dropWord?_eq_some_iff.2 ⟨hw, rfl⟩, if_pos hw]
      simp
    · rw [dropWord?_eq_none_iff.2 hw, if_neg hw]
      simp only [ih, List.reverse_cons, Option.map_map, Function.comp_def, List.append_assoc,
        List.cons_append, List.nil_append, List.take_succ_cons, Nat.add_right_comm _ 1,
        List.drop_succ_cons]

theorem cutWord?_eq (w s : List Char) :
    cutWord? w s = (index? w (fold s)).map fun i => (s.take i, s.drop (i + w.length)) := by
  rw [cutWord?, cutWord?_go_eq]
  rfl

/-- What stands in front of the leftmost occurrence of a word stands in front of the leftmost one in
every text that goes on with the word in the same place. -/
theorem cutWord?_append {w s x r m : List Char} (h : cutWord? w s = some (x, r))
    (hm : fold m = w) (t : List Char) : cutWord? w (x ++ (m ++ t)) = some (x, t) := by
  rw [cutWord?_eq, Option.map_eq_some_iff] at h
  obtain ⟨i, hi, hparts⟩ := h
  obtain ⟨rfl, -⟩ := Prod.mk.inj hparts
  obtain ⟨hle, ⟨rest, hat⟩, -⟩ := index?_eq_some_iff.1 hi
  have hlength : (s.take i).length = i := List.length_take_of_le (length_fold s ▸ hle)
  have hfit : i + w.length ≤ (fold (s.take i) ++ w).length := by
    rw [List.length_append, length_fold, hlength]
  have hsplit : fold s = fold (s.take i) ++ w ++ rest := by
    rw [List.append_assoc, hat, fold_take_append_drop]
  rw [hsplit, index?_append_iff hfit, ← index?_append_iff hfit (fold t)] at hi
  subst hm
  rw [cutWord?_eq, ← List.append_assoc, fold_append, fold_append, hi, Option.map_some,
    List.append_assoc, List.take_left' hlength, ← List.append_assoc, List.drop_left']
  rw [List.length_append, hlength, length_fold]

theorem isSome_cutWord?_iff_fold {w s : List Char} :
    (cutWord? w s).isSome = true ↔ w <:+: fold s := by
  rw [cutWord?_eq, Option.isSome_map]
  exact contains_iff

/-! What is dropped and cut, as parts of the text. -/

section Parts

variable {c : Char} {w s x r : List Char}

theorem dropWord?_eq_some_iff_fold : dropWord? w s = some r ↔ ∃ m, s = m ++ r ∧ fold m = w := by
  constructor
  · intro h
    obtain ⟨hw, rfl⟩ := dropWord?_eq_some_iff.1 h
    refine ⟨s.take w.length, (List.take_append_drop _ _).symm, ?_⟩
    rw [fold, List.map_take, ← fold, ← List.prefix_iff_eq_take.1 hw]
  · rintro ⟨m, rfl, hm⟩
    exact dropWord?_append hm r

/-- A character that no letter of the word is folded onto ends the search for it. -/
theorem dropWord?_append_cons (hw : foldLetter c ∉ w) (x y : List Char) :
    dropWord? w (x ++ c :: y) = (dropWord? w x).map (· ++ c :: y) := by
  induction w generalizing x with
  | nil => rfl
  | cons a w ih =>
    obtain ⟨ha, hw⟩ := not_or.1 (mt List.mem_cons.2 hw)
    cases x with
    | nil => simp [dropWord?, ha]
    | cons b x =>
      rw [List.cons_append, dropWord?, dropWord?, ih hw]
      split <;> rfl

theorem cutWord?_eq_some_iff (hw : c ∉ w) :
    cutWord? (c :: w) s = some (x, r) ↔
      ∃ m, s = x ++ m ++ r ∧ fold m = c :: w ∧ ¬c :: w <:+: fold x := by
  rw [cutWord?_eq, Option.map_eq_some_iff]
  constructor
  · rintro ⟨i, hi, hparts⟩
    obtain ⟨rfl, rfl⟩ := Prod.mk.inj hparts
    obtain ⟨u, v, hs, rfl, hu⟩ := (index?_eq_some_iff_exists hw).1 hi
    obtain ⟨x, z, rfl, rfl, hz⟩ := List.map_eq_append_iff.1 hs
    obtain ⟨m, r, rfl, hm, -⟩ := List.map_eq_append_iff.1 (hz.trans List.cons_append.symm)
    refine ⟨m, ?_, hm, ?_⟩
    · rw [← hm, List.length_map, List.length_map, ← List.length_append, List.take_left,
        ← List.append_assoc, List.drop_left]
    · rw [List.length_map, List.take_left]
      exact hu
  · rintro ⟨m, rfl, hm, hx⟩
    refine ⟨x.length, (index?_eq_some_iff_exists hw).2 ⟨fold x, fold r, ?_, length_fold x, hx⟩, ?_⟩
    · rw [fold_append, fold_append, hm, List.append_assoc, List.cons_append]
    · rw [← hm, length_fold, List.append_assoc, List.take_left, ← List.append_assoc,
        ← List.length_append, List.drop_left]

end Parts

theorem append_of_cutWord? {w s x r : List Char} (h : cutWord? w s = some (x, r)) :
    ∃ m, s = x ++ (m ++ r) := by
  rw [cutWord?_eq, Option.map_eq_some_iff] at h
  obtain ⟨i, -, hparts⟩ := h
  obtain ⟨rfl, rfl⟩ := Prod.mk.inj hparts
  refine ⟨(s.drop i).take w.length, ?_⟩
  rw [← List.drop_drop, List.take_append_drop, List.take_append_drop]

theorem cutWord?_nil (w : List Char) : cutWord? w [] = (dropWord? w []).map fun r => ([], r) := by
  cases w <;> rfl

theorem cutWord?_cons (w : List Char) (c : Char) (x : List Char) :
    cutWord? w (c :: x) = ((dropWord? w (c :: x)).map fun r => ([], r)).or
      ((cutWord? w x).map fun p => (c :: p.1, p.2)) := by
  rw [cutWord?_eq, cutWord?_eq, fold, List.map_cons, index?_cons, ← List.map_cons, ← fold]
  cases hw : dropWord? w (c :: x) with
  | none =>
    rw [if_neg (dropWord?_eq_none_iff.1 hw), Option.map_none, Option.none_or, Option.map_map,
      Option.map_map]
    congr 1
    funext i
    simp [Nat.add_right_comm]
  | some r =>
    obtain ⟨hfront, rfl⟩ := dropWord?_eq_some_iff.1 hw
    rw [if_pos hfront]
    simp

theorem isSome_cutWord?_nil (w : List Char) : (cutWord? w []).isSome = (dropWord? w []).isSome := by
  rw [cutWord?_nil, Option.isSome_map]

theorem isSome_cutWord?_cons (w : List Char) (c : Char) (x : List Char) :
    (cutWord? w (c :: x)).isSome = ((dropWord? w (c :: x)).isSome || (cutWord? w x).isSome) := by
  rw [cutWord?_cons, Option.isSome_or, Option.isSome_map, Option.isSome_map]

end SoftFail.Text
