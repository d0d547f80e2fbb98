import SoftFail.Text.Blank
import SoftFail.Unicode.CaseFold

/-! What the search for case variants finds: the group that the table has for a character, or the
character alone. -/

namespace SoftFail.Unicode

variable {table : Array (Nat × List Nat)} {n x low high i j : Nat} {group : List Nat}

def Sorted (table : Array (Nat × List Nat)) : Prop :=
  table.toList.Pairwise fun a b => a.1 ≤ b.1

theorem Sorted.lt_of_lt {a b : Nat × List Nat} (h : Sorted table) (ha : table[i]? = some a)
    (hb : table[j]? = some b) (hab : a.1 < b.1) : i < j := by
  rw [← Array.getElem?_toList] at ha hb
  obtain ⟨hi, rfl⟩ := List.getElem?_eq_some_iff.1 ha
  obtain ⟨hj, rfl⟩ := List.getElem?_eq_some_iff.1 hb
  refine Nat.lt_of_not_le fun hji => ?_
  rcases Nat.lt_or_eq_of_le hji with hji | rfl
  · exact absurd (List.pairwise_iff_getElem.1 h j i hj hi hji) (Nat.not_le_of_lt hab)
  · exact absurd hab (Nat.lt_irrefl _)

theorem mem_of_caseSearch (h : caseSearch table n low high = some group) : (n, group) ∈ table := by
  fun_induction caseSearch table n low high with
  | case1 | case5 => cases h
  | case2 _ _ _ _ _ _ _ _ ih | case3 _ _ _ _ _ _ _ _ _ ih => exact ih h
  | case4 low high _ mid c g hmid hbelow habove =>
    cases h
    obtain rfl : c = n := by omega
    exact Array.mem_of_getElem? hmid

theorem isSome_caseSearch (hsorted : Sorted table) (hlow : low ≤ i) (hhigh : i < high)
    (hsize : high ≤ table.size) (hgroup : table[i]? = some (n, group)) :
    (caseSearch table n low high).isSome := by
  fun_induction caseSearch table n low high with
  | case1 low high _ mid hmid =>
    have := Array.getElem?_eq_none_iff.1 hmid
    omega
  | case2 low high _ mid c g hmid hbelow ih =>
    exact ih hlow (hsorted.lt_of_lt hgroup hmid hbelow) (by omega)
  | case3 low high _ mid c g hmid _ habove ih =>
    exact ih (hsorted.lt_of_lt hmid hgroup habove) hhigh hsize
  | case4 => rfl
  | case5 => omega

theorem mem_caseTable {e : Nat × List Nat} : e ∈ caseTable ↔ e ∈ caseEntries := by
  rw [caseTable, List.mem_toArray, List.mem_mergeSort]

theorem sorted_caseTable : Sorted caseTable := by
  have h := @List.pairwise_mergeSort _ (fun a b : Nat × List Nat => a.1 ≤ b.1)
    (fun a b c => by simp; omega) (fun a b => by simp; omega) caseEntries
  exact h.imp fun h => of_decide_eq_true h

/-- The variants of a character are a group that the table has for it, if there is one. -/
theorem mem_caseEntries_or_eq (n : Nat) :
    (n, caseVariants n) ∈ caseEntries ∨ caseVariants n = [n] ∧ ∀ e ∈ caseEntries, e.1 ≠ n := by
  unfold caseVariants
  cases h : caseSearch caseTable n 0 caseTable.size with
  | some group => exact .inl (mem_caseTable.1 (mem_of_caseSearch h))
  | none =>
    refine .inr ⟨rfl, fun ⟨m, group⟩ he hn => ?_⟩
    obtain rfl : m = n := hn
    obtain ⟨i, hi⟩ := Array.getElem?_of_mem (mem_caseTable.2 he)
    have hsome := isSome_caseSearch sorted_caseTable (Nat.zero_le i)
      (Array.getElem?_eq_some_iff.1 hi).1 (Nat.le_refl _) hi
    rw [h] at hsome
    cases hsome

theorem caseVariants_of_filter (h : caseEntries.filter (·.1 = n) = [(n, group)]) :
    caseVariants n = group := by
  have hiff (e : Nat × List Nat) : e = (n, group) ↔ e ∈ caseEntries ∧ e.1 = n := by
    rw [← List.mem_singleton, ← h, List.mem_filter, decide_eq_true_iff]
  rcases mem_caseEntries_or_eq n with hmem | ⟨-, hnone⟩
  · exact (Prod.mk.inj ((hiff _).2 ⟨hmem, rfl⟩)).2
  · exact absurd rfl (hnone _ ((hiff _).1 rfl).1)

theorem caseVariants_of_filter_nil (h : caseEntries.filter (·.1 = n) = []) :
    caseVariants n = [n] := by
  rcases mem_caseEntries_or_eq n with hmem | ⟨heq, -⟩
  · exact absurd (decide_eq_true rfl) (List.filter_eq_nil_iff.1 h _ hmem)
  · exact heq

example : caseVariants 0x4B = [0x4B, 0x6B, 0x212A] := caseVariants_of_filter (by decide +kernel)

theorem mem_caseEntries_of_mem {e : Nat × List Nat} (he : e ∈ caseEntries) (hx : x ∈ e.2) :
    (x, e.2) ∈ caseEntries := by
  rw [caseEntries, List.mem_append, List.mem_flatMap, List.mem_flatMap] at he ⊢
  refine he.imp ?_ ?_
  · rintro ⟨p, hp, he⟩
    obtain ⟨i, hi, he⟩ := List.mem_flatMap.1 he
    refine ⟨p, hp, List.mem_flatMap.2 ⟨i, hi, ?_⟩⟩
    simp only [List.mem_cons, List.not_mem_nil, or_false] at he ⊢
    rcases he with rfl | rfl <;> simpa using hx
  · rintro ⟨g, hg, he⟩
    obtain ⟨c, -, rfl⟩ := List.mem_map.1 he
    exact ⟨g, hg, List.mem_map.2 ⟨x, hx, rfl⟩⟩

def Cased (n : Nat) : Prop := ∃ e ∈ caseEntries, e.1 = n

theorem caseVariants_of_not_cased (h : ¬Cased n) : caseVariants n = [n] :=
  (mem_caseEntries_or_eq n).elim (fun hmem => absurd ⟨_, hmem, rfl⟩ h) And.left

theorem cased_of_mem (hx : x ∈ caseVariants n) (h : Cased n) : Cased x := by
  rcases mem_caseEntries_or_eq n with hmem | ⟨-, hnone⟩
  · exact ⟨_, mem_caseEntries_of_mem hmem hx, rfl⟩
  · obtain ⟨e, he, hn⟩ := h
    exact absurd hn (hnone e he)

theorem not_isBlank_of_cased (h : Cased n) : Text.isBlank (Char.ofNat n) = false := by
  obtain ⟨e, he, rfl⟩ := h
  revert e
  decide +kernel

theorem letter_of_cased (h : Cased n) : 0x41 ≤ n ∧ n ≤ 0x5A ∨ 0x61 ≤ n ∧ n ≤ 0x7A ∨ 0x80 ≤ n := by
  obtain ⟨e, he, rfl⟩ := h
  revert e
  decide +kernel

def smallLetters : List Nat := "abcdefghijlmnopqrtuvwxyzks".toList.map Char.toNat

/-- A small letter and its variants: besides the capital, the Kelvin sign and the long s. -/
def letterVariants (n : Nat) : List Nat :=
  (n - 0x20) :: n :: if n = 0x6B then [0x212A] else if n = 0x73 then [0x17F] else []

theorem caseEntries_filter_small : caseEntries.filter (fun e => 0x61 ≤ e.1 && e.1 ≤ 0x7A) =
    smallLetters.map fun n => (n, letterVariants n) := by
  decide +kernel

theorem caseVariants_small (hlow : 0x61 ≤ n) (hhigh : n ≤ 0x7A) :
    caseVariants n = letterVariants n := by
  have hmem : (n, letterVariants n) ∈ caseEntries := by
    have hsmall : ∀ k < 26, 0x61 + k ∈ smallLetters := by decide +kernel
    refine (List.mem_filter (p := fun e => 0x61 ≤ e.1 && e.1 ≤ 0x7A)).1 ?_ |>.1
    rw [caseEntries_filter_small]
    have := hsmall (n - 0x61) (by omega)
    rw [Nat.add_sub_cancel' hlow] at this
    exact List.mem_map_of_mem this
  rcases mem_caseEntries_or_eq n with h | ⟨-, h⟩
  · have h : (n, caseVariants n) ∈ caseEntries.filter (fun e => 0x61 ≤ e.1 && e.1 ≤ 0x7A) := by
      simp [h, hlow, hhigh]
    rw [caseEntries_filter_small] at h
    obtain ⟨m, -, hm⟩ := List.mem_map.1 h
    obtain ⟨rfl, hm⟩ := Prod.mk.inj hm
    exact hm.symm
  · exact absurd rfl (h _ hmem)

end SoftFail.Unicode
