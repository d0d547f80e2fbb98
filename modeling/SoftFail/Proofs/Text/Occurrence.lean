import Mathlib.Data.Finset.Max
import Mathlib.Order.Bounds.Defs
import SoftFail.Proofs.Text.Window

/-! How often a text occurs in another one. The scan from the left counts as many occurrences as can
be chosen without overlap. -/

namespace SoftFail.Text

variable {needle s : List Char} {places : Finset ℕ} {n : ℕ}

/-! The scan, from occurrence to occurrence. -/

theorem countFrom_eq (needle : List Char) (found skip : ℕ) (s : List Char) :
    countFrom needle found skip s = found + countFrom needle 0 0 (s.drop skip) := by
  induction s generalizing found skip with
  | nil => simp [countFrom]
  | cons c s ih =>
    cases skip with
    | succ k => rw [countFrom, ih, List.drop_succ_cons]
    | zero =>
      rw [List.drop_zero, countFrom, countFrom]
      split
      · rw [ih, ih (0 + 1)]
        omega
      · exact ih found 0

theorem count_eq (h : needle ≠ []) (s : List Char) : count needle s = countFrom needle 0 0 s := by
  cases needle with
  | nil => exact absurd rfl h
  | cons a needle => rfl

theorem count_at_front (h : needle ≠ []) (hs : needle <+: s) :
    count needle s = count needle (s.drop needle.length) + 1 := by
  cases s with
  | nil => exact absurd (List.prefix_nil.1 hs) h
  | cons c s =>
    obtain ⟨k, hk⟩ := Nat.exists_eq_succ_of_ne_zero (mt List.length_eq_zero_iff.1 h)
    rw [count_eq h, count_eq h, countFrom, if_pos (startsWith_iff.2 hs), countFrom_eq, hk,
      Nat.succ_eq_add_one, Nat.add_sub_cancel, List.drop_succ_cons, Nat.zero_add, Nat.add_comm]

theorem count_cons_of_absent {c : Char} (h : needle ≠ []) (hs : ¬needle <+: c :: s) :
    count needle (c :: s) = count needle s := by
  rw [count_eq h, count_eq h, countFrom, if_neg fun hstarts => hs (startsWith_iff.1 hstarts)]

/-- The scan goes on behind each occurrence that it meets, and else by one character. -/
theorem induction_on_occurrences (h : needle ≠ []) {P : List Char → Prop} (nil : P [])
    (found : ∀ s, needle <+: s → P (s.drop needle.length) → P s)
    (next : ∀ c s, ¬needle <+: c :: s → P s → P (c :: s)) (s : List Char) : P s := by
  induction hn : s.length using Nat.strongRecOn generalizing s with
  | ind n ih =>
    subst hn
    by_cases hs : needle <+: s
    · have hneedle : 0 < needle.length := List.length_pos_iff.2 h
      have hlength : needle.length ≤ s.length := hs.length_le
      refine found s hs (ih _ ?_ _ rfl)
      rw [List.length_drop]
      omega
    · cases s with
      | nil => exact nil
      | cons c s => exact next c s hs (ih s.length (Nat.lt_succ_self _) s rfl)

/-! Occurrences that do not overlap. -/

/-- Places at which the needle stands, each behind the end of the one before. -/
structure DisjointPlaces (needle s : List Char) (places : Finset ℕ) : Prop where
  stands : ∀ p ∈ places, needle <+: s.drop p
  apart : ∀ p ∈ places, ∀ q ∈ places, p < q → p + needle.length ≤ q

theorem DisjointPlaces.mono {rest : Finset ℕ} (h : DisjointPlaces needle s places)
    (hrest : rest ⊆ places) : DisjointPlaces needle s rest where
  stands p hp := h.stands p (hrest hp)
  apart p hp q hq := h.apart p (hrest hp) q (hrest hq)

theorem DisjointPlaces.exists_drop (h : DisjointPlaces needle s places) (hn : ∀ p ∈ places, n ≤ p) :
    ∃ rest, DisjointPlaces needle (s.drop n) rest ∧ rest.card = places.card := by
  refine ⟨places.image (· - n), ⟨?_, ?_⟩, Finset.card_image_of_injOn fun p hp q hq hpq => ?_⟩
  · simp only [Finset.forall_mem_image]
    intro p hp
    rw [List.drop_drop, Nat.add_sub_cancel' (hn p hp)]
    exact h.stands p hp
  · simp only [Finset.forall_mem_image]
    intro p hp q hq hlt
    have hapart := h.apart p hp q hq (by omega)
    have hle := hn p hp
    omega
  · have hp := hn p hp
    have hq := hn q hq
    omega

theorem DisjointPlaces.append (h : DisjointPlaces needle s places) (y : List Char) :
    DisjointPlaces needle (s ++ y) places where
  stands p hp := by
    rw [List.drop_append]
    exact (h.stands p hp).trans (List.prefix_append _ _)
  apart := h.apart

theorem DisjointPlaces.behind (h : DisjointPlaces needle s places) (x : List Char) :
    DisjointPlaces needle (x ++ s) (places.image (x.length + ·)) := by
  constructor
  · simp only [Finset.forall_mem_image]
    intro p hp
    rw [List.drop_length_add_append]
    exact h.stands p hp
  · simp only [Finset.forall_mem_image]
    intro p hp q hq hlt
    have hapart := h.apart p hp q hq (by omega)
    omega

theorem card_image_length_add (x : List Char) (places : Finset ℕ) :
    (places.image (x.length + ·)).card = places.card :=
  Finset.card_image_of_injective places fun _ _ => Nat.add_left_cancel

theorem DisjointPlaces.insert_zero (h : DisjointPlaces needle s places) (hs : needle <+: s)
    (hle : ∀ p ∈ places, needle.length ≤ p) : DisjointPlaces needle s (insert 0 places) := by
  constructor
  · exact Finset.forall_mem_insert _ _ _ |>.2 ⟨hs, h.stands⟩
  · intro p hp q hq hlt
    rcases Finset.mem_insert.1 hq with rfl | hq
    · exact absurd hlt (Nat.not_lt_zero p)
    · rcases Finset.mem_insert.1 hp with rfl | hp
      · rw [Nat.zero_add]
        exact hle q hq
      · exact h.apart p hp q hq hlt

/-- Any choice of disjoint occurrences can be exchanged for the one that the scan makes. -/
theorem DisjointPlaces.card_le_count (h : DisjointPlaces needle s places) (hneedle : needle ≠ []) :
    places.card ≤ count needle s := by
  induction s using induction_on_occurrences hneedle generalizing places with
  | nil =>
    have hempty : places = ∅ := Finset.eq_empty_of_forall_notMem fun p hp => by
      have hp := h.stands p hp
      rw [List.drop_nil] at hp
      exact hneedle (List.prefix_nil.1 hp)
    rw [hempty, Finset.card_empty]
    exact Nat.zero_le _
  | found s hs ih =>
    rw [count_at_front hneedle hs]
    rcases places.eq_empty_or_nonempty with rfl | hsome
    · exact Nat.zero_le _
    -- The first place gives way to the front of the text, which all others leave free.
    have hfirst := places.min'_mem hsome
    have hothers := h.mono (places.erase_subset (places.min' hsome))
    obtain ⟨rest, hrest, hcard⟩ := hothers.exists_drop (n := needle.length) fun p hp => by
      obtain ⟨hne, hp⟩ := Finset.mem_erase.1 hp
      have hlt := lt_of_le_of_ne (places.min'_le p hp) hne.symm
      exact (Nat.le_add_left _ _).trans (h.apart _ hfirst p hp hlt)
    have hle := ih hrest
    rw [hcard] at hle
    rw [← Finset.card_erase_add_one hfirst]
    exact Nat.succ_le_succ hle
  | next c s hs ih =>
    rw [count_cons_of_absent hneedle hs]
    obtain ⟨rest, hrest, hcard⟩ := h.exists_drop (n := 1) fun p hp => by
      refine Nat.pos_of_ne_zero fun hzero => hs ?_
      rw [hzero] at hp
      exact h.stands 0 hp
    exact hcard ▸ ih hrest

theorem exists_card_eq_count (hneedle : needle ≠ []) (s : List Char) :
    ∃ places, DisjointPlaces needle s places ∧ places.card = count needle s := by
  induction s using induction_on_occurrences hneedle with
  | nil => exact ⟨∅, ⟨by simp, by simp⟩, (count_eq hneedle []).symm⟩
  | found s hs ih =>
    obtain ⟨rest, hrest, hcard⟩ := ih
    have hbehind := hrest.behind needle
    rw [List.prefix_iff_eq_append.1 hs] at hbehind
    have hle : ∀ p ∈ rest.image (needle.length + ·), needle.length ≤ p := by
      simp only [Finset.forall_mem_image]
      exact fun p _ => Nat.le_add_right _ _
    refine ⟨_, hbehind.insert_zero hs hle, ?_⟩
    have hfront : 0 ∉ rest.image (needle.length + ·) := fun hzero =>
      hneedle (List.length_eq_zero_iff.1 (Nat.le_zero.1 (hle 0 hzero)))
    rw [Finset.card_insert_of_notMem hfront, card_image_length_add, hcard,
      count_at_front hneedle hs]
  | next c s hs ih =>
    obtain ⟨rest, hrest, hcard⟩ := ih
    refine ⟨_, hrest.behind [c], ?_⟩
    rw [card_image_length_add, hcard, count_cons_of_absent hneedle hs]

theorem isGreatest_count (hneedle : needle ≠ []) (s : List Char) :
    IsGreatest {n | ∃ places, DisjointPlaces needle s places ∧ places.card = n}
      (count needle s) := by
  refine ⟨exists_card_eq_count hneedle s, ?_⟩
  rintro _ ⟨places, hplaces, rfl⟩
  exact hplaces.card_le_count hneedle

theorem count_le_count_surrounded (hneedle : needle ≠ []) (x s y : List Char) :
    count needle s ≤ count needle (x ++ s ++ y) := by
  obtain ⟨places, hplaces, hcard⟩ := exists_card_eq_count hneedle s
  rw [← hcard, ← card_image_length_add x places]
  exact ((hplaces.behind x).append y).card_le_count hneedle

/-! Two texts put together. -/

theorem DisjointPlaces.add_length_le (h : DisjointPlaces needle s places) (hneedle : needle ≠ [])
    {p : ℕ} (hp : p ∈ places) : p + needle.length ≤ s.length := by
  have hfits := (h.stands p hp).length_le
  rw [List.length_drop] at hfits
  have hpos : 0 < needle.length := List.length_pos_iff.2 hneedle
  omega

section Joined

variable {x y : List Char}

theorem DisjointPlaces.joined {others : Finset ℕ} (h : DisjointPlaces needle x places)
    (h' : DisjointPlaces needle y others) (hneedle : needle ≠ []) :
    DisjointPlaces needle (x ++ y) (places ∪ others.image (x.length + ·)) := by
  have hx := h.append y
  have hy := h'.behind x
  constructor
  · intro p hp
    exact (Finset.mem_union.1 hp).elim (hx.stands p) (hy.stands p)
  · intro p hp q hq hlt
    rcases Finset.mem_union.1 hp with hp | hp <;> rcases Finset.mem_union.1 hq with hq | hq
    · exact hx.apart p hp q hq hlt
    · obtain ⟨q, -, rfl⟩ := Finset.mem_image.1 hq
      exact (h.add_length_le hneedle hp).trans (Nat.le_add_right _ _)
    · obtain ⟨p, -, rfl⟩ := Finset.mem_image.1 hp
      have hends := h.add_length_le hneedle hq
      omega
    · exact hy.apart p hp q hq hlt

theorem count_add_count_le (hneedle : needle ≠ []) (x y : List Char) :
    count needle x + count needle y ≤ count needle (x ++ y) := by
  obtain ⟨places, hplaces, hx⟩ := exists_card_eq_count hneedle x
  obtain ⟨others, hothers, hy⟩ := exists_card_eq_count hneedle y
  have hapart : Disjoint places (others.image (x.length + ·)) := by
    refine Finset.disjoint_left.2 fun p hp hbehind => ?_
    obtain ⟨q, -, rfl⟩ := Finset.mem_image.1 hbehind
    have hends := hplaces.add_length_le hneedle hp
    have hpos : 0 < needle.length := List.length_pos_iff.2 hneedle
    omega
  calc count needle x + count needle y
      = (places ∪ others.image (x.length + ·)).card := by
        rw [Finset.card_union_of_disjoint hapart, card_image_length_add, hx, hy]
    _ ≤ count needle (x ++ y) := (hplaces.joined hothers hneedle).card_le_count hneedle

/-! Places in two texts put together: in the first one, in the second one, or across the seam. -/

theorem DisjointPlaces.of_append (h : DisjointPlaces needle (x ++ y) places)
    (hends : ∀ p ∈ places, p + needle.length ≤ x.length) : DisjointPlaces needle x places where
  stands p hp := by
    have hle := hends p hp
    have hstands := h.stands p hp
    rw [List.drop_append_of_le_length (by omega)] at hstands
    refine List.prefix_of_prefix_length_le hstands (List.prefix_append _ _) ?_
    rw [List.length_drop]
    omega
  apart := h.apart

theorem DisjointPlaces.card_before_le (h : DisjointPlaces needle (x ++ y) places)
    (hneedle : needle ≠ []) :
    (places.filter (· + needle.length ≤ x.length)).card ≤ count needle x := by
  have hbefore := (h.mono (Finset.filter_subset _ _)).of_append fun p hp =>
    (Finset.mem_filter.1 hp).2
  exact hbefore.card_le_count hneedle

theorem DisjointPlaces.card_behind_le (h : DisjointPlaces needle (x ++ y) places)
    (hneedle : needle ≠ []) : (places.filter (x.length ≤ ·)).card ≤ count needle y := by
  obtain ⟨rest, hrest, hcard⟩ := (h.mono (Finset.filter_subset _ _)).exists_drop fun p hp =>
    (Finset.mem_filter.1 hp).2
  rw [List.drop_left] at hrest
  exact hcard ▸ hrest.card_le_count hneedle

/-- Two occurrences that both lie across the seam overlap. -/
theorem DisjointPlaces.card_across_le (h : DisjointPlaces needle (x ++ y) places) :
    (places.filter fun p => p < x.length ∧ x.length < p + needle.length).card ≤ 1 := by
  rw [Finset.card_le_one]
  intro p hp q hq
  obtain ⟨hp, hpx, hxp⟩ := Finset.mem_filter.1 hp
  obtain ⟨hq, hqx, hxq⟩ := Finset.mem_filter.1 hq
  by_contra hne
  rcases Nat.lt_or_gt_of_ne hne with hlt | hlt
  · have hapart := h.apart p hp q hq hlt
    omega
  · have hapart := h.apart q hq p hp hlt
    omega

theorem DisjointPlaces.card_le_of_append (h : DisjointPlaces needle (x ++ y) places)
    (hneedle : needle ≠ []) : places.card ≤ count needle x + count needle y + 1 := by
  have hcover : places ⊆ places.filter (· + needle.length ≤ x.length) ∪
      places.filter (x.length ≤ ·) ∪
      places.filter fun p => p < x.length ∧ x.length < p + needle.length := by
    intro p hp
    simp only [Finset.mem_union, Finset.mem_filter]
    by_cases hends : p + needle.length ≤ x.length
    · exact .inl (.inl ⟨hp, hends⟩)
    · by_cases hbegins : x.length ≤ p
      · exact .inl (.inr ⟨hp, hbegins⟩)
      · exact .inr ⟨hp, Nat.lt_of_not_le hbegins, Nat.lt_of_not_le hends⟩
  refine (Finset.card_le_card hcover).trans ((Finset.card_union_le _ _).trans ?_)
  refine Nat.add_le_add ((Finset.card_union_le _ _).trans ?_) h.card_across_le
  exact Nat.add_le_add (h.card_before_le hneedle) (h.card_behind_le hneedle)

end Joined

/-- The scan counts as many occurrences as there can be without overlap. So nothing that occurs in
one of two texts is lost when they are put together, and no more than one occurrence, across the
seam, is gained. -/
theorem count_joined (hneedle : needle ≠ []) (x y : List Char) :
    (∀ s, IsGreatest {n | ∃ places, DisjointPlaces needle s places ∧ places.card = n}
      (count needle s)) ∧
    count needle x + count needle y ≤ count needle (x ++ y) ∧
    count needle (x ++ y) ≤ count needle x + count needle y + 1 := by
  refine ⟨isGreatest_count hneedle, count_add_count_le hneedle x y, ?_⟩
  obtain ⟨places, hplaces, hcard⟩ := exists_card_eq_count hneedle (x ++ y)
  exact hcard ▸ hplaces.card_le_of_append hneedle

/-- Two occurrences in the first text overlap, so that one of them counts. The text behind it shows
none of its own and completes another one. -/
theorem count_joined_seam :
    "anana".toList ≠ [] ∧
    IsGreatest {n | ∃ places, DisjointPlaces "anana".toList "bananana".toList places ∧
      places.card = n} 1 ∧
    count "anana".toList "bananana".toList = 1 ∧ count "anana".toList "nanas".toList = 0 ∧
    1 + 0 ≤ count "anana".toList ("bananana".toList ++ "nanas".toList) ∧
    count "anana".toList ("bananana".toList ++ "nanas".toList) ≤ 1 + 0 + 1 ∧
    count "anana".toList ("bananana".toList ++ "nanas".toList) = 2 := by
  have hneedle : "anana".toList ≠ [] := by decide
  have hfirst : count "anana".toList "bananana".toList = 1 := by decide
  have hsecond : count "anana".toList "nanas".toList = 0 := by decide
  obtain ⟨hgreatest, hkept, hgained⟩ := count_joined hneedle "bananana".toList "nanas".toList
  rw [hfirst, hsecond] at hkept hgained
  exact ⟨hneedle, hfirst ▸ hgreatest _, hfirst, hsecond, hkept, hgained, by decide⟩

/-! Mentions, in any letter case. -/

structure DisjointMentions (s k : List Char) (places : Finset ℕ) : Prop where
  mentioned : ∀ p ∈ places, ∃ x m y, s = x ++ m ++ y ∧ lower m = k ∧ x.length = p
  apart : ∀ p ∈ places, ∀ q ∈ places, p < q → p + k.length ≤ q

theorem prefix_drop_lower_iff_of_ne_nil {k : List Char} {p : ℕ} (hk : k ≠ []) :
    k <+: (lower s).drop p ↔ ∃ x m y, s = x ++ m ++ y ∧ lower m = k ∧ x.length = p := by
  by_cases hp : p ≤ s.length
  · exact prefix_drop_lower_iff hp
  · refine iff_of_false (fun hstands => ?_) ?_
    · rw [List.drop_eq_nil_of_le (by rw [length_lower]; omega)] at hstands
      exact hk (List.prefix_nil.1 hstands)
    · rintro ⟨x, m, y, rfl, -, rfl⟩
      simp only [List.length_append] at hp
      omega

theorem disjointMentions_iff {k : List Char} (hk : k ≠ []) :
    DisjointMentions s k places ↔ DisjointPlaces k (lower s) places := by
  constructor
  · exact fun h => ⟨fun p hp => (prefix_drop_lower_iff_of_ne_nil hk).2 (h.mentioned p hp), h.apart⟩
  · exact fun h => ⟨fun p hp => (prefix_drop_lower_iff_of_ne_nil hk).1 (h.stands p hp), h.apart⟩

theorem isGreatest_count_lower {k : List Char} (hk : k ≠ []) (s : List Char) :
    IsGreatest {n | ∃ places, DisjointMentions s k places ∧ places.card = n}
      (count k (lower s)) := by
  simp only [disjointMentions_iff hk]
  exact isGreatest_count hk (lower s)

end SoftFail.Text
