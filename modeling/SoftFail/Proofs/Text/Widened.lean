import SoftFail.Bound
import SoftFail.Proofs.Text.Boundary
import SoftFail.Text.Window

/-! Widened ranges. A range of bytes between two characters each is widened by characters as if it
had been given in characters, whatever their sizes are, and no number on the way is larger than the
text is long. -/

namespace SoftFail.Text

variable {s : List Char} {n k l i j : ℕ}

def Boundary (s : List Char) (n k : ℕ) : Prop := k ≤ s.length ∧ (encode (s.take k)).length = n

instance : Decidable (Boundary s n k) :=
  inferInstanceAs (Decidable (k ≤ s.length ∧ (encode (s.take k)).length = n))

theorem boundary_append (x y : List Char) : Boundary (x ++ y) (encode x).length x.length :=
  ⟨List.length_append ▸ Nat.le_add_right _ _, by rw [List.take_left]⟩

theorem length_encode (s : List Char) : (encode s).length = (String.ofList s).utf8ByteSize := by
  rw [← String.size_toByteArray, String.toByteArray_ofList, List.utf8Encode,
    List.size_toByteArray]
  rfl

theorem length_encode_take_le (s : List Char) (h : i ≤ j) :
    (encode (s.take i)).length ≤ (encode (s.take j)).length := by
  obtain ⟨r, hr⟩ := List.take_prefix_take_left (l := s) h
  rw [← hr, encode_append, List.length_append]
  exact Nat.le_add_right _ _

theorem length_encode_take_lt (h : i < j) (hi : i < s.length) :
    (encode (s.take i)).length < (encode (s.take j)).length := by
  have hnext : (encode (s.take (i + 1))).length ≤ (encode (s.take j)).length :=
    length_encode_take_le s h
  rw [List.take_succ_eq_append_getElem hi, encode_append, List.length_append] at hnext
  have hpos : 0 < (encode [s[i]]).length := by
    rw [encode_cons, List.length_append, String.length_utf8EncodeChar]
    exact Nat.add_pos_left s[i].utf8Size_pos _
  omega

namespace Window

/-! Cutting. -/

theorem cut_take (s : List Char) (k : ℕ) :
    cut (encode (s.take k)).length s = .ok (s.take k, s.drop k) := by
  induction s generalizing k with
  | nil => simp [encode, cut]
  | cons c s ih =>
    cases k with
    | zero => rfl
    | succ k =>
      have hpos := c.utf8Size_pos
      rw [List.take_succ_cons, List.drop_succ_cons, encode_cons, List.length_append,
        String.length_utf8EncodeChar, cut, if_neg (by omega), if_neg (by omega),
        Nat.add_sub_cancel_left, ih]
      rfl

theorem cut_of_not_boundary (h : ∀ k, ¬Boundary s n k) : cut n s = .error .offBoundary := by
  induction s generalizing n with
  | nil =>
    rw [cut, if_neg]
    rintro rfl
    exact h 0 ⟨Nat.le_refl _, rfl⟩
  | cons c s ih =>
    rw [cut, if_neg]
    · split_ifs with hsize
      · rfl
      · rw [ih]
        · rfl
        · rintro k ⟨hk, hn⟩
          refine h (k + 1) ⟨Nat.succ_le_succ hk, ?_⟩
          rw [List.take_succ_cons, encode_cons, List.length_append, hn,
            String.length_utf8EncodeChar]
          omega
    · rintro rfl
      exact h 0 ⟨Nat.zero_le _, rfl⟩

/-! Where characters begin. -/

theorem length_beginnings (at_ : ℕ) (s : List Char) : (beginnings at_ s).length = s.length := by
  induction s generalizing at_ with
  | nil => rfl
  | cons c s ih => rw [beginnings, List.length_cons, List.length_cons, ih]

theorem getElem?_beginnings (at_ : ℕ) (hk : k < s.length) :
    (beginnings at_ s)[k]? = some (at_ + (encode (s.take k)).length) := by
  induction s generalizing at_ k with
  | nil => exact absurd hk (Nat.not_lt_zero k)
  | cons c s ih =>
    cases k with
    | zero => rfl
    | succ k =>
      rw [beginnings, List.getElem?_cons_succ, ih _ (Nat.lt_of_succ_lt_succ hk),
        List.take_succ_cons, encode_cons, List.length_append, String.length_utf8EncodeChar,
        Nat.add_assoc]

/-- Counted from the end, the characters begin in the opposite order. -/
theorem getElem?_reverse_beginnings (hk : k < s.length) :
    (beginnings 0 s).reverse[k]? = some (encode (s.take (s.length - (k + 1)))).length := by
  rw [List.getElem?_reverse (length_beginnings 0 s ▸ hk), length_beginnings,
    getElem?_beginnings 0 (by omega), Nat.zero_add, Nat.sub_sub, Nat.add_comm 1]

theorem getElem?_beginnings_eq_none (at_ : ℕ) (hk : s.length ≤ k) :
    (beginnings at_ s)[k]? = none :=
  List.getElem?_eq_none (length_beginnings at_ s ▸ hk)

theorem getElem?_reverse_beginnings_eq_none (at_ : ℕ) (hk : s.length ≤ k) :
    (beginnings at_ s).reverse[k]? = none :=
  List.getElem?_eq_none (by rwa [List.length_reverse, length_beginnings])

/-! The widened ends. -/

theorem backward_of_boundary (h : Boundary s i k) (radius : ℕ) :
    backward s i radius = .ok (encode (s.take (k - radius))).length := by
  obtain ⟨hk, rfl⟩ := h
  have hlength : (s.take k).length = k := List.length_take_of_le hk
  rw [backward]
  split_ifs with hradius
  · rw [hradius, Nat.sub_zero]
  · obtain ⟨r, rfl⟩ := Nat.exists_eq_succ_of_ne_zero hradius
    have hlast : difference (r + 1) 1 = .ok r := if_pos (Nat.le_add_left 1 r)
    simp only [cut_take, Nat.succ_eq_add_one, hlast, bind, Except.bind, pure, Except.pure]
    congr 1
    by_cases hr : r < k
    · rw [getElem?_reverse_beginnings (hlength.symm ▸ hr), hlength, List.take_take,
        Nat.min_eq_left (Nat.sub_le _ _), Option.getD_some]
    · rw [getElem?_reverse_beginnings_eq_none 0 (by omega), Option.getD_none,
        Nat.sub_eq_zero_of_le (by omega)]
      rfl

theorem length_encode_take_add (s : List Char) (l radius : ℕ) :
    (encode (s.take l)).length + (encode ((s.drop l).take radius)).length =
      (encode (s.take (l + radius))).length := by
  rw [List.take_add, encode_append, List.length_append]

theorem length_encode_take_le_length (s : List Char) (k : ℕ) :
    (encode (s.take k)).length ≤ (encode s).length := by
  have hall := length_encode_take_le s (Nat.le_max_left k s.length)
  rwa [List.take_of_length_le (Nat.le_max_right _ _)] at hall

theorem forward_of_boundary {largest : Option ℕ} (h : Boundary s j l) (radius : ℕ)
    (hlargest : ∀ n ∈ largest, (encode s).length ≤ n) :
    forward largest s j radius = .ok (encode (s.take (l + radius))).length := by
  obtain ⟨hl, rfl⟩ := h
  simp only [forward, cut_take, bind, Except.bind]
  by_cases hr : radius < (s.drop l).length
  · simp only [getElem?_beginnings 0 hr, Nat.zero_add, sum, length_encode_take_add]
    rw [if_pos]
    cases largest with
    | none => rfl
    | some n => exact decide_eq_true ((length_encode_take_le_length s _).trans (hlargest n rfl))
  · rw [getElem?_beginnings_eq_none 0 (Nat.le_of_not_lt hr)]
    rw [List.length_drop] at hr
    have hend : s.take (l + radius) = s := List.take_of_length_le (by omega)
    rw [hend, length_encode s]
    rfl

theorem forward_of_not_boundary (h : ∀ l, ¬Boundary s j l) (largest : Option ℕ) (radius : ℕ) :
    forward largest s j radius = .error .offBoundary := by
  simp only [forward, cut_of_not_boundary h, bind, Except.bind]

/-- The one sum on the way is no larger than the text is long. -/
theorem forward_bounded (hn : (encode s).length ≤ n) (j radius : ℕ) :
    forward (some n) s j radius = forward none s j radius := by
  by_cases h : ∃ l, Boundary s j l
  · obtain ⟨l, hl⟩ := h
    rw [forward_of_boundary hl radius fun m hm => Option.some.inj hm ▸ hn,
      forward_of_boundary hl radius fun m hm => by cases hm]
  · rw [forward_of_not_boundary (not_exists.1 h), forward_of_not_boundary (not_exists.1 h)]

/-! What lies between two places. -/

theorem between_take (hi : i ≤ s.length) (j : ℕ) :
    between (encode (s.take i)).length (encode (s.take j)).length s =
      if i ≤ j then .ok (slice i j s) else .error .reversed := by
  rw [between]
  by_cases hij : i ≤ j
  · have hpart : (s.take j).take i = s.take i := by rw [List.take_take, Nat.min_eq_left hij]
    have hcut := cut_take (s.take j) i
    rw [hpart] at hcut
    rw [if_neg (Nat.not_lt.2 (length_encode_take_le s hij)), if_pos hij, slice, ← List.drop_take]
    simp only [cut_take, hcut, bind, Except.bind, pure, Except.pure]
  · have hji : j < i := Nat.lt_of_not_le hij
    rw [if_pos (length_encode_take_lt hji (Nat.lt_of_lt_of_le hji hi)), if_neg hij]

theorem between_of_not_boundary (h : ∀ k, ¬Boundary s i k) (j : ℕ) :
    ∃ fault ≠ Fault.overflow, between i (encode (s.take j)).length s = .error fault := by
  have hpart : ∀ k, ¬Boundary (s.take j) i k := by
    rintro k ⟨hk, hi⟩
    rw [List.length_take] at hk
    rw [List.take_take, Nat.min_eq_left (by omega)] at hi
    exact h k ⟨by omega, hi⟩
  rw [between]
  split_ifs with hlt
  · exact ⟨.reversed, by decide, rfl⟩
  · refine ⟨.offBoundary, by decide, ?_⟩
    simp only [cut_take, cut_of_not_boundary hpart, bind, Except.bind]

/-! The window. -/

section Around

variable {start stop : ℕ}

theorem around_bounded (hn : (encode s).length ≤ n) (start stop radius : ℕ) :
    around (some n) s start stop radius = around none s start stop radius := by
  simp only [around, forward_bounded hn]

theorem around_of_boundaries (hstart : Boundary s start k) (hstop : Boundary s stop l)
    (radius : ℕ) :
    around none s start stop radius =
      if k ≤ l + 2 * radius then .ok (slice (k - radius) (l + radius) s)
      else .error .reversed := by
  have hbegins : k - radius ≤ s.length := (Nat.sub_le _ _).trans hstart.1
  have horder : k ≤ l + 2 * radius ↔ k - radius ≤ l + radius := by omega
  have hforward : forward none s stop radius = .ok (encode (s.take (l + radius))).length :=
    forward_of_boundary hstop radius fun m hm => by cases hm
  simp only [around, backward_of_boundary hstart, hforward, bind, Except.bind,
    between_take hbegins, horder]

theorem around_of_not_boundary_start (hstart : ∀ k, ¬Boundary s start k)
    (hstop : Boundary s stop l) (radius : ℕ) :
    ∃ fault ≠ Fault.overflow, around none s start stop radius = .error fault := by
  have hforward : forward none s stop radius = .ok (encode (s.take (l + radius))).length :=
    forward_of_boundary hstop radius fun m hm => by cases hm
  simp only [around, backward]
  -- Without a radius the beginning is taken as it is, and refused only when the piece is cut out.
  split_ifs with hradius
  · simp only [hforward, bind, Except.bind]
    exact between_of_not_boundary hstart _
  · simp only [cut_of_not_boundary hstart, bind, Except.bind]
    exact ⟨.offBoundary, by decide, rfl⟩

theorem around_of_not_boundary_stop (hstop : ∀ l, ¬Boundary s stop l) (start radius : ℕ) :
    around none s start stop radius = .error .offBoundary := by
  have hforward := forward_of_not_boundary hstop none radius
  by_cases hstart : ∃ k, Boundary s start k
  · obtain ⟨k, hstart⟩ := hstart
    simp only [around, backward_of_boundary hstart, hforward, bind, Except.bind]
  · simp only [around, backward, cut_of_not_boundary (not_exists.1 hstart), bind, Except.bind]
    split_ifs
    · simp only [hforward]
    · rfl

theorem around_of_not_boundary
    (h : (∀ k, ¬Boundary s start k) ∨ ∀ l, ¬Boundary s stop l) (radius : ℕ) :
    ∃ fault ≠ Fault.overflow, around none s start stop radius = .error fault := by
  by_cases hstop : ∃ l, Boundary s stop l
  · obtain ⟨l, hstop⟩ := hstop
    exact around_of_not_boundary_start (h.resolve_right fun hnone => hnone l hstop) hstop radius
  · exact ⟨_, by decide, around_of_not_boundary_stop (not_exists.1 hstop) start radius⟩

theorem around_ne_overflow (s : List Char) (start stop radius : ℕ) :
    around none s start stop radius ≠ .error .overflow := by
  by_cases h : (∀ k, ¬Boundary s start k) ∨ ∀ l, ¬Boundary s stop l
  · obtain ⟨fault, hne, hfault⟩ := around_of_not_boundary h radius
    rw [hfault]
    exact fun heq => hne (Except.error.inj heq)
  · obtain ⟨hstart, hstop⟩ := not_or.1 h
    obtain ⟨k, hk⟩ := not_forall_not.1 hstart
    obtain ⟨l, hl⟩ := not_forall_not.1 hstop
    rw [around_of_boundaries hk hl]
    split_ifs <;> simp

end Around

end Window

open Window

theorem slice_min_length (i j : ℕ) (s : List Char) :
    slice i (min s.length j) s = slice i j s := by
  rw [slice, slice, ← List.drop_take, ← List.drop_take, ← List.take_take,
    List.take_of_length_le (List.length_take_le' j s)]

/-- Between two boundaries, with `k` characters in front of the one and `l` in front of the other,
the window is what stands from `radius` characters before the one up to `radius` characters behind
the other, as far as the text goes. It is missing only where it would end before it begins, and
where an end of the range is no boundary. Numbers that go up to the length of the text are enough
for it, whatever the radius. -/
theorem window_widened (s : List Char) (start stop radius : ℕ) :
    (∀ k l, Boundary s start k → Boundary s stop l →
      (windowAtBytes? s start stop radius = none ↔ l + 2 * radius < k) ∧
      (k ≤ l + 2 * radius → windowAtBytes? s start stop radius =
        some (slice (k - radius) (min s.length (l + radius)) s))) ∧
    ((∀ k, ¬Boundary s start k) ∨ (∀ l, ¬Boundary s stop l) →
      windowAtBytes? s start stop radius = none) ∧
    ∀ n, (encode s).length ≤ n →
      around (some n) s start stop radius ≠ .error .overflow ∧
      (around (some n) s start stop radius).toOption = windowAtBytes? s start stop radius := by
  refine ⟨fun k l hk hl => ?_, fun h => ?_, fun n hn => ?_⟩
  · rw [windowAtBytes?, around_of_boundaries hk hl, slice_min_length]
    split_ifs with horder
    · exact ⟨iff_of_false (Option.some_ne_none _) (Nat.not_lt.2 horder), fun _ => rfl⟩
    · exact ⟨iff_of_true rfl (Nat.lt_of_not_le horder), fun hle => absurd hle horder⟩
  · obtain ⟨fault, -, hfault⟩ := around_of_not_boundary h radius
    rw [windowAtBytes?, hfault]
    rfl
  · rw [around_bounded hn]
    exact ⟨around_ne_overflow s start stop radius, rfl⟩

/-- Three characters of two bytes each. From the last boundary back to the first one there is a
window as soon as the radii meet; inside a character there is none. -/
theorem window_widened_accents :
    Boundary "éàü".toList 2 1 ∧ Boundary "éàü".toList 4 2 ∧
    windowAtBytes? "éàü".toList 2 4 1 = some "éàü".toList ∧
    Boundary "éàü".toList 6 3 ∧ Boundary "éàü".toList 0 0 ∧
    windowAtBytes? "éàü".toList 6 0 1 = none ∧ windowAtBytes? "éàü".toList 6 0 2 = some ['à'] ∧
    (∀ k, ¬Boundary "éàü".toList 3 k) ∧ windowAtBytes? "éàü".toList 3 4 0 = none ∧
    (encode "éàü".toList).length ≤ bound64 - 1 ∧
    around (some (bound64 - 1)) "éàü".toList 2 4 (bound64 - 1) ≠ .error .overflow := by
  have hinside : ∀ k < 4, ¬Boundary "éàü".toList 3 k := by decide
  have hnone : ∀ k, ¬Boundary "éàü".toList 3 k := fun k hk =>
    hinside k (Nat.lt_succ_of_le hk.1) hk
  have htwo : Boundary "éàü".toList 2 1 := by decide
  have hfour : Boundary "éàü".toList 4 2 := by decide
  have hlast : Boundary "éàü".toList 6 3 := by decide
  have hfirst : Boundary "éàü".toList 0 0 := by decide
  have hlarge : (encode "éàü".toList).length ≤ bound64 - 1 := by decide
  refine ⟨htwo, hfour, ?_, hlast, hfirst, ?_, ?_, hnone, ?_, hlarge, ?_⟩
  · exact ((window_widened _ 2 4 1).1 1 2 htwo hfour).2 (by decide)
  · exact ((window_widened _ 6 0 1).1 3 0 hlast hfirst).1.2 (by decide)
  · exact ((window_widened _ 6 0 2).1 3 0 hlast hfirst).2 (by decide)
  · exact (window_widened _ 3 4 0).2.1 (.inl hnone)
  · exact ((window_widened _ 2 4 (bound64 - 1)).2.2 _ hlarge).1

end SoftFail.Text
