import SoftFail.Proofs.Text.Widened
import SoftFail.Proofs.Text.Word

/-! Where a text mentions a word, in any letter case, and what stands around it. The lowered copy of
the text shows the place, by characters as well as by bytes. -/

namespace SoftFail.Text

variable {k s x m y : List Char} {i j : Nat}

def Mentions (s k : List Char) : Prop := ∃ x m y, s = x ++ m ++ y ∧ lower m = k

structure FirstMention (s k x m y : List Char) : Prop where
  whole : s = x ++ m ++ y
  word : lower m = k
  first : ∀ x' m' y', s = x' ++ m' ++ y' → lower m' = k → x.length ≤ x'.length

theorem lower_eq_append_iff {u v : List Char} :
    lower s = u ++ v ↔ ∃ x y, s = x ++ y ∧ lower x = u ∧ lower y = v := List.map_eq_append_iff

theorem prefix_lower_iff : k <+: lower s ↔ ∃ m y, s = m ++ y ∧ lower m = k := by
  constructor
  · rintro ⟨v, hv⟩
    obtain ⟨m, y, hs, hm, -⟩ := lower_eq_append_iff.1 hv.symm
    exact ⟨m, y, hs, hm⟩
  · rintro ⟨m, y, rfl, rfl⟩
    rw [lower_append]
    exact List.prefix_append _ _

theorem prefix_drop_lower_iff (hi : i ≤ s.length) :
    k <+: (lower s).drop i ↔ ∃ x m y, s = x ++ m ++ y ∧ lower m = k ∧ x.length = i := by
  rw [lower, ← List.map_drop, ← lower, prefix_lower_iff]
  constructor
  · rintro ⟨m, y, hs, hm⟩
    refine ⟨s.take i, m, y, ?_, hm, List.length_take_of_le hi⟩
    rw [List.append_assoc, ← hs, List.take_append_drop]
  · rintro ⟨x, m, y, rfl, hm, rfl⟩
    exact ⟨m, y, by rw [List.append_assoc, List.drop_left], hm⟩

theorem index?_lower_eq_none_iff : index? k (lower s) = none ↔ ¬Mentions s k := by
  rw [← Option.not_isSome_iff_eq_none]
  refine not_congr (contains_iff.trans ?_)
  constructor
  · rintro ⟨u, v, h⟩
    obtain ⟨z, y, rfl, hz, -⟩ := lower_eq_append_iff.1 h.symm
    obtain ⟨x, m, rfl, -, hm⟩ := lower_eq_append_iff.1 hz
    exact ⟨x, m, y, rfl, hm⟩
  · rintro ⟨x, m, y, rfl, rfl⟩
    exact ⟨lower x, lower y, by rw [lower_append, lower_append]⟩

theorem contains_lower_iff : contains k (lower s) = true ↔ Mentions s k := by
  rw [contains, Option.isSome_iff_ne_none, Ne, index?_lower_eq_none_iff, not_not]

theorem index?_lower_eq_some_iff :
    index? k (lower s) = some i ↔ ∃ x m y, FirstMention s k x m y ∧ x.length = i := by
  rw [index?_eq_some_iff, length_lower]
  constructor
  · rintro ⟨hi, hat, hfirst⟩
    obtain ⟨x, m, y, hs, hm, rfl⟩ := (prefix_drop_lower_iff hi).1 hat
    refine ⟨x, m, y, ⟨hs, hm, fun x' m' y' hs' hm' => ?_⟩, rfl⟩
    refine Nat.le_of_not_lt fun hlt => hfirst _ hlt ?_
    exact (prefix_drop_lower_iff (by omega)).2 ⟨x', m', y', hs', hm', rfl⟩
  · rintro ⟨x, m, y, h, rfl⟩
    have hx : x.length ≤ s.length := by
      rw [h.whole, List.append_assoc, List.length_append]
      exact Nat.le_add_right _ _
    refine ⟨hx, (prefix_drop_lower_iff hx).2 ⟨x, m, y, h.whole, h.word, rfl⟩, fun j hj hat => ?_⟩
    obtain ⟨x', m', y', hs', hm', rfl⟩ := (prefix_drop_lower_iff (by omega)).1 hat
    exact absurd (h.first x' m' y' hs' hm') (Nat.not_le.2 hj)

theorem Mentions.exists_first (h : Mentions s k) : ∃ x m y, FirstMention s k x m y := by
  obtain ⟨i, hi⟩ := Option.ne_none_iff_exists'.1 fun hnone => index?_lower_eq_none_iff.1 hnone h
  obtain ⟨x, m, y, hfirst, -⟩ := index?_lower_eq_some_iff.1 hi
  exact ⟨x, m, y, hfirst⟩

/-- A mention begins and ends where characters do, also by the bytes of the lowered text. -/
theorem encode_prefix_drop_lower_iff (hk : k ≠ []) :
    encode k <+: (encode (lower s)).drop j ↔
      ∃ x m y, s = x ++ m ++ y ∧ lower m = k ∧ (encode x).length = j := by
  rw [encode_prefix_drop_iff hk]
  constructor
  · rintro ⟨u, v, hs, rfl, hv⟩
    obtain ⟨x, z, rfl, rfl, rfl⟩ := lower_eq_append_iff.1 hs
    obtain ⟨m, y, rfl, hm⟩ := prefix_lower_iff.1 hv
    exact ⟨x, m, y, (List.append_assoc x m y).symm, hm, (length_encode_lower x).symm⟩
  · rintro ⟨x, m, y, rfl, rfl, rfl⟩
    refine ⟨lower x, lower (m ++ y), ?_, length_encode_lower x, ?_⟩
    · rw [List.append_assoc, lower_append]
    · exact prefix_lower_iff.2 ⟨m, y, rfl, rfl⟩

theorem FirstMention.bytes_le (h : FirstMention s k x m y) (hk : k ≠ [])
    (hj : encode k <+: (encode (lower s)).drop j) : (encode x).length ≤ j := by
  obtain ⟨x', m', y', hs', hm', rfl⟩ := (encode_prefix_drop_lower_iff hk).1 hj
  have hwhole := h.whole
  rw [List.append_assoc] at hwhole hs'
  obtain ⟨r, rfl⟩ := List.prefix_of_prefix_length_le ⟨_, hwhole.symm⟩ ⟨_, hs'.symm⟩
    (h.first x' m' y' (by rw [hs', List.append_assoc]) hm')
  rw [encode_append, List.length_append]
  exact Nat.le_add_right _ _

/-! Words that are folded onto are mentioned where they are matched, unless they have a letter that
more than its capital is folded onto. -/

/-- The letters with a fold beyond ASCII, and what is folded onto them. -/
def wideLetters : List Char := ['k', 's', '\u212A', '\u017F']

theorem foldLetter_eq_iff {a : Char} (ha : a ∉ wideLetters) (c : Char) :
    foldLetter c = a ↔ c.toLower = a := by
  simp only [wideLetters, List.mem_cons, List.not_mem_nil, not_or] at ha
  unfold foldLetter
  split_ifs with hascii hkelvin hlong
  · rfl
  · subst hkelvin
    exact iff_of_false (Ne.symm ha.1) (Ne.symm ha.2.2.1)
  · subst hlong
    exact iff_of_false (Ne.symm ha.2.1) (Ne.symm ha.2.2.2.1)
  · have hcapitals : capitals.all (fun c => c.toNat < 0x80) = true := by decide
    rw [toLower_eq_self fun hc => hascii (of_decide_eq_true (List.all_eq_true.1 hcapitals c hc))]

def isNarrow (w : List Char) : Bool := w.all (· ∉ wideLetters)

theorem isNarrow_cons_iff {a : Char} {w : List Char} :
    isNarrow (a :: w) = true ↔ a ∉ wideLetters ∧ isNarrow w = true := by
  rw [isNarrow, List.all_cons, Bool.and_eq_true, decide_eq_true_iff, isNarrow]

theorem prefix_fold_iff {w : List Char} (hw : isNarrow w = true) (s : List Char) :
    w <+: fold s ↔ w <+: lower s := by
  induction w generalizing s with
  | nil => simp
  | cons a w ih =>
    cases s with
    | nil => rfl
    | cons c s =>
      obtain ⟨ha, hw⟩ := isNarrow_cons_iff.1 hw
      rw [lower_cons, fold, List.map_cons, ← fold, List.cons_prefix_cons, List.cons_prefix_cons,
        ih hw, eq_comm, foldLetter_eq_iff ha, eq_comm]

theorem index?_fold {w : List Char} (hw : isNarrow w = true) (s : List Char) :
    index? w (fold s) = index? w (lower s) := by
  induction s with
  | nil => rfl
  | cons c s ih =>
    have hfront := prefix_fold_iff hw (c :: s)
    rw [lower_cons, fold, List.map_cons, ← fold] at hfront ⊢
    simp only [index?_cons, hfront, ih]

theorem isSome_cutWord?_iff {w : List Char} (hw : isNarrow w = true) (s : List Char) :
    (cutWord? w s).isSome = true ↔ Mentions s w := by
  rw [cutWord?_eq, Option.isSome_map, index?_fold hw]
  exact contains_lower_iff

theorem dropWord?_eq_some_iff_exists {w : List Char} (hw : isNarrow w = true)
    (s r : List Char) : dropWord? w s = some r ↔ ∃ m, s = m ++ r ∧ lower m = w := by
  rw [dropWord?_eq_some_iff, prefix_fold_iff hw, prefix_lower_iff]
  constructor
  · rintro ⟨⟨m, y, rfl, rfl⟩, rfl⟩
    exact ⟨m, by rw [length_lower, List.drop_left], rfl⟩
  · rintro ⟨m, rfl, rfl⟩
    exact ⟨⟨m, r, rfl, rfl⟩, by rw [length_lower, List.drop_left]⟩

/-! What stands around a place. -/

theorem slice_around (x m y : List Char) (radius : Nat) :
    slice (x.length - radius) (x.length + m.length + radius) (x ++ m ++ y) =
      x.drop (x.length - radius) ++ m ++ y.take radius := by
  have hlength : x.length + m.length + radius - (x.length - radius) =
      (x.drop (x.length - radius) ++ m).length + radius := by
    rw [List.length_append, List.length_drop]
    omega
  rw [slice, hlength, List.append_assoc, List.drop_append_of_le_length (Nat.sub_le _ _),
    ← List.append_assoc, List.take_length_add_append]

theorem windowAtBytes?_around (x m y : List Char) (radius : Nat) :
    windowAtBytes? (x ++ m ++ y) (encode x).length (encode (x ++ m)).length radius =
      some (x.drop (x.length - radius) ++ m ++ y.take radius) := by
  have hstart := boundary_append x (m ++ y)
  rw [← List.append_assoc] at hstart
  have horder : x.length ≤ (x ++ m).length + 2 * radius := by
    rw [List.length_append]
    omega
  rw [windowAtBytes?, Window.around_of_boundaries hstart (boundary_append (x ++ m) y),
    if_pos horder, List.length_append, slice_around]
  rfl

end SoftFail.Text
