import SoftFail.Text.Scan

/-! Scans as recursions on what is left of the text: the first find, and from it all finds. -/

namespace SoftFail.Text

variable {α : Type} {look : (s : List Char) → Look s α}

def Find.parts {s : List Char} (f : Find s α) : List Char × α × List Char :=
  (f.before, f.content, f.rest)

def Look.said {s : List Char} : Look s α → Option (Option (α × List Char))
  | .pass => none
  | .stop => some none
  | .found content rest _ => some (some (content, rest))

def firstFind (look : (s : List Char) → Look s α) : List Char → Option (List Char × α × List Char)
  | [] => none
  | c :: s =>
    match look (c :: s) with
    | .pass => (firstFind look s).map fun f => (c :: f.1, f.2)
    | .stop => none
    | .found content rest _ => some ([], content, rest)

theorem firstFind_cons (c : Char) (s : List Char) :
    firstFind look (c :: s) = match (look (c :: s)).said with
      | none => (firstFind look s).map fun f => (c :: f.1, f.2)
      | some none => none
      | some (some (content, rest)) => some ([], content, rest) := by
  rw [firstFind]
  cases look (c :: s) <;> rfl

theorem parts_find?_go (s t before : List Char) (le : t.length ≤ s.length) :
    (find?.go look s t before le).map Find.parts =
      (firstFind look t).map fun f => (before.reverse ++ f.1, f.2) := by
  induction t generalizing before with
  | nil => rfl
  | cons c t ih =>
    rw [find?.go, firstFind]
    cases look (c :: t) with
    | pass =>
      rw [ih]
      cases firstFind look t <;> simp
    | stop => rfl
    | found content rest shorter => simp [Find.parts]

theorem parts_find? (s : List Char) : (find? look s).map Find.parts = firstFind look s := by
  rw [find?, parts_find?_go]
  cases firstFind look s <;> simp

theorem length_of_firstFind {s before rest : List Char} {content : α}
    (h : firstFind look s = some (before, content, rest)) : rest.length < s.length := by
  rw [← parts_find?] at h
  obtain ⟨f, _, hf⟩ := Option.map_eq_some_iff.1 h
  cases hf
  exact f.shorter

/-- The leftmost find stands where something is found, and nothing is said at any place before. -/
theorem firstFind_eq_some {s before rest : List Char} {content : α}
    (h : firstFind look s = some (before, content, rest)) :
    ∃ t, s = before ++ t ∧ (look t).said = some (some (content, rest)) ∧
      ∀ u v, before = u ++ v → v ≠ [] → (look (v ++ t)).said = none := by
  induction s generalizing before with
  | nil => cases h
  | cons c s ih =>
    rw [firstFind_cons] at h
    split at h
    next hpass =>
      obtain ⟨⟨before', content', rest'⟩, hf, hparts⟩ := Option.map_eq_some_iff.1 h
      cases hparts
      obtain ⟨t, rfl, hat, hbefore⟩ := ih hf
      refine ⟨t, rfl, hat, fun u v huv hv => ?_⟩
      cases u with
      | nil =>
        obtain rfl : c :: before' = v := huv
        exact hpass
      | cons _ u => exact hbefore u v (List.cons.inj huv).2 hv
    · cases h
    next hfound =>
      cases h
      exact ⟨c :: s, rfl, hfound, fun u v huv hv =>
        absurd (List.append_eq_nil_iff.1 huv.symm).2 hv⟩

theorem said_of_firstFind_eq_none {s : List Char} (hlook : ∀ s, (look s).said ≠ some none)
    (h : firstFind look s = none) (u v : List Char) (huv : s = u ++ v) (hv : v ≠ []) :
    (look v).said = none := by
  induction s generalizing u with
  | nil => exact absurd (List.append_eq_nil_iff.1 huv.symm).2 hv
  | cons c s ih =>
    rw [firstFind_cons] at h
    split at h
    next hpass =>
      cases u with
      | nil =>
        obtain rfl : c :: s = v := huv
        exact hpass
      | cons _ u => exact ih (Option.map_eq_none_iff.1 h) u (List.cons.inj huv).2
    next hstop => exact absurd hstop (hlook (c :: s))
    · cases h

/-- What holds of a text when it holds of the rest behind its first find holds of all texts. -/
theorem induction_on_finds (look : (s : List Char) → Look s α) {P : List Char → Prop}
    (step : ∀ s, (∀ before content rest, firstFind look s = some (before, content, rest) → P rest) →
      P s) (s : List Char) : P s := by
  -- The rest behind a find may be far from the head of the text.
  induction hn : s.length using Nat.strongRecOn generalizing s with
  | ind n ih =>
    subst hn
    exact step s fun before content rest hf => ih _ (length_of_firstFind hf) rest rfl

theorem findAll_go_eq (s : List Char) (pieces : List (List Char × α)) :
    findAll.go look s pieces = match firstFind look s with
      | none => (pieces.reverse, s)
      | some (before, content, rest) => findAll.go look rest ((before, content) :: pieces) := by
  rw [findAll.go, ← parts_find?]
  cases find? look s <;> rfl

theorem findAll_go_pieces (s : List Char) (pieces : List (List Char × α)) :
    findAll.go look s pieces =
      (pieces.reverse ++ (findAll.go look s []).1, (findAll.go look s []).2) := by
  -- The pieces so far vary from find to find, and only ever stand in front.
  induction s using induction_on_finds look generalizing pieces with
  | step s ih =>
    rw [findAll_go_eq s pieces, findAll_go_eq s []]
    cases hf : firstFind look s with
    | none => simp
    | some f =>
      obtain ⟨before, content, rest⟩ := f
      simp only
      rw [ih before content rest hf ((before, content) :: pieces),
        ih before content rest hf [(before, content)]]
      simp

theorem findAll_eq (s : List Char) :
    findAll look s = match firstFind look s with
      | none => ([], s)
      | some (before, content, rest) =>
        ((before, content) :: (findAll look rest).1, (findAll look rest).2) := by
  rw [findAll, findAll_go_eq]
  cases firstFind look s with
  | none => rfl
  | some f => exact findAll_go_pieces f.2.2 [(f.1, f.2.1)]

theorem contents_eq (s : List Char) :
    contents look s = match firstFind look s with
      | none => []
      | some (_, content, rest) => content :: contents look rest := by
  rw [contents, findAll_eq]
  cases firstFind look s <;> rfl

theorem replace_eq (fill s : List Char) :
    replace look fill s = match firstFind look s with
      | none => s
      | some (before, _, rest) => before ++ fill ++ replace look fill rest := by
  rw [replace, findAll_eq]
  cases firstFind look s <;> simp [replace]

theorem contents_eq_nil {s : List Char} (h : firstFind look s = none) : contents look s = [] := by
  rw [contents_eq, h]

theorem replace_eq_self {s : List Char} (h : firstFind look s = none) (fill : List Char) :
    replace look fill s = s := by
  rw [replace_eq, h]

theorem replace_nil_sublist
    (hlook : ∀ t content rest, (look t).said = some (some (content, rest)) → rest <:+ t)
    (s : List Char) : (replace look [] s).Sublist s := by
  induction s using induction_on_finds look with
  | step s ih =>
    rw [replace_eq]
    cases hf : firstFind look s with
    | none => exact List.Sublist.refl s
    | some f =>
      obtain ⟨before, content, rest⟩ := f
      obtain ⟨t, rfl, hfound, -⟩ := firstFind_eq_some hf
      have hrest := (ih before content rest hf).trans (hlook t content rest hfound).sublist
      show (before ++ [] ++ replace look [] rest).Sublist (before ++ t)
      rw [List.append_nil]
      exact (List.Sublist.refl before).append hrest

end SoftFail.Text
