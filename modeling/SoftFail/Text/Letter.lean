/-! Words matched without regard to letter case. -/

namespace SoftFail.Text

/-- Simple case folding onto the ASCII letters: besides the capitals, the Kelvin sign is a `k`
and the long s is an `s`. -/
def foldLetter (c : Char) : Char :=
  if c.toNat < 0x80 then c.toLower
  else if c = '\u212A' then 'k'
  else if c = '\u017F' then 's'
  else c

def dropWord? : (w s : List Char) → Option (List Char)
  | [], s => some s
  | _ :: _, [] => none
  | a :: w, b :: s => if foldLetter b = a then dropWord? w s else none

theorem length_of_dropWord? {w s r : List Char} (h : dropWord? w s = some r) :
    r.length + w.length = s.length := by
  induction w generalizing s with
  | nil => simp_all [dropWord?]
  | cons a w ih =>
    cases s with
    | nil => simp [dropWord?] at h
    | cons b s =>
      simp only [dropWord?] at h
      split at h
      · have := ih h
        simp only [List.length_cons]
        omega
      · simp at h

/-- What follows the first occurrence of the word, with what stands before it. -/
def cutWord? (w : List Char) (s : List Char) : Option (List Char × List Char) :=
  go [] s
where
  go (before : List Char) (s : List Char) : Option (List Char × List Char) :=
    match dropWord? w s with
    | some rest => some (before.reverse, rest)
    | none =>
      match s with
      | [] => none
      | c :: s => go (c :: before) s

theorem length_of_cutWord?_go {w before s x r : List Char}
    (h : cutWord?.go w before s = some (x, r)) : r.length ≤ s.length := by
  induction s generalizing before with
  | nil =>
    unfold cutWord?.go at h
    split at h
    · rename_i rest hr
      have := length_of_dropWord? hr
      simp only [Option.some.injEq, Prod.mk.injEq] at h
      simp_all
    · simp at h
  | cons c s ih =>
    unfold cutWord?.go at h
    split at h
    · rename_i rest hr
      have := length_of_dropWord? hr
      simp only [Option.some.injEq, Prod.mk.injEq] at h
      obtain ⟨_, rfl⟩ := h
      omega
    · have := ih h
      simp only [List.length_cons]
      omega

theorem length_of_cutWord? {w s x r : List Char} (h : cutWord? w s = some (x, r)) :
    r.length ≤ s.length :=
  length_of_cutWord?_go h

def past? (c : Char) (s : List Char) : Option (List Char) :=
  match s.dropWhile (· ≠ c) with
  | [] => none
  | _ :: rest => some rest

theorem length_of_past? {c : Char} {s r : List Char} (h : past? c s = some r) :
    r.length < s.length := by
  unfold past? at h
  have hle := (List.dropWhile_sublist (fun x => decide (x ≠ c)) (l := s)).length_le
  split at h
  · simp at h
  · rename_i x rest heq
    rw [heq] at hle
    simp only [Option.some.injEq] at h
    subst h
    simp only [List.length_cons] at hle
    omega

end SoftFail.Text
