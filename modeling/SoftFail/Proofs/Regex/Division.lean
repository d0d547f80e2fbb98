import SoftFail.Proofs.Regex.Reading
import SoftFail.Proofs.Text.Scan

/-! Scans that find what a search for an expression finds: they divide every text as its matches
do. -/

namespace SoftFail.Regex

open Text

def Match.text (m : Match) : List Char := m.whole.text.take m.whole.length

/-- The text of the first group, empty where the group took no part. -/
def Match.groupText (m : Match) : List Char :=
  (m.group.map fun g => g.text.take g.length).getD []

/-- What matches leave of a text: the text in front of each one, and the text behind the last. -/
def divide (s : List Char) : List Match → List (List Char × Match) × List Char
  | [] => ([], s)
  | m :: ms =>
    let parts := divide m.stop.rest ms
    ((s.take (s.length - m.whole.text.length), m) :: parts.1, parts.2)

def Program.replaceAll (p : Program) (fill s : List Char) : List Char :=
  let parts := divide s (p.allMatches s)
  parts.1.flatMap (fun part => part.1 ++ fill) ++ parts.2

variable {α : Type} {look : (s : List Char) → Look s α} {value : Match → α}

theorem map_divide (s : List Char) (ms : List Match) (value : Match → α) :
    (divide s ms).1.map (fun part => value part.2) = ms.map value := by
  induction ms generalizing s with
  | nil => rfl
  | cons m ms ih => exact congrArg _ (ih m.stop.rest)

/-- What a look at a place says is what begins there: a match, nothing, or nothing here and further
on. -/
inductive Sees (e : Expr) (value : Match → α) (here : Cursor) :
    Option (Option (α × List Char)) → Prop where
  | pass (h : e.at? here = none) : Sees e value here none
  | stop (h : ∀ there : Cursor, there.rest <:+ here.rest → e.at? there = none) :
    Sees e value here (some none)
  | found {m : Match} (h : e.at? here = some m) (hwhole : m.whole = here.span m.stop)
    (hstop : here.offset < m.stop.offset) : Sees e value here (some (some (value m, m.stop.rest)))

def Expr.Scanned (e : Expr) (look : (s : List Char) → Look s α) (value : Match → α) : Prop :=
  ∀ here : Cursor, Sees e value here (look here.rest).said

theorem leftmost_eq_none {result : Cursor → Option Match} {before : Option Char} {offset : ℕ}
    {s : List Char} (h : ∀ there : Cursor, there.rest <:+ s → result there = none) :
    leftmost result before offset s = none := by
  induction s generalizing before offset with
  | nil => exact h _ (List.suffix_refl _)
  | cons c s ih =>
    rw [leftmost, h _ (List.suffix_refl _), Option.none_or]
    exact ih fun there hthere => h there (hthere.trans (List.suffix_cons c s))

theorem exists_of_leftmost {result : Cursor → Option Match} {before : Option Char} {offset : ℕ}
    {s : List Char} {m : Match} (h : leftmost result before offset s = some m) :
    ∃ there : Cursor, there.rest <:+ s ∧ result there = some m := by
  induction s generalizing before offset with
  | nil => exact ⟨_, List.suffix_refl _, h⟩
  | cons c s ih =>
    rcases Option.or_eq_some_iff.1 h with h | ⟨-, h⟩
    · exact ⟨_, List.suffix_refl _, h⟩
    · obtain ⟨there, hthere, h⟩ := ih h
      exact ⟨there, hthere.trans (List.suffix_cons c s), h⟩

theorem length_of_said {s rest : List Char} {content : α}
    (h : (look s).said = some (some (content, rest))) : rest.length < s.length := by
  cases hlook : look s with
  | pass | stop =>
    rw [hlook] at h
    cases h
  | found content rest shorter =>
    rw [hlook] at h
    cases h
    exact shorter

theorem Program.matchesFrom_append (p : Program) (fuel : ℕ) (last : Option ℕ) (c : Cursor)
    (done : List Match) :
    p.matchesFrom fuel last c done = done.reverse ++ p.matchesFrom fuel last c [] := by
  induction fuel generalizing last c done with
  | zero => exact (List.append_nil _).symm
  | succ fuel ih =>
    rw [matchesFrom, matchesFrom]
    cases p.next? last c with
    | none => exact (List.append_nil _).symm
    | some m =>
      dsimp only
      rw [ih _ _ (m :: done), ih _ _ [m], List.reverse_cons, List.append_assoc]
      rfl

namespace Expr.Scanned

variable {e : Expr} {here : Cursor} {before : Option Char} {offset : ℕ} {s : List Char} {m : Match}

theorem of_at? (h : e.Scanned look value) (hm : e.at? here = some m) :
    m.whole = here.span m.stop ∧ here.offset < m.stop.offset ∧
      m.stop.rest.length < here.rest.length := by
  have hsees := h here
  generalize hsaid : (look here.rest).said = said at hsees
  cases hsees with
  | pass hnone =>
    rw [hnone] at hm
    cases hm
  | stop hnone =>
    rw [hnone here (List.suffix_refl _)] at hm
    cases hm
  | found hat hwhole hstop =>
    obtain rfl := Option.some.inj (hat.symm.trans hm)
    exact ⟨hwhole, hstop, length_of_said hsaid⟩

theorem of_leftmost (h : e.Scanned look value)
    (hm : leftmost e.at? before offset s = some m) :
    m.whole.text.length ≤ s.length ∧ m.whole.length ≠ 0 ∧ m.stop.rest.length < s.length := by
  obtain ⟨there, hthere, hat⟩ := exists_of_leftmost hm
  obtain ⟨hwhole, hstop, hlt⟩ := h.of_at? hat
  rw [hwhole]
  exact ⟨hthere.length_le, Nat.sub_ne_zero_of_lt hstop, Nat.lt_of_lt_of_le hlt hthere.length_le⟩

theorem firstFind_eq (h : e.Scanned look value) (before : Option Char) (offset : ℕ)
    (s : List Char) : firstFind look s = (leftmost e.at? before offset s).map fun m =>
      (s.take (s.length - m.whole.text.length), value m, m.stop.rest) := by
  induction s generalizing before offset with
  | nil =>
    have hsees := h ⟨before, offset, []⟩
    rw [leftmost]
    generalize hsaid : (look []).said = said at hsees
    cases hsees with
    | pass hnone => rw [hnone]; rfl
    | stop hnone => rw [hnone _ (List.suffix_refl _)]; rfl
    | found => exact absurd (length_of_said hsaid) (Nat.not_lt_zero _)
  | cons c s ih =>
    have hsees := h ⟨before, offset, c :: s⟩
    rw [leftmost, firstFind_cons]
    generalize hsaid : (look (c :: s)).said = said at hsees
    cases hsees with
    | pass hnone =>
      rw [hnone, Option.none_or, ih (some c) (offset + 1)]
      cases hm : leftmost e.at? (some c) (offset + 1) s with
      | none => rfl
      | some m =>
        have hle := (h.of_leftmost hm).1
        rw [Option.map_some, Option.map_some, Option.map_some, List.length_cons,
          Nat.succ_sub hle, List.take_succ_cons]
    | stop hnone =>
      rw [hnone _ (List.suffix_refl _), Option.none_or, leftmost_eq_none fun there hthere =>
        hnone there (hthere.trans (List.suffix_cons c s))]
      rfl
    | @found m hat hwhole hstop =>
      have htext : m.whole.text = c :: s := by rw [hwhole]; rfl
      rw [hat, Option.some_or, Option.map_some, htext, Nat.sub_self, List.take_zero]

variable (he : e.advances = true)

include he

theorem next?_eq (h : e.Scanned look value) (last : Option ℕ) (here : Cursor) :
    e.program.next? last here = leftmost e.at? here.before here.offset here.rest := by
  rw [Program.next?, Expr.first?_program he]
  cases hm : leftmost e.at? here.before here.offset here.rest with
  | none => rfl
  | some m =>
    have hlength := (h.of_leftmost hm).2.1
    simp [hlength]

/-- A scan divides a text as the matches of the expression do. -/
theorem findAll_eq (h : e.Scanned look value) (s : List Char) :
    findAll look s = ((divide s (e.program.allMatches s)).1.map fun part => (part.1, value part.2),
      (divide s (e.program.allMatches s)).2) := by
  -- There is fuel enough for a match at every character that is left.
  suffices hfrom : ∀ fuel last (here : Cursor), here.rest.length < fuel →
      let parts := divide here.rest (e.program.matchesFrom fuel last here [])
      findAll look here.rest = (parts.1.map fun part => (part.1, value part.2), parts.2) from
    hfrom _ none (.ofText s) (by show s.length < s.length + 2; omega)
  intro fuel
  induction fuel with
  | zero => exact fun _ here hlt => absurd hlt (Nat.not_lt_zero _)
  | succ fuel ih =>
    intro last here hlt
    rw [Text.findAll_eq, h.firstFind_eq here.before here.offset, Program.matchesFrom,
      h.next?_eq he]
    cases hm : leftmost e.at? here.before here.offset here.rest with
    | none => rfl
    | some m =>
      have hleft := (h.of_leftmost hm).2.2
      dsimp only [Option.map_some]
      rw [ih (some m.stop.offset) m.stop (by omega),
        e.program.matchesFrom_append fuel _ m.stop [m]]
      rfl

theorem contents_eq (h : e.Scanned look value) (s : List Char) :
    contents look s = (e.program.allMatches s).map value := by
  rw [contents, h.findAll_eq he, List.map_map]
  exact map_divide s _ value

theorem replace_eq (h : e.Scanned look value) (fill s : List Char) :
    replace look fill s = e.program.replaceAll fill s := by
  rw [replace, h.findAll_eq he]
  dsimp only
  rw [List.flatMap_map, Program.replaceAll]

end Expr.Scanned

theorem divide_bare (s : List Char) (ms : List Match) :
    divide s (ms.map .bare) =
      ((divide s ms).1.map fun part => (part.1, part.2.bare), (divide s ms).2) := by
  induction ms generalizing s with
  | nil => rfl
  | cons m ms ih =>
    rw [List.map_cons, divide, divide, List.map_cons]
    exact congrArg (fun parts => ((_, m.bare) :: parts.1, parts.2)) (ih m.stop.rest)

theorem Expr.replaceAll_ungrouped (e : Expr) (fill s : List Char) :
    e.ungrouped.program.replaceAll fill s = e.program.replaceAll fill s := by
  rw [Program.replaceAll, Program.replaceAll, e.allMatches_ungrouped, divide_bare]
  dsimp only
  rw [List.flatMap_map]

end SoftFail.Regex
