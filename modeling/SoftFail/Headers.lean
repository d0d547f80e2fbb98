import SoftFail.Text.Lower

/-! Response headers: a finite map from lower-case names to values. The first value given for a
name is kept. -/

namespace SoftFail

/-- Entries in ascending order of their lower-case names. -/
structure Headers where
  entries : List (String × String)
  ascending : entries.Pairwise (·.1 < ·.1)
  lowered : ∀ e ∈ entries, Text.lowerCase e.1 = e.1

namespace Headers

theorem eq_of_entries {h g : Headers} (e : h.entries = g.entries) : h = g := by
  cases h; cases g; cases e; rfl

instance : DecidableEq Headers := fun h g =>
  decidable_of_iff (h.entries = g.entries) ⟨eq_of_entries, fun e => e ▸ rfl⟩

def empty : Headers := ⟨[], .nil, by simp⟩

def place? (name value : String) : List (String × String) → Option (List (String × String))
  | [] => some [(name, value)]
  | e :: rest =>
    if name < e.1 then some ((name, value) :: e :: rest)
    else if name = e.1 then none
    else (place? name value rest).map (e :: ·)

theorem mem_of_place? {name value : String} {es fs : List (String × String)}
    (h : place? name value es = some fs) {e : String × String} (he : e ∈ fs) :
    e = (name, value) ∨ e ∈ es := by
  induction es generalizing fs with
  | nil =>
    simp only [place?, Option.some.injEq] at h
    subst h
    simpa using he
  | cons d es ih =>
    unfold place? at h
    split at h
    · simp only [Option.some.injEq] at h
      subst h
      simpa using he
    · split at h
      · simp at h
      · obtain ⟨gs, hg, rfl⟩ := Option.map_eq_some_iff.1 h
        rcases List.mem_cons.1 he with rfl | he
        · simp
        · rcases ih hg he with h | h <;> simp [h]

theorem ascending_of_place? {name value : String} {es fs : List (String × String)}
    (h : place? name value es = some fs) (hs : es.Pairwise (·.1 < ·.1)) :
    fs.Pairwise (·.1 < ·.1) := by
  induction es generalizing fs with
  | nil =>
    simp only [place?, Option.some.injEq] at h
    subst h
    simp
  | cons d es ih =>
    obtain ⟨hd, hs'⟩ := List.pairwise_cons.1 hs
    unfold place? at h
    split at h
    · rename_i hlt
      simp only [Option.some.injEq] at h
      subst h
      refine List.pairwise_cons.2 ⟨fun e he => ?_, hs⟩
      rcases List.mem_cons.1 he with rfl | he
      · exact hlt
      · exact String.lt_trans hlt (hd e he)
    · rename_i hge
      split at h
      · simp at h
      · rename_i hne
        obtain ⟨gs, hg, rfl⟩ := Option.map_eq_some_iff.1 h
        refine List.pairwise_cons.2 ⟨fun e he => ?_, ih hg hs'⟩
        rcases mem_of_place? hg he with rfl | he
        · exact Decidable.byContradiction fun h =>
            hne (String.le_antisymm (String.not_lt.1 h) (String.not_lt.1 hge))
        · exact hd e he

/-- The headers with one more, or nothing when the name, in whatever letter case, is taken. -/
def insert? (h : Headers) (name value : String) : Option Headers :=
  match e : place? (Text.lowerCase name) value h.entries with
  | none => none
  | some es =>
    some ⟨es, ascending_of_place? e h.ascending, fun d hd => by
      rcases mem_of_place? e hd with rfl | hd
      · exact Text.lowerCase_lowerCase name
      · exact h.lowered d hd⟩

def insert (h : Headers) (name value : String) : Headers := (h.insert? name value).getD h

def get? (h : Headers) (name : String) : Option String := h.entries.lookup (Text.lowerCase name)

def size (h : Headers) : Nat := h.entries.length

def ofList (pairs : List (String × String)) : Headers :=
  pairs.foldl (fun h p => h.insert p.1 p.2) empty

end Headers

/-- A map from exact names to values, in ascending order of the names; the last value given for a
name is kept. -/
structure NameMap where
  entries : List (String × String)

namespace NameMap

def put (name value : String) : List (String × String) → List (String × String)
  | [] => [(name, value)]
  | e :: rest =>
    if name < e.1 then (name, value) :: e :: rest
    else if name = e.1 then (name, value) :: rest
    else e :: put name value rest

def ofList (pairs : List (String × String)) : NameMap :=
  ⟨pairs.foldl (fun es p => put p.1 p.2 es) []⟩

def toHeaders (m : NameMap) : Headers := Headers.ofList m.entries

end NameMap

end SoftFail
