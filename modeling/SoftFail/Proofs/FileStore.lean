import Mathlib.Tactic.SplitIfs
import SoftFail.FileStore

/-! What is found in a file store after folders were made in it or a file was written. -/

namespace SoftFail.FileStore

variable {s s' : FileStore} {at_ p q : Place} {path : String} {bytes : ByteArray}
  {names : List String}

def place (s : FileStore) (path : String) : Place := (parts path).foldl step (s.start path)

theorem isFolder_iff : s.isFolder p = true ↔ s.atPlace? p = some .folder := by
  unfold isFolder
  split <;> simp_all

theorem lookup_filter_ne {files : List (Place × ByteArray)} (h : q ≠ p) :
    (files.filter (·.1 ≠ p)).lookup q = files.lookup q := by
  induction files with
  | nil => rfl
  | cons f files ih =>
    obtain ⟨r, bytes⟩ := f
    by_cases hr : r = p
    · rw [List.filter_cons_of_neg (by simpa using hr), ih, List.lookup_cons,
        beq_false_of_ne (hr ▸ h)]
    · rw [List.filter_cons_of_pos (by simpa using hr), List.lookup_cons, List.lookup_cons, ih]

theorem atPlace?_putFile (s : FileStore) (p : Place) (bytes : ByteArray) :
    (s.putFile p bytes).atPlace? p = some (.file bytes) := by
  simp [atPlace?, putFile]

theorem atPlace?_putFile_of_ne (h : q ≠ p) : (s.putFile p bytes).atPlace? q = s.atPlace? q := by
  have hlookup : (s.putFile p bytes).files.lookup q = s.files.lookup q := by
    rw [putFile, List.lookup_cons, beq_false_of_ne h]
    exact lookup_filter_ne h
  rw [atPlace?, atPlace?, hlookup]
  rfl

/-! Following paths. -/

theorem follow?_eq_some_iff : s.follow? at_ names = some p ↔ p = names.foldl step at_ ∧
    ∀ front name back, names = front ++ name :: back →
      s.isFolder (front.foldl step at_) = true := by
  induction names generalizing at_ with
  | nil => simp [follow?, @eq_comm _ p]
  | cons name names ih =>
    simp only [follow?, Option.ite_none_right_eq_some, ih, List.foldl_cons]
    constructor
    · rintro ⟨hfolder, rfl, hway⟩
      refine ⟨rfl, fun front name' back hnames => ?_⟩
      cases front with
      | nil => exact hfolder
      | cons first front =>
        obtain ⟨rfl, hrest⟩ := List.cons.inj hnames
        exact hway front name' back hrest
    · rintro ⟨rfl, hway⟩
      refine ⟨hway [] name names rfl, rfl, fun front name' back hnames => ?_⟩
      exact hway (name :: front) name' back (by rw [hnames, List.cons_append])

theorem follow?_mono (h : s.follow? at_ names = some p)
    (hfolders : ∀ q, s.isFolder q = true → s'.isFolder q = true) :
    s'.follow? at_ names = some p := by
  rw [follow?_eq_some_iff] at h ⊢
  exact ⟨h.1, fun front name back hnames => hfolders _ (h.2 front name back hnames)⟩

theorem look_eq_some_iff {entry : Entry} : s.look path = some entry ↔
    path ≠ "" ∧ s.follow? (s.start path) (parts path) = some (s.place path) ∧
      s.atPlace? (s.place path) = some entry ∧ (entry ≠ .folder → endsInFolder path = false) := by
  by_cases hpath : path = ""
  · simp [look, hpath]
  · rw [look, if_neg hpath]
    simp only [Option.bind_eq_bind, Option.bind_eq_some_iff]
    constructor
    · rintro ⟨p, hp, found, hfound, hentry⟩
      obtain rfl : p = s.place path := (follow?_eq_some_iff.1 hp).1
      refine ⟨hpath, hp, ?_⟩
      cases found with
      | folder =>
        cases hentry
        exact ⟨hfound, fun hne => absurd rfl hne⟩
      | file bytes =>
        obtain ⟨hends, hentry⟩ := Option.ite_none_left_eq_some.1 hentry
        cases hentry
        exact ⟨hfound, fun _ => Bool.eq_false_iff.2 hends⟩
    · rintro ⟨-, hp, hentry, hends⟩
      refine ⟨_, hp, entry, hentry, ?_⟩
      cases entry with
      | folder => rfl
      | file bytes => exact if_neg (by simp [hends])

def OnTheWay (s : FileStore) (path : String) (p : Place) : Prop :=
  ∃ front back, parts path = front ++ back ∧ p = front.foldl step (s.start path)

theorem atPlace?_addFolder (h : s.atPlace? p = none) (q : Place) :
    { s with folders := p :: s.folders }.atPlace? q =
      if q = p then some .folder else s.atPlace? q := by
  have hfile : s.files.lookup p = none := by
    unfold atPlace? at h
    split at h
    · cases h
    · assumption
  split_ifs with hq
  · simp [atPlace?, hq, hfile]
  · simp [atPlace?, hq]

theorem makeFoldersFrom_spec (s : FileStore) (at_ : Place) (names : List String) :
    (s.makeFoldersFrom at_ names).1.here = s.here ∧
    ∀ p, (s.makeFoldersFrom at_ names).1.atPlace? p = s.atPlace? p ∨
      s.atPlace? p = none ∧ (s.makeFoldersFrom at_ names).1.atPlace? p = some .folder ∧
        ∃ front back, names = front ++ back ∧ p = front.foldl step at_ := by
  induction names generalizing s at_ with
  | nil => exact ⟨rfl, fun _ => .inl rfl⟩
  | cons name names ih =>
    have hway {p : Place} :
        (∃ front back, names = front ++ back ∧ p = front.foldl step (step at_ name)) →
        ∃ front back, name :: names = front ++ back ∧ p = front.foldl step at_ := by
      rintro ⟨front, back, rfl, hp⟩
      exact ⟨name :: front, back, rfl, hp⟩
    rw [makeFoldersFrom]
    split
    · obtain ⟨hhere, hplaces⟩ := ih s (step at_ name)
      exact ⟨hhere, fun p => (hplaces p).imp_right (And.imp_right (And.imp_right hway))⟩
    · exact ⟨rfl, fun _ => .inl rfl⟩
    next hnew =>
      split_ifs
      · obtain ⟨hhere, hplaces⟩ :=
          ih { s with folders := step at_ name :: s.folders } (step at_ name)
        refine ⟨hhere, fun p => ?_⟩
        have hplace := hplaces p
        rw [atPlace?_addFolder hnew] at hplace
        split_ifs at hplace with hp
        · -- The folder that was just made.
          refine .inr ⟨hp ▸ hnew, ?_, [name], names, rfl, hp⟩
          exact hplace.elim id fun h => h.2.1
        · exact hplace.imp_right (And.imp_right (And.imp_right hway))
      · exact ⟨rfl, fun _ => .inl rfl⟩

/-- What was found at a place is still found there, or nothing was and it is a folder now, one of
those that the file at the path needs. -/
def Kept (s s' : FileStore) (path : String) (p : Place) : Prop :=
  s'.atPlace? p = s.atPlace? p ∨ s.atPlace? p = none ∧ s'.atPlace? p = some .folder ∧
    ∃ folder, parent? path = some folder ∧ s.OnTheWay folder p

theorem kept_makeFolders {folder : String} (h : parent? path = some folder) (p : Place) :
    s.Kept (s.makeFolders folder).1 path p :=
  ((makeFoldersFrom_spec s (s.start folder) (parts folder)).2 p).imp_right
    (And.imp_right (And.imp_right fun hway => ⟨folder, h, hway⟩))

theorem here_makeFolders (s : FileStore) (folder : String) :
    (s.makeFolders folder).1.here = s.here :=
  (makeFoldersFrom_spec s (s.start folder) (parts folder)).1

theorem Kept.atPlace?_eq {entry : Entry} (h : s.Kept s' path p)
    (hentry : s.atPlace? p = some entry) :
    s'.atPlace? p = some entry := by
  rcases h with h | ⟨hnone, -⟩
  · rw [h, hentry]
  · rw [hnone] at hentry
    cases hentry

theorem Kept.file_iff (h : s.Kept s' path p) :
    s'.atPlace? p = some (.file bytes) ↔ s.atPlace? p = some (.file bytes) := by
  rcases h with h | ⟨hnone, hfolder, -⟩
  · rw [h]
  · rw [hnone, hfolder]
    simp

/-! Writing files. -/

theorem write?_eq_some {new : FileStore} (h : s.write? path bytes = some new) :
    (path ≠ "" ∧ endsInFolder path = false) ∧
      s.follow? (s.start path) (parts path) = some (s.place path) ∧
      s.isFolder (s.place path) = false ∧ new = s.putFile (s.place path) bytes := by
  unfold write? at h
  obtain ⟨hpath, h⟩ := Option.ite_none_left_eq_some.1 h
  simp only [Option.bind_eq_bind, Option.bind_eq_some_iff, Option.ite_none_right_eq_some] at h
  obtain ⟨p, hp, name, -, hfree, hnew⟩ := h
  obtain rfl : p = s.place path := (follow?_eq_some_iff.1 hp).1
  simp only [Bool.and_eq_true, Bool.not_eq_true'] at hfree
  simp only [Bool.or_eq_true, decide_eq_true_eq, not_or, Bool.not_eq_true] at hpath
  exact ⟨hpath, hp, hfree.2, (Option.some.inj hnew).symm⟩

theorem isFolder_putFile (h : s.isFolder p = false) (hq : s.isFolder q = true) :
    (s.putFile p bytes).isFolder q = true := by
  have hne : q ≠ p := by
    rintro rfl
    rw [h] at hq
    cases hq
  rw [isFolder_iff] at hq ⊢
  rw [atPlace?_putFile_of_ne hne, hq]

theorem look_of_write? {new : FileStore} (h : s.write? path bytes = some new) :
    new.look path = some (.file bytes) := by
  obtain ⟨⟨hpath, hends⟩, hway, hfree, rfl⟩ := write?_eq_some h
  rw [look_eq_some_iff]
  refine ⟨hpath, ?_, atPlace?_putFile _ _ _, fun _ => hends⟩
  exact follow?_mono hway fun q hq => isFolder_putFile hfree hq

end SoftFail.FileStore
