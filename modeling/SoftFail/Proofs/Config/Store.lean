import SoftFail.Config.Store
import SoftFail.Proofs.FileStore

/-! Saving configurations changes one file or none, and the defaults only stand in for a file that
is not there. -/

namespace SoftFail

namespace Text.Utf8

end Text.Utf8

namespace Config

open FileStore

variable {c : Config} {s s' : FileStore} {path : String} {e : ConfigError} {p : Place}
  {bytes : ByteArray}

inductive Saves (c : Config) (s : FileStore) (path : String) :
    FileStore → Except ConfigError Unit → Prop where
  | noParent (h : parent? path = none) : Saves c s path s (.error .noParent)
  | noFolders {folder : String} {made : FileStore} (h : parent? path = some folder)
      (hmade : s.makeFolders folder = (made, false)) : Saves c s path made (.error .io)
  | unprinted {folder : String} {made : FileStore} {e : ConfigError}
      (h : parent? path = some folder) (hmade : s.makeFolders folder = (made, true))
      (htext : c.toToml = .error e) :
      Saves c s path made (.error e)
  | refused {folder text : String} {made : FileStore} (h : parent? path = some folder)
      (hmade : s.makeFolders folder = (made, true)) (htext : c.toToml = .ok text)
      (hwrite : made.write? path text.toUTF8 = none) : Saves c s path made (.error .io)
  | written {folder text : String} {made new : FileStore} (h : parent? path = some folder)
      (hmade : s.makeFolders folder = (made, true)) (htext : c.toToml = .ok text)
      (hwrite : made.write? path text.toUTF8 = some new) : Saves c s path new (.ok ())

theorem saves_of_save {result : Except ConfigError Unit} (hsave : c.save s path = (s', result)) :
    Saves c s path s' result := by
  unfold save at hsave
  split at hsave
  next h =>
    cases hsave
    exact .noParent h
  next folder h =>
    -- Outcomes are named before their cases are told apart, and none is computed.
    generalize hmade : s.makeFolders folder = outcome at hsave
    obtain ⟨made, _ | _⟩ := outcome
    · cases hsave
      exact .noFolders h hmade
    generalize htext : c.toToml = printed at hsave
    obtain e | text := printed
    · cases hsave
      exact .unprinted h hmade htext
    dsimp only at hsave
    generalize hwrite : made.write? path text.toUTF8 = new? at hsave
    obtain _ | new := new?
    · cases hsave
      exact .refused h hmade htext hwrite
    · cases hsave
      exact .written h hmade htext hwrite

/-- A failure makes folders at most. -/
theorem Saves.kept_of_error (h : Saves c s path s' (.error e)) :
    s'.here = s.here ∧ ∀ p, s.Kept s' path p := by
  have hmade {folder : String} {made : FileStore} {ok : Bool} (h : parent? path = some folder)
      (hmade : s.makeFolders folder = (made, ok)) :
      made.here = s.here ∧ ∀ p, s.Kept made path p := by
    have hkept := kept_makeFolders (s := s) h
    have hhere := here_makeFolders s folder
    rw [hmade] at hkept hhere
    exact ⟨hhere, hkept⟩
  cases h with
  | noParent => exact ⟨rfl, fun _ => .inl rfl⟩
  | noFolders h hfolders | unprinted h hfolders | refused h hfolders => exact hmade h hfolders

theorem Saves.written_of_ok (h : Saves c s path s' (.ok ())) :
    ∃ text, c.toToml = .ok text ∧ s'.here = s.here ∧
      s'.look path = some (.file text.toUTF8) ∧
      s'.atPlace? (s.place path) = some (.file text.toUTF8) ∧
      s.isFolder (s.place path) = false ∧ ∀ p ≠ s.place path, s.Kept s' path p := by
  cases h with
  | @written folder text made _ h hmade htext hwrite =>
    have hkept := kept_makeFolders (s := s) h
    have hhere := here_makeFolders s folder
    rw [hmade] at hkept hhere
    have hplace : made.place path = s.place path := by
      rw [FileStore.place, FileStore.place, start, start, hhere]
    have hlook := look_of_write? hwrite
    obtain ⟨-, -, hfree, rfl⟩ := write?_eq_some hwrite
    rw [hplace] at hfree hlook ⊢
    refine ⟨text, htext, hhere, hlook, atPlace?_putFile _ _ _, ?_, fun p hp => ?_⟩
    · refine Bool.eq_false_iff.2 fun hfolder => ?_
      rw [isFolder_iff.2 ((hkept _).atPlace?_eq (isFolder_iff.1 hfolder))] at hfree
      cases hfree
    · rw [Kept, atPlace?_putFile_of_ne hp]
      exact hkept p

/-- One saving after the other, none of which the file system refuses. -/
inductive Saved : FileStore → List (Config × String) → FileStore → Prop where
  | nil (s : FileStore) : Saved s [] s
  | cons {c : Config} {s s' : FileStore} {path : String} {saves : List (Config × String)}
      (h : (c.save s path).2 ≠ .error .io) (hs : Saved (c.save s path).1 saves s') :
      Saved s ((c, path) :: saves) s'

theorem file_of_save (h : (c.save s path).1.atPlace? p = some (.file bytes)) :
    s.atPlace? p = some (.file bytes) ∨
      s.place path = p ∧ ∃ text, c.toToml = .ok text ∧ bytes = text.toUTF8 := by
  generalize hsave : c.save s path = saved at h
  obtain ⟨s', e | ⟨⟨⟩⟩⟩ := saved
  · exact .inl (((saves_of_save hsave).kept_of_error.2 p).file_iff.1 h)
  · obtain ⟨text, htext, -, -, hfile, -, hkept⟩ := (saves_of_save hsave).written_of_ok
    by_cases hp : p = s.place path
    · rw [hp, hfile] at h
      cases h
      exact .inr ⟨hp.symm, text, htext, rfl⟩
    · exact .inl ((hkept p hp).file_iff.1 h)

theorem here_of_save (c : Config) (s : FileStore) (path : String) :
    (c.save s path).1.here = s.here := by
  generalize hsave : c.save s path = saved
  obtain ⟨s', e | ⟨⟨⟩⟩⟩ := saved
  · exact (saves_of_save hsave).kept_of_error.1
  · obtain ⟨_, _, hhere, _⟩ := (saves_of_save hsave).written_of_ok
    exact hhere

/-- However often configurations are saved, a file is as it was found or holds all of one that was
saved there. -/
theorem Saved.file {saves : List (Config × String)} (h : Saved s saves s')
    (hfile : s'.atPlace? p = some (.file bytes)) : s.atPlace? p = some (.file bytes) ∨
      ∃ saved ∈ saves, s.place saved.2 = p ∧
        ∃ text, saved.1.toToml = .ok text ∧ bytes = text.toUTF8 := by
  induction h with
  | nil => exact .inl hfile
  | @cons c s s' path saves _ _ ih =>
    rcases ih hfile with hbefore | ⟨saved, hsaved, hplace, htext⟩
    · exact (file_of_save hbefore).imp_right fun htext => ⟨_, List.mem_cons_self, htext⟩
    · refine .inr ⟨saved, List.mem_cons_of_mem _ hsaved, ?_, htext⟩
      rwa [FileStore.place, start, here_of_save] at hplace

/-! Loading. -/

variable {look : String → Option Entry} {u : User}

theorem loadFrom_eq_ok_iff : loadFrom look path = .ok c ↔ ∃ bytes text,
    look path = some (.file bytes) ∧ Text.Utf8.decode bytes = .ok text ∧ ofToml text = .ok c := by
  unfold loadFrom
  cases look path with
  | none => simp
  | some entry =>
    cases entry with
    | folder => simp
    | file bytes => cases hd : Text.Utf8.decode bytes <;> simp [hd]

theorem load_eq_ok_iff : load look u = .ok c ↔ ∃ path, path? u = some path ∧
    (loadFrom look path = .ok c ∨ look path = none ∧ c = {}) := by
  unfold load
  cases path? u with
  | none => simp
  | some path =>
    cases hl : look path with
    | none => simp [loadFrom, hl, eq_comm]
    | some entry => simp [hl]

end Config

end SoftFail
