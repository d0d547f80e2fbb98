import SoftFail.Config.File
import SoftFail.Config.Overrides
import SoftFail.FileStore
import SoftFail.Text.Utf8

/-! Where configurations are kept, loading and saving them. -/

namespace SoftFail

/-- The user who runs the program, by the variables that are set and the home folder of the
account. -/
structure User where
  lookup : String → Option String
  home : Option String

/-- Variables alone are those of a user without an account. -/
instance : Coe (String → Option String) User := ⟨fun lookup => ⟨lookup, none⟩⟩

def User.home? (u : User) : Option String :=
  ((u.lookup "HOME").filter (· ≠ "")).orElse fun _ => u.home.filter (· ≠ "")

namespace Config

/-- The path of the default configuration file. Without a home folder there is none, whatever else
the variables name. -/
def path? (u : User) : Option String :=
  let folder := (u.lookup "XDG_CONFIG_HOME").filter FileStore.isAbsolute
  u.home?.map fun home => folder.getD (home ++ "/.config") ++ "/fetchguard/detector.toml"

def loadFrom (look : String → Option Entry) (path : String) : Except ConfigError Config :=
  match look path with
  | none => .error (.notFound path)
  | some .folder => .error .io
  | some (.file bytes) =>
    match Text.Utf8.decode bytes with
    | .ok text => ofToml text
    | .error _ => .error .io

/-- Loads the default file. Without one, all options keep their defaults. -/
def load (look : String → Option Entry) (u : User) : Except ConfigError Config :=
  match path? u with
  | none => .error .noDirectory
  | some path => if (look path).isSome then loadFrom look path else .ok {}

def loadWithOverrides (look : String → Option Entry) (u : User) : Except ConfigError Config :=
  (load look u).map fun c => c.withOverrides u.lookup

/-- Saves to a path, and makes the folders it needs, which remain when the rest fails. -/
def save (c : Config) (s : FileStore) (path : String) : FileStore × Except ConfigError Unit :=
  match FileStore.parent? path with
  | none => (s, .error .noParent)
  | some folder =>
    match s.makeFolders folder with
    | (s, false) => (s, .error .io)
    | (s, true) =>
      match c.toToml with
      | .error e => (s, .error e)
      | .ok text =>
        match s.write? path text.toUTF8 with
        | some s => (s, .ok ())
        | none => (s, .error .io)

end Config

end SoftFail
