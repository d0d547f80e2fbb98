/-! A file system in memory: folders, files and the folder that relative paths start from. -/

namespace SoftFail

inductive Entry where
  | file (bytes : ByteArray)
  /-- A folder, or anything else that has no content to read. -/
  | folder

abbrev Place := List String

structure FileStore where
  here : Place
  /-- Folders besides the root. -/
  folders : List Place
  files : List (Place × ByteArray)

namespace FileStore

def empty (here : Place) : FileStore :=
  ⟨here, (List.range here.length).map fun n => here.take (n + 1), []⟩

def atPlace? (s : FileStore) (p : Place) : Option Entry :=
  match s.files.lookup p with
  | some bytes => some (.file bytes)
  | none => if p.isEmpty || s.folders.contains p then some .folder else none

def isFolder (s : FileStore) (p : Place) : Bool :=
  match s.atPlace? p with
  | some .folder => true
  | _ => false

def isAbsolute (path : String) : Bool := path.toList.head? = some '/'

def parts (path : String) : List String := (path.splitOn "/").filter (· ≠ "")

def start (s : FileStore) (path : String) : Place := if isAbsolute path then [] else s.here

def step (at_ : Place) (part : String) : Place :=
  if part = "." then at_ else if part = ".." then at_.dropLast else at_ ++ [part]

def follow? (s : FileStore) (at_ : Place) : List String → Option Place
  | [] => some at_
  | part :: parts => if s.isFolder at_ then s.follow? (step at_ part) parts else none

/-- Whether a path can only be the path of a folder. -/
def endsInFolder (path : String) : Bool :=
  ["", ".", ".."].contains ((path.splitOn "/").getLastD "")

def look (s : FileStore) (path : String) : Option Entry :=
  if path = "" then none
  else do
    let p ← s.follow? (s.start path) (parts path)
    match ← s.atPlace? p with
    | .folder => some .folder
    | .file bytes => if endsInFolder path then none else some (.file bytes)

/-- Whether a file system takes a name: up to 255 bytes, none of them zero. -/
def isName (name : String) : Bool := name.utf8ByteSize ≤ 255 && !name.toList.contains '\x00'

def makeFoldersFrom (s : FileStore) (at_ : Place) : List String → FileStore × Bool
  | [] => (s, true)
  | part :: parts =>
    let p := step at_ part
    match s.atPlace? p with
    | some .folder => s.makeFoldersFrom p parts
    | some (.file _) => (s, false)
    | none =>
      if isName part then makeFoldersFrom { s with folders := p :: s.folders } p parts
      else (s, false)

def makeFolders (s : FileStore) (path : String) : FileStore × Bool :=
  s.makeFoldersFrom (s.start path) (parts path)

def putFile (s : FileStore) (p : Place) (bytes : ByteArray) : FileStore :=
  { s with files := (p, bytes) :: s.files.filter (·.1 ≠ p) }

def write? (s : FileStore) (path : String) (bytes : ByteArray) : Option FileStore := do
  if path = "" || endsInFolder path then none
  else
    let p ← s.follow? (s.start path) (parts path)
    let name ← p.getLast?
    if isName name && s.isFolder p.dropLast && !s.isFolder p then some (s.putFile p bytes)
    else none

/-- The path of the folder that a file belongs in. The root and the empty path have none. -/
def parent? (path : String) : Option String :=
  let names := (parts path).zipIdx.filter fun (part, i) =>
    part ≠ "." || (i = 0 && !isAbsolute path)
  let root := if isAbsolute path then "/" else ""
  if names.isEmpty then none
  else some (root ++ "/".intercalate (names.dropLast.map (·.1)))

end FileStore

end SoftFail
