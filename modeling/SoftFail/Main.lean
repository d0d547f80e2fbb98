import SoftFail.CommandLine.Run

/-! The program: it collects what a run can see, and prints what the run puts out. -/

namespace SoftFail.CommandLine

def variableNames : List String :=
  ["HOME", "XDG_CONFIG_HOME", "FETCHGUARD_MIN_CONTENT_LENGTH", "FETCHGUARD_MAX_CONTENT_LENGTH",
    "FETCHGUARD_EXPECTED_CONTENT_TYPE", "FETCHGUARD_CHECK_JS_RENDERING",
    "FETCHGUARD_MIN_TEXT_RATIO"]

/-- What cannot be reached is not there, and what can be reached but not read has no content. -/
def lookAt (path : String) : IO (Option Entry) := do
  try discard (IO.FS.realPath path) catch _ => return none
  try return some (.file (← IO.FS.readBinFile path)) catch _ => return some .folder

def userNumber? (status : String) : Option String :=
  (status.splitOn "\n").findSome? fun line =>
    match line.splitOn "\t" with
    | "Uid:" :: number :: _ => some number
    | _ => none

def homeOf? (accounts number : String) : Option String :=
  (accounts.splitOn "\n").findSome? fun line =>
    match line.splitOn ":" with
    | _ :: _ :: n :: _ :: _ :: home :: _ => if n = number then some home else none
    | _ => none

def accountHome : IO (Option String) := do
  try
    let some number := userNumber? (← IO.FS.readFile "/proc/self/status") | return none
    return homeOf? (← IO.FS.readFile "/etc/passwd") number
  catch _ => return none

def standardInput : IO ByteArray := do (← IO.getStdin).readBinToEnd

def surroundings (args : List String) : IO Surroundings := do
  let set ← variableNames.filterMapM fun name => do
    return (← IO.getEnv name).map fun value => (name, value)
  let user : User := ⟨fun name => set.lookup name, ← accountHome⟩
  match Command.parse args with
  | .error _ => return ⟨user, fun _ => none, .empty⟩
  | .ok c =>
    let found ← (c.paths user).mapM fun path => return (path, ← lookAt path)
    let input ← match c.action with
      | .check "-" _ _ => standardInput
      | _ => pure .empty
    return ⟨user, fun path => (found.lookup path).join, input⟩

end SoftFail.CommandLine

open SoftFail.CommandLine in
def main (args : List String) : IO UInt32 := do
  let o := run (← surroundings args) args
  IO.print o.text
  if let some line := o.error then IO.eprintln line
  return o.code.toUInt32
