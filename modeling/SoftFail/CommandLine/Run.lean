import SoftFail.CommandLine.Arguments
import SoftFail.Config.Store
import SoftFail.Detector
import SoftFail.Verdict.Record

/-! What the program does for its arguments. -/

namespace SoftFail.CommandLine

structure Surroundings extends User where
  look : String → Option Entry
  /-- The bytes of the standard input. -/
  input : ByteArray

structure Output where
  code : UInt8
  text : String
  /-- A line for the standard error. -/
  error : Option String
  deriving DecidableEq

namespace Output

def done (text : String) : Output := ⟨0, text, none⟩

def failed (message : String) : Output := ⟨1, "", some ("Error: " ++ message)⟩

end Output

def name : String := "fetchguard"

def usageText : String :=
  "Usage: " ++ name ++ " [--config FILE] check SNAPSHOT [--json] [--skip CHECK]...\n" ++
    "       " ++ name ++ " [--config FILE] config"

def Early.output : Early → Output
  | .usage => ⟨2, "", some usageText⟩
  | .help => .done (usageText ++ "\n")
  | .version => .done (name ++ " 0.1.0\n")

def configOf (w : Surroundings) (path : Option String) : Except String Config := do
  let c ← match path with
    | some path =>
      (Config.loadFrom w.look path).mapError fun _ => "Failed to load config from " ++ path
    | none => (Config.load w.look w.toUser).mapError fun _ => "Failed to load default config"
  return c.withOverrides w.lookup

def textOf (w : Surroundings) (path : String) : Except String String :=
  if path = "-" then
    (Text.Utf8.decode w.input).mapError fun _ => "Failed to read snapshot from stdin"
  else
    let failure := "Failed to read snapshot " ++ path
    match w.look path with
    | some (.file bytes) => (Text.Utf8.decode bytes).mapError fun _ => failure
    | _ => throw failure

def verdictLine : Verdict → String
  | .valid => "valid"
  | .invalid check category reason =>
    "invalid [" ++ category.name ++ "/" ++ check.name ++ "]: " ++ reason

/-- Judges a snapshot. The configuration is found wanting before the snapshot is read. -/
def check (w : Surroundings) (config : Config) (path : String) (json : Bool) (skip : List Check) :
    Except String Output := do
  let d ← (Detector.ofConfig config).mapError fun _ => "Invalid detector configuration"
  let text ← textOf w path
  let s ← (Snapshot.ofJson text).mapError fun _ => "Snapshot is not valid JSON"
  let v := (d.withoutAll skip).evaluate s
  let line := if json then Json.printPretty v.toValue else verdictLine v
  return ⟨if v.isValid then 0 else 2, line ++ "\n", none⟩

def Command.run (w : Surroundings) (c : Command) : Except String Output := do
  let config ← configOf w c.config
  match c.action with
  | .check snapshot json skip => check w config snapshot json skip
  | .config => return .done (← config.toToml.mapError ConfigError.message)

def run (w : Surroundings) (args : List String) : Output :=
  match Command.parse args with
  | .error e => e.output
  | .ok c =>
    match c.run w with
    | .ok o => o
    | .error message => .failed message

def Command.paths (u : User) (c : Command) : List String :=
  (c.config <|> Config.path? u).toList ++
    match c.action with
    | .check snapshot _ _ => if snapshot = "-" then [] else [snapshot]
    | .config => []

end SoftFail.CommandLine
