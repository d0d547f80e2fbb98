import SoftFail.Check.Basic

/-! The arguments of the program, read from left to right. -/

namespace SoftFail.CommandLine

inductive Action where
  /-- Judges a snapshot. -/
  | check (snapshot : String) (json : Bool) (skip : List Check)
  /-- Prints the configuration. -/
  | config

structure Command where
  /-- The path of a configuration file. -/
  config : Option String
  action : Action

inductive Early where
  | usage
  | help
  | version
  deriving DecidableEq

inductive Verb where
  | check
  | config
  deriving DecidableEq

inductive Setting where
  | config
  | skip
  deriving DecidableEq

structure Draft where
  verb : Option Verb := none
  /-- The option that waits for its value. -/
  pending : Option Setting := none
  /-- Whether options have ended. -/
  closed : Bool := false
  /-- Configuration files named in front of the verb and behind it. -/
  outer : Option String := none
  inner : Option String := none
  snapshot : Option String := none
  json : Bool := false
  skip : List Check := []

inductive Form where
  | separator
  | long (name : String) (value : Option String)
  | short (letter : Char)
  | plain

/-- A single dash is no option. -/
def Form.of (arg : String) : Form :=
  match arg.toList with
  | ['-', '-'] => .separator
  | '-' :: '-' :: s =>
    match s.dropWhile (· ≠ '=') with
    | _ :: value => .long (String.ofList (s.takeWhile (· ≠ '='))) (some (String.ofList value))
    | [] => .long (String.ofList s) none
  | '-' :: c :: _ => .short c
  | _ => .plain

namespace Draft

/-- Gives an option its value. A file has a name, and is named once in front of the verb and once
behind it; every check has a name. -/
def set (d : Draft) (value : String) : Setting → Except Early Draft
  | .config =>
    let taken := if d.verb.isSome then d.inner else d.outer
    if value = "" || taken.isSome then throw .usage
    else if d.verb.isSome then return { d with pending := none, inner := some value }
    else return { d with pending := none, outer := some value }
  | .skip =>
    match Check.ofName? value with
    | some c => return { d with pending := none, skip := d.skip ++ [c] }
    | none => throw .usage

def setting (d : Draft) (o : Setting) : Option String → Except Early Draft
  | some value => d.set value o
  | none => return { d with pending := some o }

def long (d : Draft) (name : String) (value : Option String) : Except Early Draft :=
  match d.verb, name, value with
  | _, "config", value => d.setting .config value
  | some .check, "skip", value => d.setting .skip value
  | some .check, "json", none => if d.json then throw .usage else return { d with json := true }
  | none, "version", none => throw .version
  | _, "help", none => throw .help
  | _, _, _ => throw .usage

def short (d : Draft) (letter : Char) : Except Early Draft :=
  match d.verb, letter with
  | _, 'h' => throw .help
  | none, 'V' => throw .version
  | _, _ => throw .usage

def plain (d : Draft) (arg : String) : Except Early Draft :=
  match d.verb with
  | none =>
    if d.closed then throw .usage
    else match arg with
    | "check" => return { d with verb := some .check }
    | "config" => return { d with verb := some .config }
    | "help" => throw .help
    | _ => throw .usage
  | some .check =>
    if arg = "" || d.snapshot.isSome then throw .usage else return { d with snapshot := some arg }
  | some .config => throw .usage

def step (d : Draft) (arg : String) : Except Early Draft :=
  if d.closed then d.plain arg
  else match d.pending, Form.of arg with
  | some o, .plain => d.set arg o
  | some _, _ => throw .usage
  | none, .separator => return { d with closed := true }
  | none, .long name value => d.long name value
  | none, .short letter => d.short letter
  | none, .plain => d.plain arg

def finish (d : Draft) : Except Early Command :=
  let config := d.inner <|> d.outer
  match d.pending, d.verb, d.snapshot with
  | none, some .check, some snapshot => return ⟨config, .check snapshot d.json d.skip⟩
  | none, some .config, _ => return ⟨config, .config⟩
  | _, _, _ => throw .usage

end Draft

def Command.parse (args : List String) : Except Early Command := do
  (← args.foldlM Draft.step {}).finish

end SoftFail.CommandLine
