import SoftFail.CommandLine.Run
import SoftFail.Proofs.Config.Store
import SoftFail.Proofs.Detector.FirstFailure
import SoftFail.Proofs.Snapshot.Replay
import SoftFail.Proofs.Verdict.Replay

/-! The answer to a check is the verdict of a detector on a snapshot. Where there is none, it is the
first thing that is in the way: the configuration in force, the detector or the snapshot. -/

namespace SoftFail.CommandLine

open Text.Utf8

/-! Arguments for every check. -/

def arguments (config : Option String) (snapshot : String) (json : Bool) (skip : List Check) :
    List String :=
  (config.map fun path => "--config=" ++ path).toList ++ (["check"] ++
    ((if json then ["--json"] else []) ++ (skip.map (fun c => "--skip=" ++ c.name) ++
      ["--", snapshot])))

theorem Form.of_config (path : String) :
    Form.of ("--config=" ++ path) = .long "config" (some path) := by
  have hprefix : "--config=".toList = ['-', '-', 'c', 'o', 'n', 'f', 'i', 'g', '='] := rfl
  rw [Form.of, String.toList_append, hprefix]
  simp [List.dropWhile, List.takeWhile]

theorem Form.of_skip (name : String) :
    Form.of ("--skip=" ++ name) = .long "skip" (some name) := by
  have hprefix : "--skip=".toList = ['-', '-', 's', 'k', 'i', 'p', '='] := rfl
  rw [Form.of, String.toList_append, hprefix]
  simp [List.dropWhile, List.takeWhile]

namespace Draft

theorem foldlM_config {config : Option String} (h : config ≠ some "") :
    (config.map fun path => "--config=" ++ path).toList.foldlM step {} =
      .ok { outer := config } := by
  cases config with
  | none => rfl
  | some path =>
    have hpath : path ≠ "" := fun hpath => h (congrArg some hpath)
    have hstep : step {} ("--config=" ++ path) = .ok { outer := some path } := by
      simp [step, Form.of_config, long, setting, set, hpath]
      rfl
    rw [Option.map_some, Option.toList_some, List.foldlM_cons, hstep]
    rfl

theorem foldlM_skip {d : Draft} (hverb : d.verb = some .check) (hpending : d.pending = none)
    (hclosed : d.closed = false) (skip : List Check) :
    (skip.map fun c => "--skip=" ++ c.name).foldlM step d =
      .ok { d with skip := d.skip ++ skip } := by
  induction skip generalizing d with
  | nil => simp [pure, Except.pure]
  | cons c skip ih =>
    have hstep : step d ("--skip=" ++ c.name) = .ok { d with skip := d.skip ++ [c] } := by
      simp [step, Form.of_skip, long, setting, set, hverb, hpending, hclosed, Check.ofName?_name]
      rfl
    have hrest := @ih { d with skip := d.skip ++ [c] } hverb hpending hclosed
    rw [List.append_assoc, List.singleton_append] at hrest
    rw [List.map_cons, List.foldlM_cons, hstep]
    exact hrest

end Draft

theorem Draft.foldlM_append {d e : Draft} {front : List String}
    (h : front.foldlM step d = .ok e) (back : List String) :
    (front ++ back).foldlM step d = back.foldlM step e := by
  rw [List.foldlM_append, h]
  rfl

theorem Command.parse_arguments {config : Option String} {snapshot : String}
    (hconfig : config ≠ some "") (hsnapshot : snapshot ≠ "") (json : Bool) (skip : List Check) :
    Command.parse (arguments config snapshot json skip) =
      .ok ⟨config, .check snapshot json skip⟩ := by
  have hverb : ["check"].foldlM Draft.step { outer := config } =
      .ok { outer := config, verb := some .check } := rfl
  have hjson : (if json then ["--json"] else []).foldlM Draft.step
      { outer := config, verb := some .check } =
      .ok { outer := config, verb := some .check, json := json } := by
    cases json <;> rfl
  have hskip := Draft.foldlM_skip (d := { outer := config, verb := some .check, json := json })
    rfl rfl rfl skip
  rw [parse, arguments, Draft.foldlM_append (Draft.foldlM_config hconfig),
    Draft.foldlM_append hverb, Draft.foldlM_append hjson, Draft.foldlM_append hskip]
  simp [List.foldlM, Draft.step, Form.of, Draft.plain, hsnapshot, bind, Except.bind, pure,
    Except.pure, Draft.finish]

/-! What a path leads to, and the configuration in force. -/

inductive Holds (w : Surroundings) : String → String → Prop where
  | input {text : String} (htext : decode w.input = .ok text) : Holds w "-" text
  | file {path text : String} {bytes : ByteArray} (hpath : path ≠ "-")
      (hfile : w.look path = some (.file bytes)) (htext : decode bytes = .ok text) :
      Holds w path text

def Sets (w : Surroundings) (path : String) (c : Config) : Prop :=
  ∃ bytes text, w.look path = some (.file bytes) ∧ decode bytes = .ok text ∧
    Config.ofToml text = .ok c

/-- The configuration in force, where a file may be named. Only the default file may be missing. -/
inductive InForce (w : Surroundings) : Option String → Config → Prop where
  | named {path : String} {c : Config} (hfile : Sets w path c) :
      InForce w (some path) (c.withOverrides w.lookup)
  | found {path : String} {c : Config} (hpath : Config.path? w.toUser = some path)
      (hfile : Sets w path c) : InForce w none (c.withOverrides w.lookup)
  | defaults {path : String} (hpath : Config.path? w.toUser = some path)
      (hfile : w.look path = none) : InForce w none (Config.withOverrides {} w.lookup)

variable {w : Surroundings}

theorem mapError_eq_ok_iff {ε ε' α : Type} {f : ε → ε'} {x : Except ε α} {a : α} :
    x.mapError f = .ok a ↔ x = .ok a := by
  cases x <;> simp [Except.mapError]

theorem eq_of_mapError {ε ε' α : Type} {e e' : ε'} {x : Except ε α}
    (h : (x.mapError fun _ => e) = .error e') : e' = e := by
  cases x with
  | error _ => exact (Except.error.inj h).symm
  | ok a => cases h

theorem textOf_eq_ok_iff {path text : String} : textOf w path = .ok text ↔ Holds w path text := by
  constructor
  · intro h
    unfold textOf at h
    split at h
    next hpath => exact hpath ▸ .input (mapError_eq_ok_iff.1 h)
    next hpath =>
      dsimp only at h
      split at h
      next bytes hfile => exact .file hpath hfile (mapError_eq_ok_iff.1 h)
      next => cases h
  · rintro (htext | ⟨hpath, hfile, htext⟩)
    · rw [textOf, if_pos rfl, mapError_eq_ok_iff]
      exact htext
    · rw [textOf, if_neg hpath]
      simp only [hfile]
      exact mapError_eq_ok_iff.2 htext

def unreadable (path : String) : String :=
  if path = "-" then "Failed to read snapshot from stdin" else "Failed to read snapshot " ++ path

theorem textOf_error {path message : String} (h : textOf w path = .error message) :
    message = unreadable path := by
  unfold textOf at h
  unfold unreadable
  split at h
  next hpath => rw [if_pos hpath, eq_of_mapError h]
  next hpath =>
    rw [if_neg hpath]
    dsimp only at h
    split at h
    next => exact eq_of_mapError h
    next => exact (Except.error.inj h).symm

theorem loadFrom_eq_ok_iff {path : String} {c : Config} :
    Config.loadFrom w.look path = .ok c ↔ Sets w path c :=
  Config.loadFrom_eq_ok_iff

theorem load_eq_ok_iff {c : Config} :
    Config.load w.look w.toUser = .ok c ↔ ∃ path, Config.path? w.toUser = some path ∧
      (Sets w path c ∨ w.look path = none ∧ c = {}) := by
  simp only [Config.load_eq_ok_iff, ← loadFrom_eq_ok_iff]

def source (w : Surroundings) : Option String → Except ConfigError Config
  | some path => Config.loadFrom w.look path
  | none => Config.load w.look w.toUser

def unloaded : Option String → String
  | some path => "Failed to load config from " ++ path
  | none => "Failed to load default config"

theorem configOf_eq (w : Surroundings) (path : Option String) :
    configOf w path =
      ((source w path).map (·.withOverrides w.lookup)).mapError fun _ => unloaded path := by
  cases path with
  | none =>
    rw [configOf, source]
    cases Config.load w.look w.toUser <;> rfl
  | some path =>
    rw [configOf, source]
    cases Config.loadFrom w.look path <;> rfl

theorem configOf_eq_ok_iff {path : Option String} {c : Config} :
    configOf w path = .ok c ↔ InForce w path c := by
  rw [configOf_eq, mapError_eq_ok_iff]
  have hmap : (source w path).map (·.withOverrides w.lookup) = .ok c ↔
      ∃ c', source w path = .ok c' ∧ c'.withOverrides w.lookup = c := by
    cases source w path <;> simp [Except.map]
  rw [hmap]
  constructor
  · rintro ⟨c', hsource, rfl⟩
    cases path with
    | none =>
      obtain ⟨path, hpath, hfile | ⟨hfile, rfl⟩⟩ := load_eq_ok_iff.1 hsource
      · exact .found hpath hfile
      · exact .defaults hpath hfile
    | some path => exact .named (loadFrom_eq_ok_iff.1 hsource)
  · rintro (hfile | ⟨hpath, hfile⟩ | ⟨hpath, hfile⟩)
    · exact ⟨_, loadFrom_eq_ok_iff.2 hfile, rfl⟩
    · exact ⟨_, load_eq_ok_iff.2 ⟨_, hpath, .inl hfile⟩, rfl⟩
    · exact ⟨_, load_eq_ok_iff.2 ⟨_, hpath, .inr ⟨hfile, rfl⟩⟩, rfl⟩

theorem configOf_error {path : Option String} {message : String}
    (h : configOf w path = .error message) : message = unloaded path :=
  eq_of_mapError (configOf_eq w path ▸ h)

/-! The answer to a check. -/

/-- What is printed for a verdict: one line, or a text that is read back as the verdict. -/
inductive Prints : Bool → Verdict → String → Prop where
  | valid : Prints false .valid "valid\n"
  | invalid (check : Check) (category : Category) (reason : String) :
      Prints false (.invalid check category reason)
        ("invalid [" ++ category.name ++ "/" ++ check.name ++ "]: " ++ reason ++ "\n")
  | json {v : Verdict} {text : String} (h : Verdict.ofJson text = .ok v) : Prints true v text

/-- What may be in the way stands in the order in which it is looked for. -/
inductive Answers (w : Surroundings) (config : Option String) (snapshot : String) (json : Bool)
    (skip : List Check) : Output → Prop where
  | unloaded (hconfig : ∀ c, ¬InForce w config c) :
      Answers w config snapshot json skip ⟨1, "", some ("Error: " ++ unloaded config)⟩
  | unusable {c : Config} (hconfig : InForce w config c)
      (hdetector : ∀ d, Detector.ofConfig c ≠ .ok d) :
      Answers w config snapshot json skip ⟨1, "", some "Error: Invalid detector configuration"⟩
  | unreadable {c : Config} {d : Detector} (hconfig : InForce w config c)
      (hdetector : Detector.ofConfig c = .ok d) (htext : ∀ text, ¬Holds w snapshot text) :
      Answers w config snapshot json skip ⟨1, "", some ("Error: " ++ unreadable snapshot)⟩
  | noSnapshot {c : Config} {d : Detector} {text : String} (hconfig : InForce w config c)
      (hdetector : Detector.ofConfig c = .ok d) (htext : Holds w snapshot text)
      (hsnapshot : ∀ s, Snapshot.ofJson text ≠ .ok s) :
      Answers w config snapshot json skip ⟨1, "", some "Error: Snapshot is not valid JSON"⟩
  | judged {c : Config} {d : Detector} {text line : String} {s : Snapshot} {code : UInt8}
      (hconfig : InForce w config c) (hdetector : Detector.ofConfig c = .ok d)
      (htext : Holds w snapshot text) (hsnapshot : Snapshot.ofJson text = .ok s)
      (hcode : code = if (d.withoutAll skip).evaluate s = .valid then 0 else 2)
      (hline : Prints json ((d.withoutAll skip).evaluate s) line) :
      Answers w config snapshot json skip ⟨code, line, none⟩

theorem prints (json : Bool) (v : Verdict) :
    Prints json v ((if json then Json.printPretty v.toValue else verdictLine v) ++ "\n") := by
  cases json with
  | true => exact .json v.ofJson_printPretty
  | false =>
    cases v with
    | valid => exact .valid
    | invalid check category reason => exact .invalid check category reason

theorem answers_of_parse {config : Option String} {snapshot : String} {json : Bool}
    {skip : List Check} {args : List String}
    (h : Command.parse args = .ok ⟨config, .check snapshot json skip⟩) :
    Answers w config snapshot json skip (run w args) := by
  simp only [run, h, Command.run]
  -- One stage after the other, in their order: whichever fails first gives the answer.
  cases hc : configOf w config with
  | error message =>
    rw [configOf_error hc]
    refine .unloaded fun c hconfig => ?_
    rw [configOf_eq_ok_iff.2 hconfig] at hc
    cases hc
  | ok c =>
    have hconfig := configOf_eq_ok_iff.1 hc
    simp only [bind, Except.bind, check]
    cases hd : Detector.ofConfig c with
    | error e =>
      refine .unusable hconfig fun d hdetector => ?_
      rw [hd] at hdetector
      cases hdetector
    | ok d =>
      simp only [Except.mapError]
      cases ht : textOf w snapshot with
      | error message =>
        rw [textOf_error ht]
        refine .unreadable hconfig hd fun text htext => ?_
        rw [textOf_eq_ok_iff.2 htext] at ht
        cases ht
      | ok text =>
        have htext := textOf_eq_ok_iff.1 ht
        cases hs : Snapshot.ofJson text with
        | error f =>
          simp only [hs]
          refine .noSnapshot hconfig hd htext fun s hsnapshot => ?_
          rw [hs] at hsnapshot
          cases hsnapshot
        | ok s =>
          simp only [hs]
          refine .judged hconfig hd htext hs ?_ (prints json _)
          cases (d.withoutAll skip).evaluate s <;> simp [Verdict.isValid]

/-- Every check can be asked for, and is answered by the library however that is done. -/
theorem answers_run (w : Surroundings) {config : Option String} {snapshot : String}
    (hconfig : config ≠ some "") (hsnapshot : snapshot ≠ "") (json : Bool) (skip : List Check) :
    Command.parse (arguments config snapshot json skip) = .ok ⟨config, .check snapshot json skip⟩ ∧
      ∀ args, Command.parse args = .ok ⟨config, .check snapshot json skip⟩ →
        Answers w config snapshot json skip (run w args) :=
  ⟨Command.parse_arguments hconfig hsnapshot json skip, fun _ h => answers_of_parse h⟩

def soldOut : Surroundings where
  lookup
    | "HOME" => some "/home"
    | "FETCHGUARD_MIN_CONTENT_LENGTH" => some "5"
    | _ => none
  home := none
  look
    | "/home/.config/fetchguard/detector.toml" =>
      some (.file "required_markers = ['price']\nmin_content_length = 900".toUTF8)
    | _ => none
  input := "\x7b\"status\": 200, \"body\": \"<p>sold out</p>\"\x7d".toUTF8

theorem answers_run_soldOut :
    none ≠ some "" ∧ "-" ≠ "" ∧
      Command.parse ["check", "-", "--skip", "content_type"] =
        .ok ⟨none, .check "-" false [.contentType]⟩ ∧
      Answers soldOut none "-" false [.contentType]
        (run soldOut ["check", "-", "--skip", "content_type"]) ∧
      run soldOut ["check", "-", "--skip", "content_type"] =
        ⟨2, "invalid [incompleteness/required_markers]: " ++
          "Missing required content markers: [\"price\"]\n", none⟩ := by
  have hconfig : none ≠ some "" := by decide
  have hsnapshot : "-" ≠ "" := by decide
  have hparse : Command.parse ["check", "-", "--skip", "content_type"] =
      .ok ⟨none, .check "-" false [.contentType]⟩ := rfl
  have hanswers := (answers_run soldOut hconfig hsnapshot false [.contentType]).2 _ hparse
  exact ⟨hconfig, hsnapshot, hparse, hanswers, by decide +kernel⟩

end SoftFail.CommandLine
