import SoftFail.Bound
import SoftFail.Regex.Bracket
import SoftFail.Regex.Property

/-! Reading regular expressions. -/

namespace SoftFail.Regex

open Text

inductive GroupKind where
  | capture (index : Nat)
  | plain (fs : FlagSetting)

structure Frame where
  kind : GroupKind
  items : List (Tall Syntax)
  branches : List (Tall Syntax)
  ignore : Bool

/-- An expression that is being read. Items of the current branch and the branches before it are
held last first. -/
structure State where
  stack : List Frame
  items : List (Tall Syntax)
  branches : List (Tall Syntax)
  ignore : Bool
  captures : Nat
  names : List (List Char)

namespace State

def start : State := ⟨[], [], [], false, 0, []⟩

def push (st : State) (e : Tall Syntax) : State := { st with items := e :: st.items }

def whole (st : State) : Option (Tall Syntax) := do
  Syntax.ofBranches ((← Syntax.ofConcat st.items.reverse) :: st.branches).reverse

def branch (st : State) : Option State := do
  some { st with items := [], branches := (← Syntax.ofConcat st.items.reverse) :: st.branches }

/-- Opens a group. Groups that are nested too deep are refused at once. -/
def openGroup (st : State) (kind : GroupKind) (ignore : Bool) : Option State :=
  if st.stack.length < maxHeight then
    some { st with
      stack := ⟨kind, st.items, st.branches, st.ignore⟩ :: st.stack, items := [], branches := []
      ignore }
  else none

def openCapture (st : State) : Option State :=
  { st with captures := st.captures + 1 }.openGroup (.capture (st.captures + 1)) st.ignore

def closeGroup (st : State) : Option State := do
  match st.stack with
  | [] => none
  | f :: stack =>
    let e ← st.whole
    let group := match f.kind with
      | .capture i => Syntax.capture i e.node
      | .plain fs => .group fs e.node
    let group ← Tall.over group [e.height]
    some { st with stack, items := group :: f.items, branches := f.branches, ignore := f.ignore }

def repeatLast (st : State) (min : Nat) (max : Option Nat) (greedy : Bool) : Option State := do
  match st.items with
  | [] => none
  | e :: items =>
    match e.node with
    | .empty | .setFlags _ => none
    | _ =>
      some { st with items := (← Tall.over (.repeated e.node min max greedy) [e.height]) :: items }

end State

def flag? (c : Char) : Option Flag :=
  if c = 'i' then some .caseInsensitive
  else if c = 'm' then some .multiLine
  else if c = 's' then some .dotAll
  else if c = 'U' then some .swapGreed
  else if c = 'u' then some .unicode
  else if c = 'R' then some .crlf
  else if c = 'x' then some .ignoreBlanks
  else none

/-- Reads flags up to the colon or bracket behind them, each at most once. Behind a dash they are
turned off. -/
def readFlags (done : FlagSetting) (off dash : Bool) : List Char →
    Option (FlagSetting × List Char)
  | [] => none
  | c :: s =>
    if c = ':' || c = ')' then if dash then none else some (done.reverse, c :: s)
    else if c = '-' then if off then none else readFlags done true true s
    else (flag? c).bind fun f =>
      if done.any (·.1 = f) then none else readFlags ((f, !off) :: done) off false s

def ignoresBlanks (fs : FlagSetting) (old : Bool) : Bool := (fs.lookup .ignoreBlanks).getD old

def isNameChar (first : Bool) (c : Char) : Bool :=
  c = '_' || if first then isAlphabetic c
    else c = '.' || c = '[' || c = ']' || isAlphanumeric c

def readName (s : List Char) : Option (List Char × List Char) :=
  let name := s.takeWhile (· ≠ '>')
  match s.dropWhile (· ≠ '>') with
  | [] => none
  | _ :: rest =>
    match name with
    | [] => none
    | c :: cs => if isNameChar true c && cs.all (isNameChar false) then some (name, rest) else none

def readGroup (st : State) (s : List Char) : Option (State × List Char) := do
  let s := pastBlanks st.ignore s
  let looksAround := [['?', '='], ['?', '!'], ['?', '<', '='], ['?', '<', '!']].any fun p =>
    startsWith p s
  if looksAround then none
  else match (dropPrefix? ['?', 'P', '<'] s).orElse fun _ => dropPrefix? ['?', '<'] s, s with
    | some s, _ =>
      let (name, s) ← readName s
      if st.names.contains name then none
      else some (← { st with names := name :: st.names }.openCapture, s)
    | none, '?' :: s =>
      let (fs, s) ← readFlags [] false false s
      let ignore := ignoresBlanks fs st.ignore
      match s with
      | ')' :: s =>
        if fs.isEmpty then none else some ({ st with ignore }.push (.leaf (.setFlags fs)), s)
      | s => some (← st.openGroup (.plain fs) ignore, s.drop 1)
    | none, s => some (← st.openCapture, s)

def readCount (ignore : Bool) (s : List Char) : Option (Nat × List Char) :=
  go (s.length + 1) none (s.dropWhile isBlank)
where
  go : (fuel : Nat) → Option Nat → List Char → Option (Nat × List Char)
    | 0, _, _ => none
    | fuel + 1, n, s =>
      match s with
      | c :: s' =>
        if c.isDigit then
          go fuel (some (min (10 * n.getD 0 + (c.toNat - 48)) bound32)) (pastBlanks ignore s')
        else finish n s
      | [] => finish n s
  finish (n : Option Nat) (s : List Char) : Option (Nat × List Char) :=
    n.bind fun n => if n < bound32 then some (n, trailing (s.length + 1) s) else none
  trailing : (fuel : Nat) → List Char → List Char
    | 0, s => s
    | fuel + 1, s =>
      match s with
      | c :: s' => if isBlank c then trailing fuel (pastBlanks ignore s') else s
      | [] => []

def readCounts (ignore : Bool) (s : List Char) :
    Option (Nat × Option Nat × Bool × List Char) := do
  let (min, s) ← readCount ignore (pastBlanks ignore s)
  let (max, s) ← match s with
    | ',' :: s =>
      match pastBlanks ignore s with
      | '\x7d' :: s => some (none, '\x7d' :: s)
      | s => (readCount ignore s).map fun (n, s) => (some n, s)
    | s => some (some min, s)
  let s ← dropPrefix? ['\x7d'] s
  if max.any (· < min) then none
  else match pastBlanks ignore s with
    | '?' :: s => some (min, max, false, s)
    | s => some (min, max, true, s)

def lazyMark : List Char → Bool × List Char
  | '?' :: s => (false, s)
  | s => (true, s)

def readItem (st : State) (c : Char) (s : List Char) : Option (State × List Char) :=
  let repetition (min : Nat) (max : Option Nat) : Option (State × List Char) :=
    let (greedy, s) := lazyMark s
    (st.repeatLast min max greedy).map fun st => (st, s)
  match c with
  | '(' => readGroup st s
  | ')' => st.closeGroup.map fun st => (st, s)
  | '|' => st.branch.map fun st => (st, s)
  | '[' => (bracket st.ignore s).map fun (e, s) => (st.push e, s)
  | '?' => repetition 0 (some 1)
  | '*' => repetition 0 none
  | '+' => repetition 1 none
  | '\x7b' => do
    let (min, max, greedy, s) ← readCounts st.ignore s
    some (← st.repeatLast min max greedy, s)
  | c => (primitive st.ignore (c :: s)).map fun (e, s) => (st.push (.leaf e), s)

def readFrom : (fuel : Nat) → State → List Char → Option Syntax
  | 0, _, _ => none
  | fuel + 1, st, s =>
    match pastBlanks st.ignore s with
    | [] => if st.stack.isEmpty then st.whole.map Tall.node else none
    | c :: s => (readItem st c s).bind fun (st, s) => readFrom fuel st s

def Syntax.parse? (s : List Char) : Option Syntax := readFrom (s.length + 1) .start s

end SoftFail.Regex
