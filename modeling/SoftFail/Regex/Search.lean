import SoftFail.Regex.Program

/-! Searching texts. All ways to match are followed side by side, one character at a time, in order
of preference; of two ways that have come to the same instruction only the preferred one goes on. -/

namespace SoftFail.Regex

/-- A place in a text: the character before it, how many there are before it, and what follows. -/
structure Cursor where
  before : Option Char
  offset : Nat
  rest : List Char

def Cursor.ofText (s : List Char) : Cursor := ⟨none, 0, s⟩

def Cursor.next? (c : Cursor) : Option Cursor :=
  match c.rest with
  | [] => none
  | a :: rest => some ⟨some a, c.offset + 1, rest⟩

structure Span where
  length : Nat
  text : List Char

def Span.toString (s : Span) : String := String.ofList (s.text.take s.length)

/-- A match: the whole of it, its first group if that took part, and the place behind it. -/
structure Match where
  whole : Span
  group : Option Span
  stop : Cursor

/-- A way to match that has come to the instruction `pc`. -/
structure Thread where
  pc : Nat
  start : Cursor
  opened : Option Cursor
  group : Option Span

def Thread.at (start : Cursor) (pc : Nat) : Thread := ⟨pc, start, none, none⟩

def Cursor.span (start stop : Cursor) : Span := ⟨stop.offset - start.offset, start.rest⟩

namespace Program

/-- Follows threads up to the next instructions that take a character, or to a match, which cuts
off all that is less preferred. No instruction is come to twice; `fuel` is no less than the number
of threads that can arise. -/
def follow (p : Program) (here : Cursor) :
    (fuel : Nat) → (threads : List Thread) → (seen : Array Bool) → (done : List Thread) →
      List Thread × Option Match
  | 0, _, _, done => (done.reverse, none)
  | _, [], _, done => (done.reverse, none)
  | fuel + 1, t :: threads, seen, done =>
    if seen.getD t.pc true then follow p here fuel threads seen done
    else
      let seen := seen.setIfInBounds t.pc true
      match p.code[t.pc]? with
      | some (.set ..) => follow p here fuel threads seen (t :: done)
      | some (.place c next) =>
        if c.holds here.before here.rest.head? then
          follow p here fuel ({ t with pc := next } :: threads) seen done
        else follow p here fuel threads seen done
      | some (.split first second) =>
        follow p here fuel ({ t with pc := first } :: { t with pc := second } :: threads) seen done
      | some (.openGroup next) =>
        follow p here fuel ({ t with pc := next, opened := some here } :: threads) seen done
      | some (.closeGroup next) =>
        let group := t.opened.map fun start => start.span here
        follow p here fuel ({ t with pc := next, group } :: threads) seen done
      | some .matched => (done.reverse, some ⟨t.start.span here, t.group, here⟩)
      | none => follow p here fuel threads seen done

def take (p : Program) (c : Char) (threads : List Thread) : List Thread :=
  threads.filterMap fun (t : Thread) =>
    match p.code[t.pc]? with
    | some (.set s next) => if s.contains c.toNat then some { t with pc := next } else none
    | _ => none

/-- Goes through the text from `here` on, as long as a thread is left or there is no match yet. -/
def run (p : Program) (threads : List Thread) (best : Option Match) (before : Option Char)
    (offset : Nat) (rest : List Char) : Option Match :=
  let here : Cursor := ⟨before, offset, rest⟩
  let threads := if best.isNone then threads ++ [.at here p.start] else threads
  match threads with
  | [] => best
  | threads =>
    let fuel := threads.length + 2 * p.code.size + 1
    let (threads, found) := p.follow here fuel threads (Array.replicate p.code.size false) []
    let best := found.orElse fun _ => best
    match rest with
    | [] => best
    | c :: rest => p.run (p.take c threads) best (some c) (offset + 1) rest

def first? (p : Program) (c : Cursor) : Option Match := p.run [] none c.before c.offset c.rest

def next? (p : Program) (last : Option Nat) (c : Cursor) : Option Match := do
  let m ← p.first? c
  if m.whole.length = 0 && last = some m.stop.offset then p.first? (← c.next?) else some m

def matchesFrom (p : Program) : (fuel : Nat) → (last : Option Nat) → Cursor → List Match →
    List Match
  | 0, _, _, done => done.reverse
  | fuel + 1, last, c, done =>
    match p.next? last c with
    | none => done.reverse
    | some m => matchesFrom p fuel (some m.stop.offset) m.stop (m :: done)

/-- All disjoint matches from left to right. There are no more than places in the text. -/
def allMatches (p : Program) (s : List Char) : List Match :=
  matchesFrom p (s.length + 2) none (.ofText s) []

end Program

end SoftFail.Regex
