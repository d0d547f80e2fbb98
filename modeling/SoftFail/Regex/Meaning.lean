import SoftFail.Regex.Expr
import SoftFail.Regex.Property
import SoftFail.Regex.Syntax

/-! The meaning of syntax under the flags that hold at each place. -/

namespace SoftFail.Regex

structure Flags where
  caseInsensitive : Bool
  multiLine : Bool := false
  dotAll : Bool := false
  swapGreed : Bool := false
  unicode : Bool := true
  crlf : Bool := false

def Flags.set (fl : Flags) : Flag × Bool → Flags
  | (.caseInsensitive, on) => { fl with caseInsensitive := on }
  | (.multiLine, on) => { fl with multiLine := on }
  | (.dotAll, on) => { fl with dotAll := on }
  | (.swapGreed, on) => { fl with swapGreed := on }
  | (.unicode, on) => { fl with unicode := on }
  | (.crlf, on) => { fl with crlf := on }
  | (.ignoreBlanks, _) => fl

def Flags.apply (fl : Flags) (fs : FlagSetting) : Flags := fs.foldl Flags.set fl

def Flags.fold (fl : Flags) (s : CharSet) : CharSet :=
  if !fl.caseInsensitive then s else if fl.unicode then .folded s else .foldedAscii s

def Flags.admits (fl : Flags) (l : Literal) : Bool := fl.unicode || !l.rawByte

def Flags.literal? (fl : Flags) (l : Literal) : Option CharSet :=
  if !fl.admits l then none
  else if !fl.caseInsensitive then some (.single l.char)
  else if fl.unicode then some (.ofList (Unicode.caseVariants l.char))
  else some (.ofList (CharSet.asciiVariants l.char))

def Flags.perl? (fl : Flags) (p : Perl) (negated : Bool) : Option CharSet :=
  if fl.unicode then
    let s : CharSet := match p with
      | .digit => .digit
      | .blank => .blank
      | .word => .word
    some (s.complementIf negated)
  else if negated then none
  else some (match p with
    | .digit => .ranges [(0x30, 0x39)]
    | .blank => .ranges [(0x09, 0x0D), (0x20, 0x20)]
    | .word => .ranges [(0x30, 0x39), (0x41, 0x5A), (0x5F, 0x5F), (0x61, 0x7A)])

def Flags.property? (fl : Flags) (name : PropertyName) (negated : Bool) : Option CharSet :=
  if fl.unicode then name.set?.map fun s => (fl.fold s).complementIf negated else none

/-- A set, negated or not; only sets of all characters can be negated. -/
def Flags.complementIf? (fl : Flags) (negated : Bool) (s : CharSet) : Option CharSet :=
  if negated && !fl.unicode then none else some (s.complementIf negated)

def Place.ofAnchor (fl : Flags) : Anchor → Place
  | .startLine =>
    if !fl.multiLine then .startText else if fl.crlf then .startLineCrlf else .startLine
  | .endLine => if !fl.multiLine then .endText else if fl.crlf then .endLineCrlf else .endLine
  | .startText => .startText
  | .endText => .endText
  | .wordBoundary => .boundary fl.unicode
  | .notWordBoundary => .notBoundary fl.unicode
  | .wordStart => .wordStart fl.unicode
  | .wordEnd => .wordEnd fl.unicode
  | .wordStartHalf => .wordStartHalf fl.unicode
  | .wordEndHalf => .wordEndHalf fl.unicode

/-- A literal inside a class. Where bytes are meant it has to be one. -/
def Flags.member? (fl : Flags) (l : Literal) : Option Nat :=
  if fl.unicode || (!l.rawByte && l.char < 0x80) then some l.char else none

mutual

def SetSyntax.meaning (fl : Flags) : SetSyntax → Option CharSet
  | .literal l => (fl.member? l).map .single
  | .range low high => do return .ranges [(← fl.member? low, ← fl.member? high)]
  | .ascii rs negated => fl.complementIf? negated (fl.fold (.ranges rs))
  | .property name negated => fl.property? name negated
  | .perl p negated => fl.perl? p negated
  | .bracket negated s => do fl.complementIf? negated (fl.fold (← s.meaning fl))
  | .union items => SetSyntax.unionMeaning fl items
  | .operation op s t => do
    let s := fl.fold (← s.meaning fl)
    let t := fl.fold (← t.meaning fl)
    return match op with
      | .inter => .inter s t
      | .diff => s.diff t
      | .symmDiff => s.symmDiff t

def SetSyntax.unionMeaning (fl : Flags) : List SetSyntax → Option CharSet
  | [] => some .empty
  | [s] => s.meaning fl
  | s :: ss => do return .union (← s.meaning fl) (← SetSyntax.unionMeaning fl ss)

end

mutual

/-- The expression that syntax stands for, and the flags that hold behind it. -/
def Syntax.meaning (fl : Flags) : Syntax → Option (Expr × Flags)
  | .empty => some (.empty, fl)
  | .setFlags fs => some (.empty, fl.apply fs)
  | .literal l => do return (.set (← fl.literal? l), fl)
  | .dot =>
    if !fl.unicode then none
    else if fl.dotAll then some (.set .any, fl)
    else some (.set (.complement (.ofList (if fl.crlf then [0xA, 0xD] else [0xA]))), fl)
  | .anchor a => some (.place (.ofAnchor fl a), fl)
  | .property name negated => do return (.set (← fl.property? name negated), fl)
  | .perl p negated => do return (.set (← fl.perl? p negated), fl)
  | .bracket negated s => do
    return (.set (← fl.complementIf? negated (fl.fold (← s.meaning fl))), fl)
  | .repeated e min max greedy => do
    let (e, _) ← e.meaning fl
    return (e.times min max (greedy != fl.swapGreed), fl)
  | .capture i e => do
    let (e, _) ← e.meaning fl
    return (.capture i e, fl)
  | .group fs e => do
    let (e, _) ← e.meaning (fl.apply fs)
    return (e, fl)
  | .alternation es => Syntax.branchMeaning fl es
  | .concat es => Syntax.concatMeaning fl es

def Syntax.branchMeaning (fl : Flags) : List Syntax → Option (Expr × Flags)
  | [] => some (.empty, fl)
  | [e] => e.meaning fl
  | e :: es => do
    let (a, fl) ← e.meaning fl
    let (b, fl) ← Syntax.branchMeaning fl es
    return (.alt a b, fl)

def Syntax.concatMeaning (fl : Flags) : List Syntax → Option (Expr × Flags)
  | [] => some (.empty, fl)
  | [e] => e.meaning fl
  | e :: es => do
    let (a, fl) ← e.meaning fl
    let (b, fl) ← Syntax.concatMeaning fl es
    return (.seq a b, fl)

end

end SoftFail.Regex
