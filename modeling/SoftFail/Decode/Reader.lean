import SoftFail.Bound
import SoftFail.Decode.Token

/-! Readers of token streams. A reader takes what it needs from the front of the stream, or fails
with the first fault in document order. -/

namespace SoftFail.Decode

/-- What is left of a document of `size` bytes, and how far reading has got. -/
structure Source where
  tokens : List Token
  offset : Nat
  size : Nat

abbrev Reader := EStateM Fault Source

namespace Reader

variable {α σ : Type}

def peek : Reader (Option Kind) := fun s =>
  match s.tokens with
  | [] => .ok none { s with offset := s.size }
  | t :: _ => .ok (some t.kind) { s with offset := t.start }

def advance : Reader Unit := fun s =>
  match s.tokens with
  | [] => .ok () s
  | t :: tokens => .ok () { s with tokens, offset := t.stop }

def failHere (f : Flaw) : Reader α := fun s => .error (.flaw f s.offset) s

def failAhead (f : Flaw) : Reader α := fun s => .error (.flaw f (min (s.offset + 1) s.size)) s

def misfit (m : Misfit) : Reader α := throw (.misfit m)

/-- A misfit within `r` is reported where `r` has got to. -/
def settled (r : Reader α) : Reader α := fun s =>
  match r s with
  | .ok a s => .ok a s
  | .error f s => .error (f.settle s.offset) s

/-- Reads up to and including a closing token. A misfit inside is reported behind that token, if
it comes next. -/
def enclosed (close : Reader Unit) (r : Reader α) : Reader α := fun s =>
  match r s with
  | .ok a s =>
    match close s with
    | .ok _ s => .ok a s
    | .error f s => .error f s
  | .error f s =>
    match close s with
    | .ok _ s | .error _ s => .error (f.settle s.offset) s

def peekValue : Reader Kind := do
  match ← peek with
  | some k => pure k
  | none => failAhead .endInValue

def lift (e : Except Fault α) : Reader α := fun s =>
  match e with
  | .ok a => .ok a s
  | .error f => .error f s

def found : Number → Found
  | .integer i => .integer i
  | .float x => .float x

def wrongType (k : Kind) (expected : String) : Reader α := do
  match k with
  | .null => advance; misfit (.wrongType .null expected)
  | .boolean b => advance; misfit (.wrongType (.boolean b) expected)
  | .number n _ => let n ← lift n; advance; misfit (.wrongType (found n) expected)
  | .text s _ => let s ← lift s; advance; misfit (.wrongType (.text s) expected)
  | .openList => misfit (.wrongType .list expected)
  | .openRecord => misfit (.wrongType .record expected)
  | .broken f => throw f
  | _ => failAhead .expectedValue

def unit : Reader Unit := settled do
  match ← peekValue with
  | .null => advance
  | k => wrongType k "unit"

def boolean : Reader Bool := settled do
  match ← peekValue with
  | .boolean b => advance; pure b
  | k => wrongType k "a boolean"

def textNamed (expected : String) (accept : String → Reader α) : Reader α := settled do
  match ← peekValue with
  | .text s _ => let s ← lift s; advance; accept s
  | k => wrongType k expected

def text : Reader String := textNamed "a string" pure

def natural (bound : Nat) (expected : String) : Reader Nat := settled do
  match ← peekValue with
  | .number n _ =>
    let n ← lift n
    advance
    match n with
    | .integer (.ofNat n) =>
      if n < bound then pure n else misfit (.wrongValue (.integer n) expected)
    | n@(.integer _) => misfit (.wrongValue (found n) expected)
    | n => misfit (.wrongType (found n) expected)
  | k => wrongType k expected

def word16 : Reader UInt16 := return UInt16.ofNat (← natural bound16 "u16")

def size : Reader Nat := natural bound64 "usize"

def float : Reader Float := settled do
  match ← peekValue with
  | .number n _ =>
    let n ← lift n
    advance
    match n with
    | .integer i => pure (Float.ofInt i)
    | .float x => pure x
  | k => wrongType k "f64"

def option (r : Reader α) : Reader (Option α) := do
  match ← peek with
  | some .null => advance; pure none
  | _ => some <$> r

def hasItem (first : Bool) : Reader Bool := do
  match ← peek with
  | none => failAhead .endInList
  | some .closeList => pure false
  | some k =>
    if first then pure true
    else match k with
    | .comma =>
      advance
      match ← peek with
      | some .closeList => failAhead .trailingComma
      | some _ => pure true
      | none => failAhead .endInValue
    | _ => failAhead .expectedListComma

def endList : Reader Unit := do
  match ← peek with
  | some .closeList => advance
  | some .comma =>
    advance
    match ← peek with
    | some .closeList => failAhead .trailingComma
    | _ => failAhead .trailingCharacters
  | some _ => failAhead .trailingCharacters
  | none => failAhead .endInList

def item? (first : Bool) (r : Reader α) : Reader (Option α) := do
  if ← hasItem first then some <$> r else pure none

def itemsFrom (r : Reader α) : (fuel : Nat) → (first : Bool) → (done : List α) → Reader (List α)
  | 0, _, done => pure done.reverse
  | fuel + 1, first, done => do
    match ← item? first r with
    | none => pure done.reverse
    | some a => itemsFrom r fuel false (a :: done)

def itemAt (i : Nat) (expected : String) (r : Reader α) : Reader α := do
  match ← item? (i = 0) r with
  | some a => pure a
  | none => misfit (.wrongLength i expected)

def items (r : Reader α) : Reader (List α) := do
  itemsFrom r ((← get).tokens.length + 1) true []

def list (r : Reader α) : Reader (List α) := settled do
  match ← peekValue with
  | .openList => advance; enclosed endList (items r)
  | k => wrongType k "a sequence"

def hasField (first : Bool) : Reader Bool := do
  match ← peek with
  | none => failAhead .endInRecord
  | some .closeRecord => pure false
  | some k =>
    if first then
      match k with
      | .text .. => pure true
      | _ => failAhead .expectedKey
    else match k with
    | .comma =>
      advance
      match ← peek with
      | some (.text ..) => pure true
      | some .closeRecord => failAhead .trailingComma
      | some _ => failAhead .expectedKey
      | none => failAhead .endInValue
    | _ => failAhead .expectedRecordComma

def key : Reader String := do
  match ← peek with
  | some (.text s _) => let s ← lift s; advance; pure s
  | _ => failAhead .expectedKey

def colon : Reader Unit := do
  match ← peek with
  | some .colon => advance
  | some _ => failAhead .expectedColon
  | none => failAhead .endInRecord

def member (r : Reader α) : Reader α := do colon; r

def endRecord : Reader Unit := do
  match ← peek with
  | some .closeRecord => advance
  | some .comma => failAhead .trailingComma
  | some _ => failAhead .trailingCharacters
  | none => failAhead .endInRecord

def fieldsFrom (step : σ → String → Reader σ) : (fuel : Nat) → (first : Bool) → σ → Reader σ
  | 0, _, done => pure done
  | fuel + 1, first, done => do
    if ← hasField first then
      let name ← key
      fieldsFrom step fuel false (← step done name)
    else pure done

def fields (step : σ → String → Reader σ) (init : σ) : Reader σ := do
  fieldsFrom step ((← get).tokens.length + 1) true init

def once (seen : List String) (name : String) : Reader (List String) :=
  if seen.contains name then misfit (.duplicateField name) else pure (name :: seen)

def require (seen : List String) (name : String) : Reader Unit :=
  if seen.contains name then pure () else misfit (.missingField name)

/-- A record, given by its fields or as a list of their values. -/
def record (expected : String) (ofList ofFields : Reader α) : Reader α := settled do
  match ← peekValue with
  | .openList => advance; enclosed endList ofList
  | .openRecord => advance; enclosed endRecord ofFields
  | k => wrongType k expected

def map (r : Reader α) : Reader (List (String × α)) := settled do
  match ← peekValue with
  | .openRecord =>
    advance
    enclosed endRecord do
      let pairs ← fields (fun done name => return (name, ← member r) :: done) []
      pure pairs.reverse
  | k => wrongType k "a map"

/-- Any value; `build` makes a record of its fields. It fails where lists and records are nested
more than `room` deep. -/
def value (build : List (String × Value) → Value) : (room : Nat) → Reader Value
  | 0 => settled do
    match ← peekValue with
    | .openList | .openRecord => failAhead .tooDeep
    | k => scalar k
  | room + 1 => settled do
    match ← peekValue with
    | .openList => advance; enclosed endList (.list <$> items (value build room))
    | .openRecord =>
      advance
      enclosed endRecord do
        let pairs ← fields (fun done name => return (name, ← member (value build room)) :: done) []
        pure (build pairs.reverse)
    | k => scalar k
where
  scalar : Kind → Reader Value
    | .null => do advance; pure .null
    | .boolean b => do advance; pure (.boolean b)
    | .number n _ => do let n ← lift n; advance; pure (.number n)
    | .text s _ => do let s ← lift s; advance; pure (.text s)
    | .broken f => throw f
    | _ => failAhead .expectedValue

def variantName (variants : List (String × α)) : Reader α :=
  textNamed "variant identifier" fun s =>
    match variants.lookup s with
    | some a => pure a
    | none => misfit (.unknownVariant s (variants.map Prod.fst))

def variant (variants : List (String × α)) : Reader α := do
  match ← peekValue with
  | .text .. => variantName variants
  | .openRecord =>
    advance
    let a ← variantName variants
    member unit
    match ← peek with
    | some .closeRecord => advance; pure a
    | some _ => failHere .expectedValue
    | none => failHere .endInRecord
  | _ => failAhead .expectedValue

def atEnd (r : Reader α) : Reader α := do
  let a ← r
  match ← peek with
  | none => pure a
  | some _ => failAhead .trailingCharacters

def run (r : Reader α) (s : Source) : Except Fault α :=
  match r s with
  | .ok a _ => .ok a
  | .error f _ => .error f

end Reader

end SoftFail.Decode
