import SoftFail.Decode.Reader

/-! Skipping a value that nobody asks for. Its notation is checked all the same. -/

namespace SoftFail.Decode.Reader

inductive Frame where
  | list
  | record

inductive Expect where
  | value
  /-- A value, or the end of a list that was just opened. -/
  | firstItem
  | key
  /-- A key, or the end of a record that was just opened. -/
  | firstKey
  | colon
  /-- A comma, or the end of the innermost list or record. -/
  | next

def completed (frames : List Frame) : Option (Expect × List Frame) :=
  if frames.isEmpty then none else some (.next, frames)

def ahead {α : Type} (f : Flaw) (start size : Nat) : Except Fault α :=
  .error (.flaw f (min (start + 1) size))

def unlessFault {α : Type} (f : Option Fault) (a : α) : Except Fault α :=
  match f with
  | some f => .error f
  | none => .ok a

def skipToken (t : Token) (size : Nat) (expect : Expect) (frames : List Frame) :
    Except Fault (Option (Expect × List Frame)) :=
  match expect, frames, t.kind with
  | .firstItem, frames, .closeList => .ok (completed frames.tail)
  | .firstKey, frames, .closeRecord => .ok (completed frames.tail)
  | .next, .list :: frames, .closeList => .ok (completed frames)
  | .next, .record :: frames, .closeRecord => .ok (completed frames)
  | .next, .list :: frames, .comma => .ok (some (.value, .list :: frames))
  | .next, .record :: frames, .comma => .ok (some (.key, .record :: frames))
  | .next, .record :: _, _ => ahead .expectedRecordComma t.start size
  | .next, _, _ => ahead .expectedListComma t.start size
  | .colon, frames, .colon => .ok (some (.value, frames))
  | .colon, _, _ => ahead .expectedColon t.start size
  | .key, frames, .text _ f | .firstKey, frames, .text _ f => unlessFault f (some (.colon, frames))
  | .key, _, _ | .firstKey, _, _ => ahead .expectedKey t.start size
  | _, frames, .null | _, frames, .boolean _ => .ok (completed frames)
  | _, frames, .number _ f | _, frames, .text _ f => unlessFault f (completed frames)
  | _, frames, .openList => .ok (some (.firstItem, .list :: frames))
  | _, frames, .openRecord => .ok (some (.firstKey, .record :: frames))
  | _, _, .broken f => .error f
  | _, _, _ => ahead .expectedValue t.start size

def endFlaw : Expect → List Frame → Flaw
  | .value, _ => .endInValue
  | .firstItem, _ => .endInList
  | .key, _ | .firstKey, _ | .colon, _ => .endInRecord
  | .next, .record :: _ => .endInRecord
  | .next, _ => .endInList

def skipFrom (size : Nat) (expect : Expect) (frames : List Frame) :
    List Token → Except Fault (List Token × Nat)
  | [] => .error (.flaw (endFlaw expect frames) size)
  | t :: tokens =>
    match skipToken t size expect frames with
    | .error f => .error f
    | .ok none => .ok (tokens, t.stop)
    | .ok (some (expect, frames)) => skipFrom size expect frames tokens

def skip : Reader Unit := fun s =>
  match skipFrom s.size .value [] s.tokens with
  | .ok (tokens, offset) => .ok () { s with tokens, offset }
  | .error f => .error f { s with offset := f.offset.getD s.offset }

end SoftFail.Decode.Reader
