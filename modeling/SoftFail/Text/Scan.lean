/-! Leftmost scanning. A scan looks at every position of a text in turn; what it finds splits the
text into what stands before, what was found, and a shorter rest. -/

namespace SoftFail.Text

/-- What a look at one position of the text says. -/
inductive Look (s : List Char) (α : Type) where
  /-- Nothing starts here. -/
  | pass
  /-- Nothing starts here or further on. -/
  | stop
  | found (content : α) (rest : List Char) (shorter : rest.length < s.length)

structure Find (s : List Char) (α : Type) where
  before : List Char
  content : α
  rest : List Char
  shorter : rest.length < s.length

def find? {α : Type} (look : (s : List Char) → Look s α) (s : List Char) : Option (Find s α) :=
  go s [] (Nat.le_refl _)
where
  go (t before : List Char) (le : t.length ≤ s.length) : Option (Find s α) :=
    match t with
    | [] => none
    | c :: t' =>
      match look (c :: t') with
      | .pass => go t' (c :: before) (Nat.le_of_succ_le le)
      | .stop => none
      | .found content rest shorter =>
        some ⟨before.reverse, content, rest, Nat.lt_of_lt_of_le shorter le⟩

/-- All disjoint finds from left to right, each with the gap before it, and the remaining text. -/
def findAll {α : Type} (look : (s : List Char) → Look s α) (s : List Char) :
    List (List Char × α) × List Char :=
  go s []
where
  go (s : List Char) (pieces : List (List Char × α)) : List (List Char × α) × List Char :=
    match find? look s with
    | none => (pieces.reverse, s)
    | some ⟨before, content, rest, _⟩ => go rest ((before, content) :: pieces)
  termination_by s.length

def contents {α : Type} (look : (s : List Char) → Look s α) (s : List Char) : List α :=
  (findAll look s).1.map Prod.snd

def replace {α : Type} (look : (s : List Char) → Look s α) (fill : List Char) (s : List Char) :
    List Char :=
  let (pieces, rest) := findAll look s
  pieces.flatMap (fun p => p.1 ++ fill) ++ rest

end SoftFail.Text
