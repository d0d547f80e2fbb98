/-! Pieces cut out of a text: by the positions of characters, and as windows around a range of
bytes, which is widened on both sides by so many characters. Bytes are those of the UTF-8 form. -/

namespace SoftFail.Text

def slice (start stop : Nat) (s : List Char) : List Char := (s.drop start).take (stop - start)

namespace Window

inductive Fault where
  /-- At some byte no character begins and the text does not end. -/
  | offBoundary
  /-- The widened range ends before it begins. -/
  | reversed
  /-- A number would be below zero or above the largest one. -/
  | overflow
  deriving DecidableEq

/-- The sum, where numbers go up to a largest one or on without end. -/
def sum (largest : Option Nat) (a b : Nat) : Except Fault Nat :=
  if largest.all (a + b ≤ ·) then .ok (a + b) else .error .overflow

def difference (a b : Nat) : Except Fault Nat :=
  if b ≤ a then .ok (a - b) else .error .overflow

def cut (n : Nat) : List Char → Except Fault (List Char × List Char)
  | [] => if n = 0 then .ok ([], []) else .error .offBoundary
  | c :: s =>
    if n = 0 then .ok ([], c :: s)
    else if n < c.utf8Size then .error .offBoundary
    else (cut (n - c.utf8Size) s).map fun p => (c :: p.1, p.2)

def beginnings (at_ : Nat) : List Char → List Nat
  | [] => []
  | c :: s => at_ :: beginnings (at_ + c.utf8Size) s

def between (i j : Nat) (s : List Char) : Except Fault (List Char) :=
  if j < i then .error .reversed
  else do
    let (upTo, _) ← cut j s
    let (_, x) ← cut i upTo
    return x

/-- The byte that lies `radius` characters in front of byte `i`, or the first one of the text. -/
def backward (s : List Char) (i radius : Nat) : Except Fault Nat :=
  if radius = 0 then .ok i
  else do
    let (before, _) ← cut i s
    let last ← difference radius 1
    return (beginnings 0 before).reverse[last]?.getD 0

def forward (largest : Option Nat) (s : List Char) (j radius : Nat) : Except Fault Nat := do
  let (_, behind) ← cut j s
  match (beginnings 0 behind)[radius]? with
  | some k => sum largest j k
  | none => return (String.ofList s).utf8ByteSize

def around (largest : Option Nat) (s : List Char) (start stop radius : Nat) :
    Except Fault (List Char) := do
  let i ← backward s start radius
  let j ← forward largest s stop radius
  between i j s

end Window

def windowAtBytes? (s : List Char) (start stop radius : Nat) : Option (List Char) :=
  (Window.around none s start stop radius).toOption

end SoftFail.Text
