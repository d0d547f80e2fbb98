import SoftFail.Text.Blank
import SoftFail.Text.Find
import SoftFail.Text.Letter
import SoftFail.Text.Scan
import SoftFail.Unicode.Digit

/-! Templates: fixed shapes of text, read step by step without ever going back. -/

namespace SoftFail.Text

inductive Step where
  /-- This very text. -/
  | literal (text : List Char)
  /-- This lower-case word in any letter case. -/
  | word (text : List Char)
  /-- Everything up to the next `stop`, and it. -/
  | through (stop : Char)
  /-- Everything up to the next quotation mark, and it; the word occurs in between. -/
  | valueWith (text : List Char)
  /-- Any number of blanks. -/
  | blanks
  /-- One blank or more. -/
  | gap
  /-- One decimal digit or more, of any script. -/
  | digits

def Step.rest? : Step → List Char → Option (List Char)
  | .literal text, s => dropPrefix? text s
  | .word text, s => dropWord? text s
  | .through stop, s => past? stop s
  | .valueWith text, s =>
    if (cutWord? text (s.takeWhile (· ≠ '"'))).isSome then past? '"' s else none
  | .blanks, s => some (s.dropWhile isBlank)
  | .gap, s => if s.head?.any isBlank then some (s.dropWhile isBlank) else none
  | .digits, s =>
    if s.head?.any Unicode.isDigit then some (s.dropWhile Unicode.isDigit) else none

theorem Step.length_of_rest? {step : Step} {s r : List Char} (h : step.rest? s = some r) :
    r.length ≤ s.length := by
  have hdrop (p : Char → Bool) := (List.dropWhile_sublist p (l := s)).length_le
  cases step <;> simp only [Step.rest?] at h
  case literal => simp [dropPrefix?_eq_some_iff.1 h]
  case word => have := length_of_dropWord? h; omega
  case through => exact Nat.le_of_lt (length_of_past? h)
  case valueWith => split at h; exact Nat.le_of_lt (length_of_past? h); simp at h
  case blanks => simp at h; subst h; exact hdrop _
  case gap => split at h <;> simp at h; subst h; exact hdrop _
  case digits => split at h <;> simp at h; subst h; exact hdrop _

def stepsRest? : List Step → List Char → Option (List Char)
  | [], s => some s
  | step :: steps, s => (step.rest? s).bind (stepsRest? steps)

theorem length_of_stepsRest? {steps : List Step} {s r : List Char}
    (h : stepsRest? steps s = some r) : r.length ≤ s.length := by
  induction steps generalizing s with
  | nil => simp_all [stepsRest?]
  | cons step steps ih =>
    simp only [stepsRest?, Option.bind_eq_some_iff] at h
    obtain ⟨t, ht, hr⟩ := h
    exact Nat.le_trans (ih hr) (Step.length_of_rest? ht)

/-- A shape of text: a first character, in any letter case, and then the steps. -/
structure Template where
  first : Char
  steps : List Step

namespace Template

def ofWord (text : String) (steps : List Step) : Template :=
  ⟨text.toList.headD ' ', .word text.toList.tail :: steps⟩

def rest? (t : Template) : List Char → Option (List Char)
  | [] => none
  | c :: s => if foldLetter c = t.first then stepsRest? t.steps s else none

theorem length_of_rest? {t : Template} {s r : List Char} (h : t.rest? s = some r) :
    r.length < s.length := by
  cases s with
  | nil => simp [rest?] at h
  | cons c s =>
    simp only [rest?] at h
    split at h
    · have := length_of_stepsRest? h
      simp only [List.length_cons]
      omega
    · simp at h

def look (t : Template) (s : List Char) : Look s Unit :=
  match h : t.rest? s with
  | none => .pass
  | some r => .found () r (length_of_rest? h)

def first? (t : Template) (s : List Char) : Option (List Char) :=
  (find? t.look s).map fun f =>
    (s.drop f.before.length).take (s.length - f.before.length - f.rest.length)

def count (t : Template) (s : List Char) : Nat := (contents t.look s).length

end Template

end SoftFail.Text
