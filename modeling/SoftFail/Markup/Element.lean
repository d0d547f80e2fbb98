import SoftFail.Text.Template

/-! Elements of a document: an opening tag, a content, and the nearest closing tag. Tags are told by
the words they begin with, in any letter case. -/

namespace SoftFail.Markup

open Text

/-- How the opening tag begins behind its `<`, and the whole closing tag. -/
structure Element where
  opening : List Step
  closing : List Char

namespace Element

def named (name : String) : Element := ⟨[.word name.toList], "</".toList ++ name.toList ++ ['>']⟩

def script : Element := named "script"

def style : Element := named "style"

def noscript : Element := named "noscript"

/-- Linked data: a script of its own media type, which must be the first attribute. -/
def linkedData : Element :=
  { script with
    opening := [.word "script".toList, .gap, .word "type=\"application/ld+json\"".toList] }

/-- The content of the element that begins at the front of the text, and what follows it. An
opening tag that is not closed by `>`, or has no closing tag behind it, leaves no element further
on either. -/
def look (e : Element) (s : List Char) : Look s (List Char) :=
  match s with
  | [] => .pass
  | c :: s =>
    if c = '<' then
      match h₁ : stepsRest? e.opening s with
      | none => .pass
      | some r₁ =>
        match h₂ : past? '>' r₁ with
        | none => .stop
        | some r₂ =>
          match h₃ : cutWord? e.closing r₂ with
          | none => .stop
          | some (content, rest) =>
            .found content rest (by
              have := length_of_stepsRest? h₁
              have := length_of_past? h₂
              have := length_of_cutWord? h₃
              simp only [List.length_cons]
              omega)
    else .pass

def contents (e : Element) (s : List Char) : List (List Char) := Text.contents e.look s

def replace (e : Element) (fill s : List Char) : List Char := Text.replace e.look fill s

end Element

end SoftFail.Markup
