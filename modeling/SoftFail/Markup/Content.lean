import SoftFail.Markup.Element

/-! What a document shows to a reader: its text without scripts and tags. -/

namespace SoftFail.Markup

open Text

def tagLook (s : List Char) : Look s Unit :=
  match s with
  | [] => .pass
  | c :: s =>
    if c = '<' then
      match h : past? '>' s with
      | none => .stop
      | some rest =>
        if s.head? = some '>' then .pass
        else .found () rest (Nat.lt_succ_of_lt (length_of_past? h))
    else .pass

def withoutTags (s : List Char) : List Char := replace tagLook [] s

def visibleText (s : List Char) : List Char :=
  trim (squeeze (withoutTags (Element.style.replace [] (Element.script.replace [] s))))

def renderedText (s : List Char) : List Char :=
  trim (withoutTags (Element.script.replace [] s))

def noscriptContents (s : List Char) : List (List Char) := Element.noscript.contents s

def withoutNoscript (s : List Char) : List Char := Element.noscript.replace [' '] s

end SoftFail.Markup
