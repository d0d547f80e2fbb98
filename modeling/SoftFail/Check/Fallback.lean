import SoftFail.Check.Complaint
import SoftFail.Markup.Content
import SoftFail.Text.Lower

/-! The check for pages that are served to readers without scripts. -/

namespace SoftFail.Check

def scriptNotices : List String := [
  "please enable javascript",
  "requires javascript",
  "javascript is disabled",
  "javascript must be enabled",
  "turn on javascript"]

def maxNoscriptChars : Nat := 1000

/-- A notice counts only outside of the elements for readers without scripts. -/
def noscriptComplaint (body : List Char) : Option Complaint :=
  let total := (Markup.noscriptContents body).flatten.length
  if maxNoscriptChars < total then some (.largeNoscript total)
  else
    let main := Text.lower (Markup.withoutNoscript body)
    (scriptNotices.find? fun n => Text.contains n.toList main).map .scriptNotice

end SoftFail.Check
