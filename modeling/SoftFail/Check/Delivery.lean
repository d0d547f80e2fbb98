import SoftFail.Check.Complaint
import SoftFail.Config.Basic
import SoftFail.Snapshot.Basic
import SoftFail.Text.Find

/-! Checks of how a response was delivered: its status, its type, its redirects and its length. -/

namespace SoftFail.Check

def redirectKeywords : List String := ["captcha", "challenge", "verify", "blocked"]

def blockingStatuses : List UInt16 := [503, 403, 429]

def suspiciousStatuses : List UInt16 := [203, 204]

def maxRedirects : Nat := 5

def statusComplaint (s : Snapshot) : Option Complaint :=
  if s.isSuccess then none else some (.badStatus s.status)

def suspiciousStatusComplaint (s : Snapshot) : Option Complaint :=
  if suspiciousStatuses.contains s.status then some (.softBlock s.status) else none

/-- The expected type must occur in the one that is given, in any letter case. -/
def contentTypeComplaint (expected? : Option String) (s : Snapshot) : Option Complaint :=
  match expected? with
  | none => none
  | some expected =>
    let actual := (s.headers.get? "content-type").getD ""
    if Text.contains (Text.lower expected.toList) (Text.lower actual.toList) then none
    else some (.wrongContentType expected actual)

def loops (hops : List Hop) : Bool := !decide (hops.map Hop.url).Nodup

def hopComplaint (hop : Hop) : Option Complaint :=
  let url := Text.lower hop.url.toList
  match redirectKeywords.find? fun k => Text.contains k.toList url with
  | some keyword => some (.challengeRedirect keyword hop.url)
  | none =>
    if blockingStatuses.contains hop.status then some (.blockingRedirect hop.status hop.url)
    else none

def redirectComplaint (hops : List Hop) : Option Complaint :=
  if loops hops then some .redirectLoop
  else match hops.findSome? hopComplaint with
    | some c => some c
    | none => if maxRedirects < hops.length then some (.tooManyRedirects hops.length) else none

def decodeComplaint : Body → Option Complaint
  | .text _ => none
  | .undecodable error => some (.undecodable error)

def contentLengthComplaint (c : Config) (length : Nat) : Option Complaint :=
  if length = 0 then some .emptyBody
  else if length < c.minContentLength then some (.tooSmall length c.minContentLength)
  else match c.maxContentLength with
    | some max => if max < length then some (.tooLarge length max) else none
    | none => none

end SoftFail.Check
