import SoftFail.Headers
import SoftFail.Text.Utf8

/-! Snapshots: the facts about one finished fetch. -/

namespace SoftFail

structure Hop where
  url : String
  status : UInt16
  deriving DecidableEq

inductive Body where
  | text (s : String)
  /-- The bytes received were no text. -/
  | undecodable (error : String)
  deriving DecidableEq

structure Snapshot where
  status : UInt16
  headers : Headers
  redirects : List Hop
  body : Body
  deriving DecidableEq

def Body.text? : Body → Option String
  | .text s => some s
  | .undecodable _ => none

namespace Snapshot

def ofText (status : UInt16) (body : String) : Snapshot := ⟨status, .empty, [], .text body⟩

/-- The body is the text that the bytes encode in UTF-8, if they encode one. -/
def ofBytes (status : UInt16) (bytes : ByteArray) : Snapshot :=
  let body := match Text.Utf8.decode bytes with
    | .ok s => .text s
    | .error f => .undecodable f.message
  ⟨status, .empty, [], body⟩

def withHeader (s : Snapshot) (name value : String) : Snapshot :=
  { s with headers := s.headers.insert name value }

def withHeaders (s : Snapshot) (headers : Headers) : Snapshot := { s with headers }

def withRedirect (s : Snapshot) (url : String) (status : UInt16) : Snapshot :=
  { s with redirects := s.redirects ++ [⟨url, status⟩] }

def withRedirects (s : Snapshot) (redirects : List Hop) : Snapshot := { s with redirects }

def isSuccess (s : Snapshot) : Bool := 200 ≤ s.status && s.status < 300

def text? (s : Snapshot) : Option String := s.body.text?

/-- Length of the body in UTF-8 bytes; a body that is no text has none. -/
def contentLength (s : Snapshot) : Nat := (s.text?.map String.utf8ByteSize).getD 0

end Snapshot

end SoftFail
