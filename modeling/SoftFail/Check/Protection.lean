import SoftFail.Check.Complaint
import SoftFail.Headers
import SoftFail.Text.Find
import SoftFail.Text.Window

/-! Checks for the traces of systems that keep robots out. -/

namespace SoftFail.Check

inductive Sign where
  /-- By being there with a value. -/
  | present (system : String)
  /-- By one of these texts in its value, in any letter case. -/
  | anyOf (parts : List String)

def headerSigns : List (String × Sign) := [
  ("cf-ray", .present "Cloudflare protection"),
  ("cf-mitigated", .present "Cloudflare mitigation"),
  ("x-datadome-cid", .present "DataDome protection"),
  ("x-distil-cs", .present "Distil Networks"),
  ("server", .anyOf ["akamai", "cloudflare", "imperva"])]

def botWords : List String := [
  "captcha", "recaptcha", "hcaptcha", "cloudflare", "cf-browser-verification",
  "challenge-platform", "access denied", "blocked", "security check", "ray id:",
  "enable javascript", "datadome", "imperva", "perimeter x", "distil networks", "akamai",
  "incapsula", "please verify you are human", "are you a robot", "automated access",
  "unusual traffic", "__cf_chl_jschl_tk__", "cf_clearance", "bot detection"]

def keywordRadius : Nat := 50

def Sign.reading? (sign : Sign) (value : String) : Option String :=
  match sign with
  | .present system => some system
  | .anyOf parts => parts.find? fun p => Text.contains p.toList (Text.lower value.toList)

def headerComplaint (h : Headers) (name : String) (sign : Sign) : Option Complaint :=
  match h.get? name with
  | none => none
  | some value =>
    if value = "" then none else (sign.reading? value).map (.protectionHeader name)

def protectionComplaint (h : Headers) : Option Complaint :=
  headerSigns.findSome? fun s => headerComplaint h s.1 s.2

/-- The first keyword in the order of the table, with what stands around its first occurrence. -/
def keywordComplaint (body : List Char) : Option Complaint :=
  let lowered := Text.lower body
  botWords.findSome? fun k =>
    (Text.index? k.toList lowered).map fun i =>
      let context := Text.slice (i - keywordRadius) (i + k.length + keywordRadius) body
      .botKeyword k (String.ofList context)

end SoftFail.Check
