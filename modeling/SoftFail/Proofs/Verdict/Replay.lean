import SoftFail.Proofs.Decode.Taking
import SoftFail.Proofs.Json.Layout
import SoftFail.Verdict.Record

/-! Verdicts that were printed are read back as they were. -/

namespace SoftFail.Verdict

open Decode

variable (check : Check) (category : Category) (reason : String)

theorem lookup_named_category : Category.named.lookup category.name = some category := by
  cases category <;> rfl

theorem variantOf_check : variantOf Check.named (.text check.name) = .ok check := by
  have hlookup : Check.named.lookup check.name = some check := check.ofName?_name
  rw [variantOf]
  simp only [hlookup]

theorem variantOf_category : variantOf Category.named (.text category.name) = .ok category := by
  rw [variantOf]
  simp only [lookup_named_category]

def details : List (String × Value) :=
  [("check", .text check.name), ("category", .text category.name), ("reason", .text reason)]

theorem invalidOf_details :
    invalidOf (.record (details check category reason)) = .ok (.invalid check category reason) := by
  have hcheck : Draft.field {} "check" (.text check.name) = .ok { check := some check } := by
    simp only [Draft.field, variantOf_check]
    rfl
  have hcategory : Draft.field { check := some check } "category" (.text category.name) =
      .ok { check := some check, category := some category } := by
    simp only [Draft.field, variantOf_category]
    rfl
  simp only [invalidOf, details, List.foldlM_cons, hcheck]
  simp only [bind, Except.bind, hcategory]
  rfl

theorem takes_tag {name : String} {isGood : Bool} (h : tags.lookup name = some isGood) :
    Takes (Reader.variantName tags) (Value.text name).kinds [] isGood := by
  rw [Value.kinds_text]
  refine .textNamed _ _ ?_
  simp only [h]
  exact .pure _ _

theorem fills_rest {step : Option Bool × List (String × Value) → String →
      Reader (Option Bool × List (String × Value))} {tag : Option Bool}
    {rest : List (String × Value)}
    (hstep : ∀ f ∈ rest, ∀ done, Takes (step (tag, done) f.1) (.colon :: f.2.kinds) []
      (tag, f :: done)) (done : List (String × Value)) :
    Takes.Fills step (tag, done) (rest.map fun f => (f.1, f.2.kinds))
      (tag, rest.reverse ++ done) := by
  induction rest generalizing done with
  | nil => exact .nil _
  | cons f rest ih =>
    obtain ⟨hf, hrest⟩ := List.forall_mem_cons.1 hstep
    rw [List.reverse_cons, List.append_assoc]
    exact .cons (hf done) (ih hrest (f :: done))

/-- A record that begins with its tag. What follows is kept for later. -/
theorem takes_parts {name : String} {isGood : Bool} (h : tags.lookup name = some isGood)
    (rest : List (String × Value))
    (hrest : ∀ f ∈ rest, f.1 ≠ "status" ∧ f.2.Plain (Json.depth - 1)) :
    Takes (readParts .openRecord) (Value.record (("status", .text name) :: rest)).kinds []
      (isGood, .record rest) := by
  rw [Value.kinds_record]
  refine .settled (.next (.advance _) (.enclosed ?_ .endRecord))
  extract_lets step
  have htag : Takes (step (none, []) "status") (.colon :: (Value.text name).kinds) []
      (some isGood, []) := (Takes.member (takes_tag h)).giving _
  have hstep : ∀ f ∈ rest, ∀ done, Takes (step (some isGood, done) f.1) (.colon :: f.2.kinds) []
      (some isGood, f :: done) := by
    intro f hf done
    obtain ⟨hname, hplain⟩ := hrest f hf
    change Takes (if f.1 = "status" then _ else _) _ _ _
    rw [if_neg hname]
    exact (Takes.member (Takes.value hplain)).giving _
  have hfields := Takes.fields (.cons htag (fills_rest hstep []))
  rw [List.map_cons, List.map_map, List.append_nil] at hfields
  refine hfields.last ?_
  change Takes (pure (isGood, Value.record rest.reverse.reverse)) _ _ _
  rw [List.reverse_reverse]
  exact .pure _ _

theorem takes_read (v : Verdict) : Takes read v.toValue.kinds [] v := by
  cases v with
  | valid =>
    have htag : tags.lookup "valid" = some true := rfl
    have hparts := takes_parts htag [] (by simp)
    refine .look (.peekValue .openRecord _) (hparts.last ?_)
    exact .pure _ _
  | invalid check category reason =>
    have htag : tags.lookup "invalid" = some false := rfl
    have hparts := takes_parts htag (details check category reason)
      (by simp [details, Value.Plain.text])
    refine .look (.peekValue .openRecord _) (hparts.last ?_)
    simp only [Bool.false_eq_true, if_false, invalidOf_details]
    exact .pure _ _

theorem plain_toValue (v : Verdict) : v.toValue.Plain 1 := by
  cases v with
  | valid => exact .record (List.forall_mem_singleton.2 (.text 0 _))
  | invalid check category reason =>
    refine .record (List.forall_mem_cons.2 ⟨.text 0 _, List.forall_mem_cons.2 ⟨.text 0 _, ?_⟩⟩)
    exact List.forall_mem_cons.2 ⟨.text 0 _, List.forall_mem_singleton.2 (.text 0 _)⟩

theorem toList_printPretty (v : Verdict) :
    (Json.printPretty v.toValue ++ "\n").toList = Json.pretty 0 v.toValue ['\n'] := by
  rw [Json.printPretty, String.toList_append, String.toList_ofList]
  cases v <;>
    simp [toValue, Json.pretty, Json.prettyFields, Json.newline, Json.compact, Json.quote_append]

theorem ofJson_printPretty (v : Verdict) : ofJson (Json.printPretty v.toValue ++ "\n") = .ok v := by
  have hend : Json.EndsNumber ['\n'] := by
    rintro c ⟨⟩
    decide
  have hlexes : Json.Lexes (Json.printPretty v.toValue ++ "\n").toList v.toValue.kinds [] := by
    rw [toList_printPretty, ← List.append_nil v.toValue.kinds]
    exact (Json.Lexes.pretty v.plain_toValue 0 hend).trans (.blank rfl [])
  have hread := v.takes_read
  rw [← Json.kind_tokens hlexes] at hread
  rw [ofJson, Json.read, hread.run_atEnd]

end SoftFail.Verdict
