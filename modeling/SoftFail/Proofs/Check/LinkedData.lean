import Mathlib.Tactic.Choose
import SoftFail.Proofs.Detector.FirstFailure
import SoftFail.Proofs.Json.Tokens
import SoftFail.Proofs.Markup.Element

/-! Linked data: what the check asks of the payloads of a document and of the entities that they
describe. -/

namespace SoftFail

namespace Value

/-- What is there but says nothing. -/
inductive Hollow : Value → Prop
  | null : Hollow .null
  | no : Hollow (.boolean false)
  | zero : Hollow (.number (.integer 0))
  | floatZero {x : Float} (h : (x == 0.0) = true) : Hollow (.number (.float x))
  | noText : Hollow (.text "")
  | noItems : Hollow (.list [])
  | noFields : Hollow (.record [])

def Has (v : Value) (name : String) : Prop := ∃ w, v.get? name = some w ∧ ¬w.Hollow

def IsRecord (v : Value) : Prop := ∃ fields, v = .record fields

/-- A record that is the whole payload or an item of its list. -/
def IsRoot (payload root : Value) : Prop :=
  root.IsRecord ∧ (root = payload ∨ ∃ items, payload = .list items ∧ root ∈ items)

/-- A root of the payload, or a record in the graph of a root. -/
def IsEntity (payload entity : Value) : Prop :=
  payload.IsRoot entity ∨ ∃ root graph, payload.IsRoot root ∧
    root.get? "@graph" = some (.list graph) ∧ entity ∈ graph ∧ entity.IsRecord

def IsA (entity : Value) (type : String) : Prop :=
  entity.get? "@type" = some (.text type) ∨
    ∃ types, entity.get? "@type" = some (.list types) ∧ .text type ∈ types

def Priced (offer : Value) : Prop := offer.Has "price" ∨ offer.Has "lowPrice"

/-- An offer with a price, or a list in which there is one. -/
def GivesPrice (offers : Value) : Prop :=
  offers.Priced ∨ ∃ items, offers = .list items ∧ ∃ offer ∈ items, offer.Priced

def IsScalar (v : Value) : Prop := (∀ items, v ≠ .list items) ∧ ¬v.IsRecord

end Value

def Subject.ofBody (body : List Char) : Subject := ⟨.ofText 200 (String.ofList body), {}, []⟩

theorem Subject.body_ofBody (body : List Char) : (ofBody body).body = body := String.toList_ofList

def Subject.Presents (s : Subject) (v : Value) : Prop :=
  ∃ p ∈ Markup.Element.linkedData.contents s.body,
    Json.parse (String.ofList (Text.trim p)) = .ok v

namespace Check

open Markup

theorem holds_iff {v? : Option Value} : holds v? = true ↔ ∃ v, v? = some v ∧ ¬v.Hollow := by
  cases v? with
  | none => simp [holds]
  | some v =>
    simp only [Option.some.injEq, exists_eq_left']
    constructor
    · rintro h ⟨⟩ <;> simp_all [holds, bne]
    · intro h
      cases v with
      | null => exact absurd .null h
      | boolean b =>
        cases b with
        | false => exact absurd .no h
        | true => rfl
      | number n =>
        cases n with
        | integer i => exact decide_eq_true fun hi => h (hi ▸ .zero)
        | float x =>
          have hx : (x == 0.0) = false := Bool.eq_false_iff.2 fun hx => h (.floatZero hx)
          simp [holds, bne, hx]
      | text s => exact decide_eq_true fun hs => h (hs ▸ .noText)
      | list items =>
        cases items with
        | nil => exact absurd .noItems h
        | cons => rfl
      | record fields =>
        cases fields with
        | nil => exact absurd .noFields h
        | cons => rfl

theorem holds_get?_iff {v : Value} {name : String} :
    holds (v.get? name) = true ↔ v.Has name := holds_iff

theorem isRecord_iff {v : Value} : isRecord v = true ↔ v.IsRecord := by
  cases v <;> simp [isRecord, Value.IsRecord]

theorem mem_roots_iff {payload root : Value} :
    root ∈ (match payload with
      | .list items => items
      | v => [v]).filter isRecord ↔ payload.IsRoot root := by
  rw [List.mem_filter, isRecord_iff, and_comm, Value.IsRoot]
  refine and_congr_right fun hroot => ?_
  cases payload with
  | list items =>
    obtain ⟨fields, rfl⟩ := hroot
    simp
  | _ => simp

theorem mem_graph_iff {graph? : Option Value} {entity : Value} :
    (entity ∈ match graph? with
      | some (.list graph) => graph.filter isRecord
      | _ => []) ↔ ∃ graph, graph? = some (.list graph) ∧ entity ∈ graph ∧ entity.IsRecord := by
  split
  next graph => simp [isRecord_iff]
  next hother =>
    simp only [List.not_mem_nil, false_iff]
    rintro ⟨graph, heq, -⟩
    exact hother graph heq

theorem mem_entities_iff {payload entity : Value} :
    entity ∈ entities payload ↔ payload.IsEntity entity := by
  have hentity : entity ∈ entities payload ↔ ∃ root, payload.IsRoot root ∧ (entity = root ∨
      ∃ graph, root.get? "@graph" = some (.list graph) ∧ entity ∈ graph ∧ entity.IsRecord) :=
    List.mem_flatMap.trans (exists_congr fun root =>
      and_congr mem_roots_iff (List.mem_cons.trans (or_congr_right mem_graph_iff)))
  rw [hentity, Value.IsEntity]
  constructor
  · rintro ⟨root, hroot, rfl | ⟨graph, hgraph⟩⟩
    · exact .inl hroot
    · exact .inr ⟨root, graph, hroot, hgraph⟩
  · rintro (hroot | ⟨root, graph, hroot, hgraph⟩)
    · exact ⟨entity, hroot, .inl rfl⟩
    · exact ⟨root, hroot, .inr ⟨graph, hgraph⟩⟩

theorem hasType_iff {entity : Value} {type : String} :
    hasType entity type = true ↔ entity.IsA type := by
  unfold hasType Value.IsA
  split
  next t heq => simp [heq]
  next types heq =>
    simp only [heq, List.any_eq_true, Option.some.injEq, reduceCtorEq, false_or, Value.list.injEq,
      exists_eq_left']
    constructor
    · rintro ⟨t, ht, hname⟩
      split at hname
      · obtain rfl := of_decide_eq_true hname
        exact ht
      · cases hname
    · exact fun htype => ⟨.text type, htype, decide_eq_true rfl⟩
  next htext hlist =>
    simp only [Bool.false_eq_true, false_iff]
    rintro (heq | ⟨types, heq, -⟩)
    · exact htext type heq
    · exact hlist types heq

theorem offersPrice_iff {offer : Value} : offersPrice offer = true ↔ offer.Priced := by
  rw [offersPrice, Bool.or_eq_true, holds_get?_iff, holds_get?_iff, Value.Priced]

theorem isRecord_of_priced {offer : Value} (h : offer.Priced) : offer.IsRecord := by
  cases offer with
  | record fields => exact ⟨fields, rfl⟩
  | _ => rcases h with ⟨w, hw, -⟩ | ⟨w, hw, -⟩ <;> cases hw

theorem hasPrice_iff {product : Value} :
    hasPrice product = true ↔
      ∃ offers, product.get? "offers" = some offers ∧ (offers.GivesPrice ∨ offers.IsScalar) := by
  unfold hasPrice Value.GivesPrice Value.IsScalar
  split
  next heq => simp [heq]
  next items heq =>
    have hlist : ¬(Value.list items).IsRecord := fun ⟨_, h⟩ => nomatch h
    have hpriced : ¬(Value.list items).Priced := fun h => hlist (isRecord_of_priced h)
    simp [heq, offersPrice_iff, hpriced]
  next offers hlist heq =>
    simp only [heq, Option.some.injEq, exists_eq_left']
    have hlist : ∀ items, offers ≠ .list items := fun items h => hlist items h
    by_cases hrecord : offers.IsRecord
    · simp [isRecord_iff.2 hrecord, offersPrice_iff, hlist, hrecord]
    · simp [mt isRecord_iff.1 hrecord, hlist, hrecord]

/-- What is asked of an entity: a product has a name and offers it for a price, and a list of items
that is no product has items. -/
theorem entityComplaint_eq_none_iff {index : Nat} {entity : Value} :
    entityComplaint index entity = none ↔
      (entity.IsA "Product" → entity.Has "name" ∧ ∃ offers,
        entity.get? "offers" = some offers ∧ (offers.GivesPrice ∨ offers.IsScalar)) ∧
      (entity.IsA "ItemList" → ¬entity.IsA "Product" → entity.Has "itemListElement") := by
  simp only [← hasType_iff, ← holds_get?_iff, ← hasPrice_iff]
  unfold entityComplaint
  cases hasType entity "Product" with
  | true => cases holds (entity.get? "name") <;> cases hasPrice entity <;> simp
  | false =>
    cases hasType entity "ItemList" <;> cases holds (entity.get? "itemListElement") <;> simp

/-! Payloads. -/

theorem payloadComplaint_eq_none_iff {index : Nat} {payload : List Char} :
    payloadComplaint index payload = none ↔
      ∃ v, Json.parse (String.ofList (Text.trim payload)) = .ok v ∧
        ∀ e, v.IsEntity e → entityComplaint index e = none := by
  unfold payloadComplaint
  cases Json.parse (String.ofList (Text.trim payload)) with
  | error e => simp
  | ok v => simp [mem_entities_iff]

inductive DataFault where
  | malformed (error : Json.ReadError)
  | productWithoutName
  | productWithoutPrice
  | emptyItemList

def DataFault.complaint (index : Nat) : DataFault → Complaint
  | malformed error => .malformedData index error
  | productWithoutName => .productWithoutName index
  | productWithoutPrice => .productWithoutPrice index
  | emptyItemList => .emptyItemList index

theorem exists_entityFault (entity : Value) :
    ∃ fault? : Option DataFault, ∀ index,
      entityComplaint index entity = fault?.map (DataFault.complaint index) := by
  unfold entityComplaint
  cases hasType entity "Product" with
  | true =>
    cases holds (entity.get? "name") with
    | false => exact ⟨some .productWithoutName, fun _ => rfl⟩
    | true =>
      cases hasPrice entity with
      | false => exact ⟨some .productWithoutPrice, fun _ => rfl⟩
      | true => exact ⟨none, fun _ => rfl⟩
  | false =>
    cases hasType entity "ItemList" && !holds (entity.get? "itemListElement") with
    | false => exact ⟨none, fun _ => rfl⟩
    | true => exact ⟨some .emptyItemList, fun _ => rfl⟩

theorem exists_payloadFault (payload : List Char) :
    ∃ fault? : Option DataFault, ∀ index,
      payloadComplaint index payload = fault?.map (DataFault.complaint index) := by
  unfold payloadComplaint
  cases Json.parse (String.ofList (Text.trim payload)) with
  | error e => exact ⟨some (.malformed e), fun _ => rfl⟩
  | ok v =>
    choose fault? hfault using exists_entityFault
    refine ⟨(entities v).findSome? fault?, fun index => ?_⟩
    rw [List.map_findSome?]
    exact congrArg (fun f => (entities v).findSome? f) (funext fun e => hfault e index)

/-- The number of a payload only matters to the words of the complaint. -/
theorem payloadComplaint_congr_index (index : Nat) (payload : List Char) :
    payloadComplaint index payload = none ↔ payloadComplaint 1 payload = none := by
  obtain ⟨fault?, hfault⟩ := exists_payloadFault payload
  rw [hfault, hfault, Option.map_eq_none_iff, Option.map_eq_none_iff]

/-! Documents. -/

theorem linkedDataComplaint_eq_none_iff {body : List Char} :
    linkedDataComplaint body = none ↔
      ∀ p ∈ Element.linkedData.contents body, payloadComplaint 1 p = none := by
  rw [linkedDataComplaint, List.findSome?_eq_none_iff]
  simp only [payloadComplaint_congr_index]
  rw [← List.forall_mem_map (f := Prod.fst) (P := fun p => payloadComplaint 1 p = none),
    List.zipIdx_map_fst]

theorem linkedDataComplaint_of_contents_eq {body payload : List Char}
    (h : Element.linkedData.contents body = [payload]) :
    linkedDataComplaint body = payloadComplaint 1 payload := by
  rw [linkedDataComplaint, h]
  simp

theorem linkedDataComplaint_of_first {body payload : List Char} {earlier later : List (List Char)}
    (h : Element.linkedData.contents body = earlier ++ payload :: later)
    (hearlier : ∀ p ∈ earlier, payloadComplaint 1 p = none)
    (hpayload : payloadComplaint 1 payload ≠ none) :
    linkedDataComplaint body = payloadComplaint (earlier.length + 1) payload := by
  rw [linkedDataComplaint, h, List.zipIdx_append, List.zipIdx_cons, Nat.add_comm 1]
  refine findSome?_of_first (fun p hp => ?_) fun hnone => ?_
  · have hp' := hearlier p.1 (List.fst_mem_of_mem_zipIdx hp)
    exact (payloadComplaint_congr_index _ _).2 hp'
  · exact hpayload ((payloadComplaint_congr_index _ _).1 hnone)

def judgedValue (v : Value) : Outcome := .ofComplaint ((entities v).findSome? (entityComplaint 1))

theorem run_structuredData_of_contents_eq {s : Subject} {payload : List Char}
    (h : Element.linkedData.contents s.body = [payload]) :
    structuredData.run s = .ofComplaint (payloadComplaint 1 payload) :=
  congrArg Outcome.ofComplaint (linkedDataComplaint_of_contents_eq h)

theorem run_structuredData_eq_of_parse {s : Subject} {payload : List Char} {v : Value}
    (h : Element.linkedData.contents s.body = [payload])
    (hv : Json.parse (String.ofList (Text.trim payload)) = .ok v) :
    structuredData.run s = judgedValue v := by
  have hpayload : payloadComplaint 1 payload = (entities v).findSome? (entityComplaint 1) := by
    unfold payloadComplaint
    rw [hv]
  rw [run_structuredData_of_contents_eq h, hpayload, judgedValue]

theorem passed_and_presents_page {payload : List Char} {v : Value}
    (h : Element.linkedData.Closes payload)
    (hv : Json.parse (String.ofList (Text.trim payload)) = .ok v)
    (hpass : (judgedValue v).passed = true) :
    let s := Subject.ofBody (Element.linkedDataPage payload)
    (structuredData.run s).passed = true ∧ s.Presents v := by
  intro s
  have hcontents : Element.linkedData.contents s.body = [payload] := by
    rw [Subject.body_ofBody]
    exact Element.contents_linkedDataPage h
  have hrun := run_structuredData_eq_of_parse hcontents hv
  exact ⟨(congrArg Outcome.passed hrun).trans hpass, payload,
    hcontents ▸ List.mem_singleton_self payload, hv⟩

/-- Where linked data passes, it can be read, and nothing is missing from its products and lists. -/
theorem linkedData_complete_of_passed {s : Subject} (h : (structuredData.run s).passed = true) :
    (∀ p ∈ Element.linkedData.contents s.body,
      ∃ v, Json.parse (String.ofList (Text.trim p)) = .ok v) ∧
    ∀ v e, s.Presents v → v.IsEntity e →
      (e.IsA "Product" → e.Has "name" ∧ ∃ offers,
        e.get? "offers" = some offers ∧ (offers.GivesPrice ∨ offers.IsScalar)) ∧
      (e.IsA "ItemList" → ¬e.IsA "Product" → e.Has "itemListElement") := by
  have hbody : linkedDataComplaint s.body = none := (passed_run_iff _ _).1 h
  have hnone := linkedDataComplaint_eq_none_iff.1 hbody
  constructor
  · intro p hp
    obtain ⟨v, hv, -⟩ := payloadComplaint_eq_none_iff.1 (hnone p hp)
    exact ⟨v, hv⟩
  · rintro v e ⟨p, hp, hv⟩ he
    obtain ⟨v', hv', hentities⟩ := payloadComplaint_eq_none_iff.1 (hnone p hp)
    obtain rfl : v = v' := Except.ok.inj (hv.symm.trans hv')
    exact entityComplaint_eq_none_iff.1 (hentities e he)

def lamp (types offers : Value) : Value :=
  .record [("@type", types), ("name", .text "Lamp"), ("offers", offers)]

def lampText (types offers : String) : String :=
  "\x7b\"@type\":" ++ types ++ ",\"name\":\"Lamp\",\"offers\":" ++ offers ++ "\x7d"

theorem reloads_lamp {types offers : Value} {depth : Nat} (htypes : Json.Reloads depth types)
    (hoffers : Json.Reloads depth offers) : Json.Reloads (depth + 1) (lamp types offers) := by
  have hname : Json.Reloads depth (.text "Lamp") := .text _
  have hnames : ["@type", "name", "offers"].Pairwise (· < ·) := by decide
  exact .record (by simp [htypes, hname, hoffers])
    (List.pairwise_map (f := Prod.fst).1 hnames)

theorem reloads_priced (depth : Nat) :
    Json.Reloads (depth + 1) (.record [("price", .natural 9)]) :=
  .record (List.forall_mem_singleton.2 (.natural (by decide))) (List.pairwise_singleton _ _)

def lampPage (text : String) : Subject := .ofBody (Element.linkedDataPage text.toList)

/-- A lamp in a list, with a price among its offers. -/
theorem linkedData_complete_of_passed_lamp :
    let s := lampPage ("[" ++ lampText "\"Product\"" "[\x7b\"price\":9\x7d]" ++ "]")
    let e := lamp (.text "Product") (.list [.record [("price", .natural 9)]])
    (structuredData.run s).passed = true ∧ s.Presents (.list [e]) ∧ (Value.list [e]).IsEntity e ∧
      e.IsA "Product" ∧ e.Has "name" := by
  intro s e
  have hcloses : Element.linkedData.Closes
      ("[" ++ lampText "\"Product\"" "[\x7b\"price\":9\x7d]" ++ "]").toList :=
    ⟨("[" ++ lampText "\"Product\"" "[\x7b\"price\":9\x7d]" ++ "]").toList ++
      Element.linkedData.closing, [], by decide +kernel⟩
  have hread : Json.parse (String.ofList (Text.trim
      ("[" ++ lampText "\"Product\"" "[\x7b\"price\":9\x7d]" ++ "]").toList)) =
        .ok (.list [lamp (.text "Product") (.list [.record [("price", .natural 9)]])]) := by
    have hlamp := reloads_lamp (.text "Product")
      (.list (List.forall_mem_singleton.2 (reloads_priced 123)))
    have hreloads : Json.Reloads Json.depth _ := .list (List.forall_mem_singleton.2 hlamp)
    rw [← hreloads.parse_print]
    exact congrArg Json.parse (by decide +kernel)
  obtain ⟨hpass, hpresents⟩ := passed_and_presents_page hcloses hread (by decide +kernel)
  have hentity : (Value.list [e]).IsEntity e :=
    .inl ⟨⟨_, rfl⟩, .inr ⟨_, rfl, List.mem_singleton_self _⟩⟩
  have hcomplete := (linkedData_complete_of_passed hpass).2 _ _ hpresents hentity
  exact ⟨hpass, hpresents, hentity, .inl rfl, (hcomplete.1 (.inl rfl)).1⟩

/-- A lamp whose offers are null passes, and so does one that is also a list, but has no items. -/
theorem passed_without_price_or_items :
    (∃ v, (lampPage (lampText "\"Product\"" "null")).Presents v ∧
      (structuredData.run (lampPage (lampText "\"Product\"" "null"))).passed = true ∧
      v.IsEntity v ∧ v.IsA "Product" ∧
      ¬∃ offers, v.get? "offers" = some offers ∧ offers.GivesPrice) ∧
    ∃ v, (lampPage (lampText "[\"Product\",\"ItemList\"]" "\x7b\"price\":9\x7d")).Presents v ∧
      (structuredData.run (lampPage
        (lampText "[\"Product\",\"ItemList\"]" "\x7b\"price\":9\x7d"))).passed = true ∧
      v.IsEntity v ∧ v.IsA "ItemList" ∧ ¬v.Has "itemListElement" := by
  have hself (types offers : Value) : (lamp types offers).IsEntity (lamp types offers) :=
    .inl ⟨⟨_, rfl⟩, .inl rfl⟩
  constructor
  · have hcloses : Element.linkedData.Closes (lampText "\"Product\"" "null").toList :=
      ⟨(lampText "\"Product\"" "null").toList ++ Element.linkedData.closing, [],
        by decide +kernel⟩
    have hread : Json.parse (String.ofList (Text.trim (lampText "\"Product\"" "null").toList)) =
        .ok (lamp (.text "Product") .null) := by
      have hreloads : Json.Reloads Json.depth _ := reloads_lamp (.text "Product") .null
      rw [← hreloads.parse_print]
      exact congrArg Json.parse (by decide +kernel)
    obtain ⟨hpass, hpresents⟩ := passed_and_presents_page hcloses hread (by decide +kernel)
    refine ⟨_, hpresents, hpass, hself _ _, .inl rfl, ?_⟩
    rintro ⟨offers, hoffers, hprice⟩
    obtain rfl : Value.null = offers := Option.some.inj hoffers
    rcases hprice with (⟨_, h, -⟩ | ⟨_, h, -⟩) | ⟨_, h, -⟩ <;> cases h
  · have hcloses : Element.linkedData.Closes
        (lampText "[\"Product\",\"ItemList\"]" "\x7b\"price\":9\x7d").toList :=
      ⟨(lampText "[\"Product\",\"ItemList\"]" "\x7b\"price\":9\x7d").toList ++
        Element.linkedData.closing, [], by decide +kernel⟩
    have hread : Json.parse (String.ofList (Text.trim
        (lampText "[\"Product\",\"ItemList\"]" "\x7b\"price\":9\x7d").toList)) =
          .ok (lamp (.list [.text "Product", .text "ItemList"])
            (.record [("price", .natural 9)])) := by
      have htypes : Json.Reloads 126 (.list [.text "Product", .text "ItemList"]) :=
        .list (by simp [Json.Reloads.text])
      have hreloads : Json.Reloads Json.depth _ := reloads_lamp htypes (reloads_priced 125)
      rw [← hreloads.parse_print]
      exact congrArg Json.parse (by decide +kernel)
    obtain ⟨hpass, hpresents⟩ := passed_and_presents_page hcloses hread (by decide +kernel)
    refine ⟨_, hpresents, hpass, hself _ _, .inr ⟨_, rfl, by simp⟩, ?_⟩
    rintro ⟨items, hitems, -⟩
    cases hitems

end Check

end SoftFail
