import SoftFail.Proofs.Check.Conditions
import SoftFail.Proofs.Detector.FirstFailure
import SoftFail.Proofs.Text.Repeated

/-! The estimate of how many items a page has: that of the container found most often. -/

namespace SoftFail

open Text

def Subject.asking (s : Subject) (min : ℕ) : Subject :=
  { s with config := { s.config with minItemCount := some min } }

namespace Check

variable {body : List Char} {min : ℕ} {s : Subject}

/-! The running best of a list, which only gives way to what is strictly better. -/

theorem best_of_foldl (counts : List (String × ℕ)) (start : String × ℕ) :
    let best := counts.foldl (fun best p => if best.2 < p.2 then p else best) start
    start.2 ≤ best.2 ∧ (∀ p ∈ counts, p.2 ≤ best.2) ∧
      (best = start ∨ start.2 < best.2 ∧
        ∃ before after, counts = before ++ best :: after ∧ ∀ p ∈ before, p.2 < best.2) := by
  induction counts using List.reverseRecOn with
  | nil => exact ⟨Nat.le_refl _, by simp, .inl rfl⟩
  | append_singleton counts p ih =>
    rw [List.foldl_append, List.foldl_cons, List.foldl_nil]
    generalize counts.foldl (fun best p => if best.2 < p.2 then p else best) start = best at ih ⊢
    obtain ⟨hstart, hall, hbest⟩ := ih
    simp only [List.forall_mem_append, List.forall_mem_singleton]
    split_ifs with hlt
    · refine ⟨hstart.trans hlt.le, ⟨fun q hq => (hall q hq).trans hlt.le, Nat.le_refl _⟩, .inr ?_⟩
      exact ⟨hstart.trans_lt hlt, counts, [], rfl, fun q hq => (hall q hq).trans_lt hlt⟩
    · refine ⟨hstart, ⟨hall, Nat.le_of_not_lt hlt⟩, hbest.imp_right fun hsome => ?_⟩
      obtain ⟨hpos, before, after, rfl, hbefore⟩ := hsome
      exact ⟨hpos, before, after ++ [p], by simp, hbefore⟩

/-! Containers. -/

theorem delimited_itemTemplates : ∀ t ∈ itemTemplates, t.1.Delimited := by
  have hthrough (text : String) (stop : Char) : (Template.ofWord text [.through stop]).Delimited :=
    Template.delimited_ofWord text fun _ _ => Template.rest?_through
  have hvalue (text : String) (value : List Char) :
      (Template.ofWord text [.valueWith value]).Delimited :=
    Template.delimited_ofWord text fun _ _ => Template.rest?_valueWith
  simp only [itemTemplates, List.forall_mem_cons]
  exact ⟨hthrough _ _, hvalue _ _, hvalue _ _, hthrough _ _, hthrough _ _, hvalue _ _, by simp⟩

/-- The largest number of any container, with what the items of the first one that reaches it are
called. -/
structure MostItems (body : List Char) (label : String) (n : ℕ) : Prop where
  greatest : IsGreatest {k | ∃ t ∈ itemTemplates, t.1.count body = k} n
  label_eq : n = 0 ∧ label = "items" ∨ 0 < n ∧ ∃ before t after,
    itemTemplates = before ++ t :: after ∧ t.2 = label ∧ t.1.count body = n ∧
      ∀ u ∈ before, u.1.count body < n

theorem bestItems_eq (body : List Char) :
    bestItems body = (itemTemplates.map fun t => (t.2, t.1.count body)).foldl
      (fun best p => if best.2 < p.2 then p else best) ("items", 0) := by
  rw [List.foldl_map, bestItems]

theorem mostItems_bestItems (body : List Char) :
    MostItems body (bestItems body).1 (bestItems body).2 := by
  obtain ⟨-, hall, hbest⟩ :=
    best_of_foldl (itemTemplates.map fun t => (t.2, t.1.count body)) ("items", 0)
  rw [← bestItems_eq] at hall hbest
  rw [List.forall_mem_map] at hall
  have hle : (bestItems body).2 ∈
      upperBounds {k | ∃ t ∈ itemTemplates, t.1.count body = k} := by
    rintro _ ⟨t, ht, rfl⟩
    exact hall t ht
  rcases hbest with hstart | ⟨hpos, before, after, hcounts, hbefore⟩
  · rw [hstart] at hle ⊢
    obtain ⟨t, ht⟩ := List.exists_mem_of_ne_nil itemTemplates (by simp [itemTemplates])
    exact ⟨⟨⟨t, ht, Nat.le_zero.1 (hle ⟨t, ht, rfl⟩)⟩, hle⟩, .inl ⟨rfl, rfl⟩⟩
  · obtain ⟨ts, us, hts, rfl, hus⟩ := List.map_eq_append_iff.1 hcounts
    obtain ⟨t, vs, rfl, ht, -⟩ := List.map_eq_cons_iff.1 hus
    have hmem : t ∈ itemTemplates := by simp [hts]
    rw [List.forall_mem_map] at hbefore
    refine ⟨⟨⟨t, hmem, congrArg Prod.snd ht⟩, hle⟩, .inr ⟨hpos, ts, t, vs, hts, ?_, ?_, hbefore⟩⟩
    · exact congrArg Prod.fst ht
    · exact congrArg Prod.snd ht

theorem le_bestItems_iff :
    min ≤ (bestItems body).2 ↔ ∃ t ∈ itemTemplates, t.1.Repeated min body := by
  obtain ⟨⟨t, ht, hcount⟩, hle⟩ := (mostItems_bestItems body).greatest
  constructor
  · intro hmin
    exact ⟨t, ht, (Template.repeated_iff (delimited_itemTemplates t ht)).2 (hcount ▸ hmin)⟩
  · rintro ⟨u, hu, hrepeated⟩
    exact (hrepeated.le_count (delimited_itemTemplates u hu)).trans (hle ⟨u, hu, rfl⟩)

theorem itemComplaint_of_lt (h : (bestItems body).2 < min) :
    itemComplaint (some min) body = some (.tooFew (bestItems body).2 (bestItems body).1 min) :=
  if_pos h

theorem passed_itemCount_asking_iff : (itemCount.run (s.asking min)).passed = true ↔
    0 < min → ∃ t ∈ itemTemplates, t.1.Repeated min s.body := by
  rw [passed_run_iff, complaint?, itemComplaint_eq_none_iff]
  simp only [Subject.asking, Config.itemCount?, Option.mem_def, Option.filter_eq_some_iff,
    Option.some.injEq, decide_eq_true_eq, and_imp, forall_eq', le_bestItems_iff]
  rfl

/-- A page has items enough when one of the containers comes that often without overlap. Otherwise
the container that comes most often is reported, the first one of several, and by the name of items
when none comes at all. What is enough stays enough for any smaller number. -/
theorem itemCount_judged (s : Subject) (hmin : 0 < min) :
    (∀ t ∈ itemTemplates, IsGreatest {n | t.1.Repeated n s.body} (t.1.count s.body)) ∧
    ((itemCount.run (s.asking min)).passed = true ↔
      ∃ t ∈ itemTemplates, t.1.Repeated min s.body) ∧
    ((itemCount.run (s.asking min)).passed = false → ∃ label n, MostItems s.body label n ∧
      itemCount.run (s.asking min) = .fail ("Only " ++ Decimal.text n ++ " " ++ label ++
        " found (expected ≥" ++ Decimal.text min ++ ")")) ∧
    ((itemCount.run (s.asking min)).passed = true →
      ∀ k ≤ min, (itemCount.run (s.asking k)).passed = true) := by
  have hpassed : (itemCount.run (s.asking min)).passed = true ↔
      ∃ t ∈ itemTemplates, t.1.Repeated min s.body :=
    passed_itemCount_asking_iff.trans (forall_prop_of_true hmin)
  refine ⟨?_, hpassed, ?_, ?_⟩
  · exact fun t ht => Template.isGreatest_count (delimited_itemTemplates t ht) s.body
  · intro hfail
    have hfew : (bestItems s.body).2 < min := by
      refine Nat.lt_of_not_le fun hle => ?_
      rw [hpassed.2 (le_bestItems_iff.1 hle)] at hfail
      cases hfail
    refine ⟨_, _, mostItems_bestItems s.body, ?_⟩
    have hcount : (s.asking min).config.itemCount? = some min := if_pos (decide_eq_true hmin)
    have hbody : (s.asking min).body = s.body := rfl
    rw [run, complaint?, hcount, hbody, itemComplaint_of_lt hfew]
    rfl
  · intro hpass k hk
    obtain ⟨t, ht, hrepeated⟩ := hpassed.1 hpass
    exact passed_itemCount_asking_iff.2 fun _ => ⟨t, ht, hrepeated.mono hk⟩

/-- Two articles, of which the first is a class of posts too, and one product that is listed
twice. -/
def listingPage : Subject :=
  ⟨.ofText 200 ("<Article class=\"post\"><p data-product-id=\"7\" data-product-id=\"7\">" ++
    "</article><ARTICLE>"), {}, []⟩

theorem itemCount_judged_listing :
    0 < 3 ∧ (∀ t ∈ itemTemplates, ¬t.1.Repeated 3 listingPage.body) ∧
      (itemCount.run (listingPage.asking 3)).passed = false ∧
      (∃ label n, MostItems listingPage.body label n ∧
        itemCount.run (listingPage.asking 3) = .fail ("Only " ++ Decimal.text n ++ " " ++ label ++
          " found (expected ≥" ++ Decimal.text 3 ++ ")")) ∧
      itemCount.run (listingPage.asking 3) = .fail "Only 2 products found (expected ≥3)" ∧
      (itemCount.run (listingPage.asking 2)).passed = true ∧
      (itemCount.run (listingPage.asking 1)).passed = true := by
  have hfail : (itemCount.run (listingPage.asking 3)).passed = false := by decide +kernel
  have hpass : (itemCount.run (listingPage.asking 2)).passed = true := by decide +kernel
  obtain ⟨-, henough, hreport, -⟩ := itemCount_judged listingPage (show 0 < 3 by decide)
  obtain ⟨-, -, -, hfewer⟩ := itemCount_judged listingPage (show 0 < 2 by decide)
  refine ⟨by decide, fun t ht hrepeated => ?_, hfail, hreport hfail, by decide +kernel, hpass,
    hfewer hpass 1 (by decide)⟩
  rw [henough.2 ⟨t, ht, hrepeated⟩] at hfail
  cases hfail

end Check

end SoftFail
