import Mathlib.Algebra.GroupWithZero.Nat
import SoftFail.Proofs.Detector.FirstFailure
import SoftFail.Proofs.Markup.Enclosed

/-! The check for pages that are served to readers without scripts. It counts the characters that
are meant for them, and looks for notices in what is left of the page. -/

namespace SoftFail.Check

open Text

variable {a b s s' body : List Char}

def noscriptChars (body : List Char) : Nat :=
  ((Markup.noscriptContents body).map List.length).sum

/-- Around an element, the same number of characters is counted for every content. -/
theorem exists_noscriptChars_eq (a b : List Char) :
    ∃ k, ∀ s, ¬Markup.Element.noscript.ClosedIn s →
      noscriptChars (a ++ "<noscript>".toList ++ s ++ "</noscript>".toList ++ b) =
        k + s.length := by
  obtain ⟨front, gap, x, hall⟩ :=
    Markup.Element.exists_findAll_enclosed Markup.Element.isName_noscript a b
  refine ⟨((front.map (·.2)).map List.length).sum + x.length + noscriptChars b, fun s hs => ?_⟩
  have hcontents : Markup.noscriptContents
      (a ++ "<noscript>".toList ++ s ++ "</noscript>".toList ++ b) =
        front.map (·.2) ++ (x ++ s) :: Markup.noscriptContents b := by
    have hfound := congrArg (fun p => p.1.map (·.2)) (hall s hs)
    simp only [List.map_append, List.map_cons] at hfound
    exact hfound
  rw [noscriptChars, noscriptChars, hcontents, List.map_append, List.sum_append, List.map_cons,
    List.sum_cons, List.length_append]
  omega

theorem noscriptComplaint_eq (body : List Char) :
    noscriptComplaint body =
      if 1000 < noscriptChars body then some (.largeNoscript (noscriptChars body))
      else (scriptNotices.find? fun n =>
        contains n.toList (lower (Markup.withoutNoscript body))).map .scriptNotice := by
  have htotal : (Markup.noscriptContents body).flatten.length = noscriptChars body :=
    List.length_flatten
  rw [noscriptComplaint, htotal]
  rfl

theorem noscriptComplaint_congr {body' : List Char} (h : noscriptChars body ≤ 1000)
    (h' : noscriptChars body' ≤ 1000)
    (hleft : Markup.withoutNoscript body = Markup.withoutNoscript body') :
    noscriptComplaint body = noscriptComplaint body' := by
  rw [noscriptComplaint_eq, noscriptComplaint_eq, if_neg (Nat.not_lt.2 h), if_neg (Nat.not_lt.2 h'),
    hleft]

theorem withoutNoscript_congr (a b : List Char) (hs : ¬Markup.Element.noscript.ClosedIn s)
    (hs' : ¬Markup.Element.noscript.ClosedIn s') :
    Markup.withoutNoscript (a ++ "<noscript>".toList ++ s ++ "</noscript>".toList ++ b) =
      Markup.withoutNoscript (a ++ "<noscript>".toList ++ s' ++ "</noscript>".toList ++ b) :=
  Markup.Element.replace_enclosed_congr Markup.Element.isName_noscript [' '] a b hs hs'

theorem noscriptComplaint_eq_none_iff :
    noscriptComplaint body = none ↔ noscriptChars body ≤ 1000 ∧
      ∀ n ∈ scriptNotices, ¬Mentions (Markup.withoutNoscript body) n.toList := by
  rw [noscriptComplaint_eq]
  split
  next hmany => exact iff_of_false (Option.some_ne_none _) fun h => Nat.not_lt.2 h.1 hmany
  next hfew =>
    rw [and_iff_right (Nat.not_lt.1 hfew), Option.map_eq_none_iff, List.find?_eq_none]
    simp only [contains_lower_iff]

theorem noscriptComplaint_plain_eq_none_iff (ha : '<' ∉ a) (hb : '<' ∉ b)
    (hs : ¬Markup.Element.noscript.ClosedIn s) :
    noscriptComplaint (a ++ "<noscript>".toList ++ s ++ "</noscript>".toList ++ b) = none ↔
      s.length ≤ 1000 ∧ ∀ n ∈ scriptNotices, ¬Mentions (a ++ [' '] ++ b) n.toList := by
  have hname := Markup.Element.isName_noscript
  have hcontents : Markup.noscriptContents
      (a ++ "<noscript>".toList ++ s ++ "</noscript>".toList ++ b) = [s] :=
    Markup.Element.contents_enclosed_plain hname ha hb hs
  have hleft : Markup.withoutNoscript
      (a ++ "<noscript>".toList ++ s ++ "</noscript>".toList ++ b) = a ++ [' '] ++ b :=
    Markup.Element.replace_enclosed_plain hname [' '] ha hb hs
  rw [noscriptComplaint_eq_none_iff, noscriptChars, hcontents, hleft]
  rfl

/-- Notices for readers without scripts are no reason to fail. Too many characters for them are, and
so is a notice for everyone. -/
theorem noscript_ignores_content {t t' : Subject}
    (ht : t.body = a ++ "<noscript>".toList ++ s ++ "</noscript>".toList ++ b)
    (ht' : t'.body = a ++ "<noscript>".toList ++ s' ++ "</noscript>".toList ++ b)
    (hs : ¬Markup.Element.noscript.ClosedIn s) (hs' : ¬Markup.Element.noscript.ClosedIn s') :
    (noscriptChars t.body ≤ 1000 → noscriptChars t'.body ≤ 1000 → noscript.run t = noscript.run t') ∧
    (1000 < noscriptChars t.body →
      noscript.run t = .fail ("Large noscript content (" ++ Decimal.text (noscriptChars t.body) ++
        " chars) - may be no-JS version")) ∧
    ('<' ∉ a → '<' ∉ b →
      ((noscript.run t).passed = true ↔
        s.length ≤ 1000 ∧ ∀ n ∈ scriptNotices, ¬Mentions (a ++ [' '] ++ b) n.toList)) := by
  refine ⟨fun hfew hfew' => ?_, fun hmany => ?_, fun ha hb => ?_⟩
  · have hleft : Markup.withoutNoscript t.body = Markup.withoutNoscript t'.body := by
      rw [ht, ht']
      exact withoutNoscript_congr a b hs hs'
    exact congrArg Outcome.ofComplaint (noscriptComplaint_congr hfew hfew' hleft)
  · have hcomplaint := noscriptComplaint_eq t.body
    rw [if_pos hmany] at hcomplaint
    rw [run, complaint?, hcomplaint]
    rfl
  · rw [passed_run_iff, complaint?, ht]
    exact noscriptComplaint_plain_eq_none_iff ha hb hs

def noscriptPage (a s b : List Char) : Subject :=
  ⟨.ofText 200 (String.ofList (a ++ "<noscript>".toList ++ s ++ "</noscript>".toList ++ b)), {}, []⟩

theorem body_noscriptPage (a s b : List Char) : (noscriptPage a s b).body =
    a ++ "<noscript>".toList ++ s ++ "</noscript>".toList ++ b :=
  String.toList_ofList

/-- The tag in front of the element is still open, so that its content begins there. -/
theorem noscript_ignores_content_notice :
    let a := "<main><NoScript ".toList
    let b := "</main>".toList
    let s := "Please enable JavaScript".toList
    let long := List.replicate 1001 'x'
    (¬Markup.Element.noscript.ClosedIn s ∧ ¬Markup.Element.noscript.ClosedIn [] ∧
      ¬Markup.Element.noscript.ClosedIn long ∧ '<' ∉ "Lamp ".toList ∧ '<' ∉ " 9 EUR".toList) ∧
    (noscriptChars (noscriptPage a s b).body ≤ 1000 ∧
      noscriptChars (noscriptPage a [] b).body ≤ 1000 ∧
      noscript.run (noscriptPage a s b) = noscript.run (noscriptPage a [] b)) ∧
    (1000 < noscriptChars (noscriptPage a long b).body ∧
      noscript.run (noscriptPage a long b) = .fail ("Large noscript content (" ++
        Decimal.text (noscriptChars (noscriptPage a long b).body) ++
        " chars) - may be no-JS version")) ∧
    ((noscript.run (noscriptPage "Lamp ".toList s " 9 EUR".toList)).passed = true ↔
      s.length ≤ 1000 ∧ ∀ n ∈ scriptNotices,
        ¬Mentions ("Lamp ".toList ++ [' '] ++ " 9 EUR".toList) n.toList) := by
  intro a b s long
  have hs : ¬Markup.Element.noscript.ClosedIn s := by decide
  have hnil : ¬Markup.Element.noscript.ClosedIn [] := by decide
  have hlong : ¬Markup.Element.noscript.ClosedIn long := fun hclosed =>
    absurd (List.eq_of_mem_replicate hclosed.mem) (by decide)
  have hbefore : '<' ∉ "Lamp ".toList := by decide
  have hbehind : '<' ∉ " 9 EUR".toList := by decide
  have hfew : noscriptChars (noscriptPage a s b).body ≤ 1000 := by decide +kernel
  have hnone : noscriptChars (noscriptPage a [] b).body ≤ 1000 := by decide +kernel
  have hmany : 1000 < noscriptChars (noscriptPage a long b).body := by
    obtain ⟨k, hk⟩ := exists_noscriptChars_eq a b
    rw [body_noscriptPage, hk long hlong, List.length_replicate]
    exact Nat.lt_add_left k (by decide)
  have hsame := (noscript_ignores_content (body_noscriptPage a s b) (body_noscriptPage a [] b)
    hs hnil).1 hfew hnone
  have hreason := (noscript_ignores_content (body_noscriptPage a long b) (body_noscriptPage a [] b)
    hlong hnil).2.1 hmany
  have hplain := (noscript_ignores_content (body_noscriptPage _ s _) (body_noscriptPage _ [] _)
    hs hnil).2.2 hbefore hbehind
  exact ⟨⟨hs, hnil, hlong, hbefore, hbehind⟩, ⟨hfew, hnone, hsame⟩, ⟨hmany, hreason⟩, hplain⟩

end SoftFail.Check
