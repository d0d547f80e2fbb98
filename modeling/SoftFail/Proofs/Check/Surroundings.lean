import SoftFail.Proofs.Check.Conditions
import SoftFail.Proofs.Check.Keywords
import SoftFail.Proofs.Check.LazyLoading
import SoftFail.Proofs.Text.Template

/-! Bodies inside larger bodies. Nothing that is written around a body hides what a check has found
in it: neither a keyword, nor content that was not loaded, nor a placeholder, nor a marker. -/

namespace SoftFail.Check

open Text

variable {body : List Char}

theorem lower_surrounded (x body y : List Char) :
    lower (x ++ body ++ y) = lower x ++ lower body ++ lower y := by
  rw [lower_append, lower_append]

theorem contains_surrounded {needle s : List Char} (h : contains needle s = true)
    (x y : List Char) : contains needle (x ++ s ++ y) = true :=
  contains_iff.2 ((contains_iff.1 h).trans (List.infix_append x s y))

theorem mentions_surrounded {k : List Char} (h : Mentions body k) (x y : List Char) :
    Mentions (x ++ body ++ y) k := by
  rw [← contains_lower_iff] at h ⊢
  rw [lower_surrounded]
  exact contains_surrounded h (lower x) (lower y)

theorem keywordComplaint_of_surrounded {x y : List Char}
    (h : keywordComplaint (x ++ body ++ y) = none) : keywordComplaint body = none := by
  rw [keywordComplaint_eq_none_iff] at h ⊢
  intro k hk hmention
  exact h k hk (mentions_surrounded hmention x y)

theorem lazyCount_le_surrounded {sign : String × String} (hsign : sign ∈ lazySigns)
    (x body y : List Char) : lazyCount body sign ≤ lazyCount (x ++ body ++ y) sign := by
  unfold lazyCount
  rw [lower_surrounded]
  exact count_le_count_surrounded (lazySigns_ne_nil sign hsign) _ _ _

theorem lazyComplaint_of_surrounded {x y : List Char}
    (h : lazyComplaint (x ++ body ++ y) = none) : lazyComplaint body = none := by
  rw [lazyComplaint_eq_none_iff] at h ⊢
  intro sign hsign
  exact (lazyCount_le_surrounded hsign x body y).trans (h sign hsign)

theorem labelsIn_eq_nil_iff {signs : List (String × String)} :
    labelsIn signs (lower body) = [] ↔ ∀ sign ∈ signs, ¬Mentions body sign.1.toList := by
  simp only [labelsIn, List.map_eq_nil_iff, List.filter_eq_nil_iff, contains_lower_iff]

theorem placeholderComplaint_eq_none_iff :
    placeholderComplaint body = none ↔
      (∀ sign ∈ frameworkSigns, ¬Mentions body sign.1.toList) ∧
        ¬(emptyShell.first? (lower body)).isSome = true := by
  have hlabels : placeholderComplaint body = none ↔ placeholderLabels body = [] := by
    unfold placeholderComplaint
    cases placeholderLabels body <;> simp
  rw [hlabels, placeholderLabels, List.append_eq_nil_iff, labelsIn_eq_nil_iff]
  simp

/-- The shell ends with a text of its own, so that its blanks are bounded on both sides. -/
theorem closed_emptyShell : Closed emptyShell.steps := by decide

theorem placeholderComplaint_of_surrounded {x y : List Char}
    (h : placeholderComplaint (x ++ body ++ y) = none) : placeholderComplaint body = none := by
  rw [placeholderComplaint_eq_none_iff] at h ⊢
  obtain ⟨hsigns, hshell⟩ := h
  constructor
  · intro sign hsign hmention
    exact hsigns sign hsign (mentions_surrounded hmention x y)
  · intro hfound
    rw [lower_surrounded] at hshell
    exact hshell (Template.isSome_first?_surrounded closed_emptyShell hfound _ _)

theorem markerComplaint_surrounded {markers : List String}
    (h : markerComplaint markers body = none) (x y : List Char) :
    markerComplaint markers (x ++ body ++ y) = none := by
  rw [markerComplaint_eq_none_iff] at h ⊢
  intro marker hmarker
  exact contains_surrounded (h marker hmarker) x y

theorem failed_run_of_complaint {c : Check} {s t : Subject}
    (h : c.complaint? t = none → c.complaint? s = none) (hs : (c.run s).passed = false) :
    (c.run t).passed = false := by
  have hnot : ¬(c.run t).passed = true := by
    intro ht
    have hpass := (passed_run_iff c s).2 (h ((passed_run_iff c t).1 ht))
    rw [hs] at hpass
    cases hpass
  exact Bool.eq_false_of_not_eq_true hnot

/-- What a body fails for, it also fails for with other content before and after it, and the markers
it shows are still shown. -/
theorem run_surrounded {s t : Subject} {x y : List Char} (hbody : t.body = x ++ s.body ++ y)
    (hconfig : t.config = s.config) :
    (∀ c ∈ [botKeywords, lazyLoading, jsPlaceholders],
      (c.run s).passed = false → (c.run t).passed = false) ∧
    ((requiredMarkers.run s).passed = true → (requiredMarkers.run t).passed = true) := by
  constructor
  · intro c hc
    have hcomplaint : c.complaint? t = none → c.complaint? s = none := by
      simp only [List.mem_cons, List.not_mem_nil, or_false] at hc
      rcases hc with rfl | rfl | rfl <;> unfold complaint? <;> rw [hbody]
      · exact keywordComplaint_of_surrounded
      · exact lazyComplaint_of_surrounded
      · exact placeholderComplaint_of_surrounded
    exact failed_run_of_complaint hcomplaint
  · rw [passed_run_iff, passed_run_iff]
    unfold complaint?
    rw [hbody, hconfig]
    intro h
    exact markerComplaint_surrounded h x y

def shellPage (before after : String) : Subject :=
  let shell := "<Body>\n<div id=\"x\"></div> <script>Captcha TBD tbd tbdtbd"
  ⟨.ofText 200 (before ++ shell ++ after), { requiredMarkers := ["TBD"] }, []⟩

theorem body_shellPage (before after : String) :
    (shellPage before after).body = before.toList ++ (shellPage "" "").body ++ after.toList := by
  simp [shellPage, Subject.body, Snapshot.ofText, Snapshot.text?, Body.text?]

theorem run_surrounded_shellPage :
    let s := shellPage "" ""
    let t := shellPage "<!-- tb" "d"
    t.body = "<!-- tb".toList ++ s.body ++ "d".toList ∧ t.config = s.config ∧
      (∀ c ∈ [botKeywords, lazyLoading, jsPlaceholders],
        (c.run s).passed = false ∧ (c.run t).passed = false) ∧
      (requiredMarkers.run s).passed = true ∧ (requiredMarkers.run t).passed = true := by
  intro s t
  have hbody : t.body = "<!-- tb".toList ++ s.body ++ "d".toList := body_shellPage _ _
  have hfail : ∀ c ∈ [botKeywords, lazyLoading, jsPlaceholders], (c.run s).passed = false := by
    decide +kernel
  have hpass : (requiredMarkers.run s).passed = true := by decide +kernel
  obtain ⟨hfails, hpasses⟩ := run_surrounded hbody rfl
  exact ⟨hbody, rfl, fun c hc => ⟨hfail c hc, hfails c hc (hfail c hc)⟩, hpass, hpasses hpass⟩

end SoftFail.Check
