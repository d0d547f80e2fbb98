import SoftFail.Proofs.Markup.LetterCase
import SoftFail.Proofs.Text.Template
import SoftFail.Proofs.Text.Window

/-! Elements as they are written: an opening tag, a content that no closing tag stands in, and a
closing tag. The scan for a name finds these and nothing else, and it finds one in every text that
holds one. -/

namespace SoftFail.Markup.Element

open Text

structure IsName (name : String) : Prop where
  ne_nil : name.toList ≠ []
  letters : ∀ c ∈ name.toList, c.isLower = true

variable {name : String} {opening content closing rest s t : List Char}

theorem isName_script : IsName "script" := ⟨by decide, List.all_eq_true.1 (by decide)⟩

theorem isName_style : IsName "style" := ⟨by decide, List.all_eq_true.1 (by decide)⟩

theorem isName_noscript : IsName "noscript" := ⟨by decide, List.all_eq_true.1 (by decide)⟩

theorem IsName.not_mem {c : Char} (h : IsName name) (hc : c.isLower = false) :
    c ∉ name.toList := by
  intro hmem
  have hlower := h.letters c hmem
  rw [hc] at hlower
  cases hlower

def Opens (name : String) (tag : List Char) : Prop :=
  ∃ m u, tag = '<' :: (m ++ (u ++ ['>'])) ∧ fold m = name.toList ∧ '>' ∉ u

def ClosedIn (e : Element) (s : List Char) : Prop := e.closing <:+: fold s

instance (e : Element) (s : List Char) : Decidable (e.ClosedIn s) :=
  inferInstanceAs (Decidable (e.closing <:+: fold s))

structure Written (name : String) (opening content closing : List Char) : Prop where
  opens : Opens name opening
  unclosed : ¬(named name).ClosedIn content
  closes : fold closing = (named name).closing

theorem closing_named (name : String) :
    (named name).closing = '<' :: '/' :: (name.toList ++ ['>']) := rfl

theorem IsName.not_mem_closing (h : IsName name) : '<' ∉ '/' :: (name.toList ++ ['>']) := by
  have hname := h.not_mem (c := '<') rfl
  simp [hname]

theorem foldLetter_eq_openBracket_iff {c : Char} : foldLetter c = '<' ↔ c = '<' := by
  rw [foldLetter_eq_iff (by decide), toLower_eq_iff isCaseless_openBracket]

theorem ClosedIn.mem (h : (named name).ClosedIn s) : '<' ∈ s := by
  have hmem : '<' ∈ fold s := h.subset List.mem_cons_self
  obtain ⟨c, hc, hbracket⟩ := List.mem_map.1 hmem
  rwa [← foldLetter_eq_openBracket_iff.1 hbracket]

/-! What is found. -/

theorem said_look_named (c : Char) (s : List Char) :
    ((named name).look (c :: s)).said =
      if c = '<' then
        (dropWord? name.toList s).map fun r => (past? '>' r).bind (cutWord? (named name).closing)
      else none := by
  have hopening : stepsRest? (named name).opening s = dropWord? name.toList s := by
    show (dropWord? name.toList s).bind some = _
    exact Option.bind_fun_some _
  rw [said_look, hopening]

theorem said_look_eq_none_iff {c : Char} :
    ((named name).look (c :: s)).said = none ↔ ¬ '<' :: name.toList <+: fold (c :: s) := by
  rw [said_look_named, fold, List.map_cons, List.cons_prefix_cons, ← fold, @eq_comm _ '<',
    foldLetter_eq_openBracket_iff]
  by_cases hc : c = '<'
  · rw [if_pos hc, Option.map_eq_none_iff, dropWord?_eq_none_iff, and_iff_right hc]
  · rw [if_neg hc]
    exact iff_of_true rfl fun h => hc h.1

theorem cutWord?_closing_eq_some_iff (h : IsName name) :
    cutWord? (named name).closing s = some (content, rest) ↔
      ∃ m, s = content ++ m ++ rest ∧ fold m = (named name).closing ∧
        ¬(named name).ClosedIn content :=
  cutWord?_eq_some_iff h.not_mem_closing

theorem said_look_eq_found_iff (h : IsName name) :
    ((named name).look t).said = some (some (content, rest)) ↔
      ∃ opening closing, Written name opening content closing ∧
        t = opening ++ content ++ closing ++ rest := by
  constructor
  · intro hfound
    cases t with
    | nil => cases hfound
    | cons c s =>
      rw [said_look_named] at hfound
      obtain ⟨rfl, hfound⟩ := Option.ite_none_right_eq_some.1 hfound
      obtain ⟨r, hword, hr⟩ := Option.map_eq_some_iff.1 hfound
      obtain ⟨v, hpast, hcut⟩ := Option.bind_eq_some_iff.1 hr
      obtain ⟨m, rfl, hm⟩ := dropWord?_eq_some_iff_fold.1 hword
      obtain ⟨u, rfl, hu⟩ := past?_eq_some_iff.1 hpast
      obtain ⟨closing, rfl, hclosing, hcontent⟩ := (cutWord?_closing_eq_some_iff h).1 hcut
      have hmem : '>' ∉ u := fun hmem => of_decide_eq_true (hu '>' hmem) rfl
      exact ⟨'<' :: (m ++ (u ++ ['>'])), closing, ⟨⟨m, u, rfl, hm, hmem⟩, hcontent, hclosing⟩,
        by simp⟩
  · rintro ⟨_, closing, ⟨⟨m, u, rfl, hm, hu⟩, hcontent, hclosing⟩, rfl⟩
    have hwhole : '<' :: (m ++ (u ++ ['>'])) ++ content ++ closing ++ rest =
        '<' :: (m ++ (u ++ '>' :: (content ++ closing ++ rest))) := by simp
    have hcut : cutWord? (named name).closing (content ++ closing ++ rest) = some (content, rest) :=
      (cutWord?_closing_eq_some_iff h).2 ⟨closing, rfl, hclosing, hcontent⟩
    rw [hwhole, said_look_named, if_pos rfl, dropWord?_append hm, Option.map_some,
      past?_append_cons hu, Option.bind_some, hcut]

theorem Written.found (hw : Written name opening content closing) (h : IsName name)
    (y : List Char) :
    ((named name).look (opening ++ content ++ closing ++ y)).said = some (some (content, y)) :=
  (said_look_eq_found_iff h).2 ⟨opening, closing, hw, rfl⟩

/-! What is not missed. A scan stops at a tag that nothing closes; in front of an element there is
no such tag, since the end of its own closing tag would do. -/

def Closable (name : String) (s : List Char) : Prop :=
  ∃ x y, s = x ++ '>' :: y ∧ (named name).ClosedIn y

theorem Closable.behind (h : Closable name s) (x : List Char) : Closable name (x ++ s) := by
  obtain ⟨u, y, rfl, hy⟩ := h
  exact ⟨x ++ u, y, (List.append_assoc x u _).symm, hy⟩

theorem Written.closable (h : Written name opening content closing) (y : List Char) :
    Closable name (opening ++ content ++ closing ++ y) := by
  obtain ⟨m, u, rfl, -, -⟩ := h.opens
  refine ⟨'<' :: (m ++ u), content ++ closing ++ y, by simp, ?_⟩
  rw [ClosedIn, fold_append, fold_append, h.closes]
  exact List.infix_append _ _ _

theorem Closable.exists_close (h : Closable name s) :
    ∃ f, (past? '>' s).bind (cutWord? (named name).closing) = some f := by
  obtain ⟨x, y, rfl, hy⟩ := h
  obtain ⟨z, hz, hsuffix⟩ := exists_past? '>' x y
  rw [hz, Option.bind_some, ← Option.isSome_iff_exists, isSome_cutWord?_iff_fold]
  exact hy.trans (hsuffix.isInfix.map foldLetter)

theorem said_look_ne_stop (h : IsName name) (ht : Closable name ('<' :: t)) (c : Char)
    (x : List Char) : ((named name).look (c :: (x ++ '<' :: t))).said ≠ some none := by
  intro hstop
  have hmem : foldLetter '<' ∉ name.toList := h.not_mem rfl
  rw [said_look_named, dropWord?_append_cons hmem] at hstop
  obtain ⟨-, hstop⟩ := Option.ite_none_right_eq_some.1 hstop
  obtain ⟨_, hr, hclose⟩ := Option.map_eq_some_iff.1 hstop
  obtain ⟨r, -, rfl⟩ := Option.map_eq_some_iff.1 hr
  obtain ⟨f, hf⟩ := (ht.behind r).exists_close
  rw [hf] at hclose
  cases hclose

theorem firstFind_ne_none (h : IsName name) (hw : Written name opening content closing)
    (x y : List Char) :
    firstFind (named name).look (x ++ (opening ++ content ++ closing ++ y)) ≠ none := by
  have hfound := hw.found h y
  have hclosable := hw.closable y
  obtain ⟨m, u, rfl, -, -⟩ := hw.opens
  simp only [List.cons_append] at hfound hclosable ⊢
  induction x with
  | nil =>
    rw [List.nil_append, firstFind_cons, hfound]
    exact Option.some_ne_none _
  | cons c x ih =>
    have hstop := said_look_ne_stop h hclosable c x
    rw [List.cons_append, firstFind_cons]
    split
    · exact mt Option.map_eq_none_iff.1 ih
    next hsaid => exact absurd hsaid hstop
    · exact Option.some_ne_none _

def HasElement (name : String) (s : List Char) : Prop :=
  ∃ opening content closing, Written name opening content closing ∧
    opening ++ content ++ closing <:+: s

theorem firstFind_eq_none_iff (h : IsName name) :
    firstFind (named name).look s = none ↔ ¬HasElement name s := by
  constructor
  · rintro hnone ⟨opening, content, closing, hw, x, y, rfl⟩
    rw [List.append_assoc] at hnone
    exact firstFind_ne_none h hw x y hnone
  · intro hnot
    rw [Option.eq_none_iff_forall_ne_some]
    rintro ⟨before, content, rest⟩ hf
    obtain ⟨t, rfl, hfound, -⟩ := firstFind_eq_some hf
    obtain ⟨opening, closing, hw, rfl⟩ := (said_look_eq_found_iff h).1 hfound
    exact hnot ⟨opening, content, closing, hw, before, rest, by simp⟩

theorem firstFind_plain (h : IsName name) (hs : '<' ∉ s) :
    firstFind (named name).look s = none := by
  rw [firstFind_eq_none_iff h]
  rintro ⟨opening, content, closing, hw, hwithin⟩
  obtain ⟨m, u, rfl, -, -⟩ := hw.opens
  exact hs (hwithin.subset (by simp))

theorem replace_nil_sublist (h : IsName name) (s : List Char) :
    ((named name).replace [] s).Sublist s := by
  refine Text.replace_nil_sublist (fun t content rest hfound => ?_) s
  obtain ⟨opening, closing, -, rfl⟩ := (said_look_eq_found_iff h).1 hfound
  exact List.suffix_append _ _

end SoftFail.Markup.Element
