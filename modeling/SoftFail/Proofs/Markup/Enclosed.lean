import SoftFail.Proofs.Markup.Tag

/-! Documents around an element. The text before it may open tags and elements of its own; whatever
it does, all that is taken out with the element ends at the element's own closing tag, and nothing
else depends on the content. -/

namespace SoftFail.Markup

open Text

namespace Element

variable {name : String} {s : List Char}

def openingTag (name : String) : List Char := '<' :: (name.toList ++ ['>'])

def enclosed (name : String) (a s b : List Char) : List Char :=
  a ++ openingTag name ++ s ++ (named name).closing ++ b

theorem enclosed_append (x a s b : List Char) :
    enclosed name (x ++ a) s b = x ++ enclosed name a s b := by
  simp [enclosed]

theorem IsName.fold_letters (h : IsName name) : fold name.toList = name.toList := by
  have hcapitals : capitals.all (fun c => !c.isLower) = true := by decide
  refine (List.map_congr_left fun c hc => ?_).trans (List.map_id _)
  have hlower := h.letters c hc
  have hascii : c.toNat < 0x80 := by
    have hhigh : c.val ≤ 122 := of_decide_eq_true (Bool.and_eq_true_iff.1 hlower).2
    exact Nat.lt_of_le_of_lt (UInt32.le_iff_toNat_le.1 hhigh) (by decide)
  rw [foldLetter, if_pos hascii, toLower_eq_self fun hmem => ?_, id]
  have hnot := List.all_eq_true.1 hcapitals c hmem
  rw [hlower] at hnot
  cases hnot

theorem IsName.fold_tagEnd (h : IsName name) :
    fold (name.toList ++ ['>']) = name.toList ++ ['>'] := by
  rw [fold_append, h.fold_letters]
  rfl

theorem IsName.not_mem_tagEnd (h : IsName name) : '<' ∉ name.toList ++ ['>'] := by
  have hname := h.not_mem (c := '<') rfl
  simp [hname]

theorem written_openingTag (h : IsName name) (hs : ¬(named name).ClosedIn s) :
    Written name (openingTag name) s (named name).closing where
  opens := ⟨name.toList, [], rfl, h.fold_letters, List.not_mem_nil⟩
  unclosed := hs
  closes := congrArg ('<' :: '/' :: ·) h.fold_tagEnd

/-- An opening tag between two texts closes nothing. -/
theorem not_closedIn_append (h : IsName name) {v : List Char} (hv : ¬(named name).ClosedIn v)
    (hs : ¬(named name).ClosedIn s) : ¬(named name).ClosedIn (v ++ openingTag name ++ s) := by
  have hfold : fold (v ++ openingTag name ++ s) =
      fold v ++ '<' :: (name.toList ++ ['>'] ++ fold s) := by
    have htag : fold (openingTag name) = openingTag name := congrArg ('<' :: ·) h.fold_tagEnd
    rw [fold_append, fold_append, htag, List.append_assoc, openingTag, List.cons_append]
  have hslash : ¬ '/' :: (name.toList ++ ['>']) <+: name.toList ++ ['>'] ++ fold s := by
    obtain ⟨a, letters, hname⟩ := List.exists_cons_of_ne_nil h.ne_nil
    have ha : '/' ≠ a := by
      rintro rfl
      exact h.not_mem (c := '/') rfl (hname ▸ List.mem_cons_self)
    rw [hname]
    exact fun hprefix => ha (List.cons_prefix_cons.1 hprefix).1
  -- A closing tag has one `<` only, so that it stands on one side of the one in the opening tag.
  rw [ClosedIn, hfold, closing_named, infix_append_cons_iff h.not_mem_closing, List.infix_cons_iff,
    infix_append_iff_of_not_mem h.not_mem_tagEnd, List.cons_prefix_cons]
  rintro (hclosed | ⟨-, hprefix⟩ | hclosed)
  · exact hv hclosed
  · exact hslash hprefix
  · exact hs hclosed

/-- A content that begins before the enclosed element ends before it, or together with it. -/
theorem cutWord?_enclosed (h : IsName name) (v b : List Char) :
    (∃ x v', v'.length < v.length ∧ ∀ s, ¬(named name).ClosedIn s →
      cutWord? (named name).closing (enclosed name v s b) = some (x, enclosed name v' s b)) ∨
    ∃ x, ∀ s, ¬(named name).ClosedIn s →
      cutWord? (named name).closing (enclosed name v s b) = some (x ++ s, b) := by
  by_cases hv : (named name).ClosedIn v
  · obtain ⟨⟨x, v'⟩, hcut⟩ := Option.isSome_iff_exists.1 (isSome_cutWord?_iff_fold.2 hv)
    obtain ⟨m, rfl, hm, hx⟩ := (cutWord?_closing_eq_some_iff h).1 hcut
    have hlength : 0 < m.length := by
      rw [← length_fold, hm]
      exact Nat.succ_pos _
    refine .inl ⟨x, v', by simp; omega, fun s _ => ?_⟩
    rw [enclosed_append]
    exact (cutWord?_closing_eq_some_iff h).2 ⟨m, rfl, hm, hx⟩
  · refine .inr ⟨v ++ openingTag name, fun s hs => ?_⟩
    exact (cutWord?_closing_eq_some_iff h).2
      ⟨_, rfl, (written_openingTag h hs).closes, not_closedIn_append h hv hs⟩

/-- The same from within an opening tag, which may end with the one of the enclosed element. -/
theorem close_enclosed (h : IsName name) (r b : List Char) :
    (∃ x r', r'.length < r.length ∧ ∀ s, ¬(named name).ClosedIn s →
      (past? '>' (enclosed name r s b)).bind (cutWord? (named name).closing) =
        some (x, enclosed name r' s b)) ∨
    ∃ x, ∀ s, ¬(named name).ClosedIn s →
      (past? '>' (enclosed name r s b)).bind (cutWord? (named name).closing) =
        some (x ++ s, b) := by
  by_cases hr : '>' ∈ r
  · obtain ⟨u, v, rfl, hu⟩ := List.eq_append_cons_of_mem hr
    have hpast (s : List Char) :
        past? '>' (enclosed name (u ++ '>' :: v) s b) = some (enclosed name v s b) := by
      rw [enclosed_append]
      exact past?_append_cons hu _
    simp only [hpast, Option.bind_some]
    rcases cutWord?_enclosed h v b with ⟨x, v', hlt, hcut⟩ | hcut
    · refine .inl ⟨x, v', ?_, hcut⟩
      simp only [List.length_append, List.length_cons]
      omega
    · exact .inr hcut
  · refine .inr ⟨[], fun s hs => ?_⟩
    have hname : '>' ∉ r ++ '<' :: name.toList := by
      have hletters := h.not_mem (c := '>') rfl
      simp [hr, hletters]
    have hwhole : enclosed name r s b =
        r ++ '<' :: name.toList ++ '>' :: (s ++ (named name).closing ++ b) := by
      simp [enclosed, openingTag]
    rw [hwhole, past?_append_cons hname, Option.bind_some]
    exact (cutWord?_closing_eq_some_iff h).2 ⟨_, rfl, (written_openingTag h hs).closes, hs⟩

theorem dropWord?_enclosed (h : IsName name) (a s b : List Char) :
    dropWord? name.toList (enclosed name a s b) =
      (dropWord? name.toList a).map (enclosed name · s b) := by
  simp only [enclosed, openingTag, List.append_assoc, List.cons_append]
  exact dropWord?_append_cons (h.not_mem rfl) a _

theorem said_look_enclosed (h : IsName name) (c : Char) (a s b : List Char) :
    ((named name).look (c :: enclosed name a s b)).said =
      (if c = '<' then dropWord? name.toList a else none).map fun r =>
        (past? '>' (enclosed name r s b)).bind (cutWord? (named name).closing) := by
  rw [said_look_named, dropWord?_enclosed h, Option.map_map]
  split <;> rfl

theorem firstFind_enclosed_nil (h : IsName name) (hs : ¬(named name).ClosedIn s) (b : List Char) :
    firstFind (named name).look (enclosed name [] s b) = some ([], s, b) := by
  have hfound := (written_openingTag h hs).found h b
  rw [openingTag, List.cons_append, List.cons_append, List.cons_append] at hfound
  rw [enclosed, List.nil_append, openingTag, List.cons_append, List.cons_append,
    List.cons_append, firstFind_cons, hfound]

/-- The first element of the document stands before the enclosed one, or ends together with it. -/
theorem firstFind_enclosed (h : IsName name) (a b : List Char) :
    (∃ before content a', a'.length < a.length ∧ ∀ s, ¬(named name).ClosedIn s →
      firstFind (named name).look (enclosed name a s b) =
        some (before, content, enclosed name a' s b)) ∨
    ∃ before x, ∀ s, ¬(named name).ClosedIn s →
      firstFind (named name).look (enclosed name a s b) = some (before, x ++ s, b) := by
  induction a with
  | nil => exact .inr ⟨[], [], fun s hs => firstFind_enclosed_nil h hs b⟩
  | cons c a ih =>
    have hcons (s : List Char) : enclosed name (c :: a) s b = c :: enclosed name a s b := rfl
    simp only [hcons, firstFind_cons c, said_look_enclosed h]
    cases hr : if c = '<' then dropWord? name.toList a else none with
    | none =>
      rcases ih with ⟨before, content, a', hlt, hfind⟩ | ⟨before, x, hfind⟩
      · refine .inl ⟨c :: before, content, a', Nat.lt_succ_of_lt hlt, fun s hs => ?_⟩
        simp [hfind s hs]
      · refine .inr ⟨c :: before, x, fun s hs => ?_⟩
        simp [hfind s hs]
    | some r =>
      have hle : r.length ≤ a.length := by
        have hlength := length_of_dropWord? (Option.ite_none_right_eq_some.1 hr).2
        omega
      rcases close_enclosed h r b with ⟨x, r', hlt, hclose⟩ | ⟨x, hclose⟩
      · refine .inl ⟨[], x, r', by rw [List.length_cons]; omega, fun s hs => ?_⟩
        rw [Option.map_some, hclose s hs]
      · refine .inr ⟨[], x, fun s hs => ?_⟩
        rw [Option.map_some, hclose s hs]

/-- The content is part of the content of one element. All others, and all gaps, are the same for
every content, and behind the closing tag the document is read as if it began there. -/
theorem exists_findAll_enclosed (h : IsName name) (a b : List Char) :
    ∃ front gap x, ∀ s, ¬(named name).ClosedIn s →
      findAll (named name).look (enclosed name a s b) =
        (front ++ (gap, x ++ s) :: (findAll (named name).look b).1,
          (findAll (named name).look b).2) := by
  induction hn : a.length using Nat.strongRecOn generalizing a with
  | ind n ih =>
    subst hn
    rcases firstFind_enclosed h a b with ⟨before, content, a', hlt, hfirst⟩ | ⟨before, x, hfirst⟩
    · obtain ⟨front, gap, x, hall⟩ := ih a'.length hlt a' rfl
      refine ⟨(before, content) :: front, gap, x, fun s hs => ?_⟩
      rw [findAll_eq, hfirst s hs]
      show ((before, content) :: (findAll _ _).1, (findAll _ _).2) = _
      rw [hall s hs]
      rfl
    · refine ⟨[], before, x, fun s hs => ?_⟩
      rw [findAll_eq, hfirst s hs]
      rfl

theorem exists_replace_enclosed (h : IsName name) (fill a b : List Char) :
    ∃ kept, ∀ s, ¬(named name).ClosedIn s →
      (named name).replace fill (enclosed name a s b) = kept ++ (named name).replace fill b := by
  obtain ⟨front, gap, x, hall⟩ := exists_findAll_enclosed h a b
  refine ⟨front.flatMap (fun p => p.1 ++ fill) ++ (gap ++ fill), fun s hs => ?_⟩
  simp only [replace, Text.replace, hall s hs, List.flatMap_append, List.flatMap_cons,
    List.append_assoc]

theorem replace_enclosed_congr (h : IsName name) (fill a b : List Char) {s s' : List Char}
    (hs : ¬(named name).ClosedIn s) (hs' : ¬(named name).ClosedIn s') :
    (named name).replace fill (enclosed name a s b) =
      (named name).replace fill (enclosed name a s' b) := by
  obtain ⟨kept, hkept⟩ := exists_replace_enclosed h fill a b
  rw [hkept s hs, hkept s' hs']

/-! An element in plain text. -/

theorem firstFind_enclosed_plain (h : IsName name) {a : List Char} (ha : '<' ∉ a)
    (hs : ¬(named name).ClosedIn s) (b : List Char) :
    firstFind (named name).look (enclosed name a s b) = some (a, s, b) := by
  induction a with
  | nil => exact firstFind_enclosed_nil h hs b
  | cons c a ih =>
    have hc : c ≠ '<' := fun hc => ha (hc ▸ List.mem_cons_self)
    have hrest := ih fun hmem => ha (List.mem_cons_of_mem c hmem)
    show firstFind (named name).look (c :: enclosed name a s b) = _
    rw [firstFind_cons, said_look_enclosed h, if_neg hc, hrest]
    rfl

theorem contents_enclosed_plain (h : IsName name) {a b : List Char} (ha : '<' ∉ a) (hb : '<' ∉ b)
    (hs : ¬(named name).ClosedIn s) : (named name).contents (enclosed name a s b) = [s] := by
  rw [contents, contents_eq, firstFind_enclosed_plain h ha hs]
  show s :: Text.contents _ b = [s]
  rw [contents_eq_nil (firstFind_plain h hb)]

theorem replace_enclosed_plain (h : IsName name) (fill : List Char) {a b : List Char}
    (ha : '<' ∉ a) (hb : '<' ∉ b) (hs : ¬(named name).ClosedIn s) :
    (named name).replace fill (enclosed name a s b) = a ++ fill ++ b := by
  rw [replace, replace_eq, firstFind_enclosed_plain h ha hs]
  show a ++ fill ++ Text.replace _ fill b = _
  rw [replace_eq_self (firstFind_plain h hb)]

end Element

/-! Scripts. -/

variable {a b s : List Char}

theorem replace_script_plain (ha : '<' ∉ a) (hb : '<' ∉ b) (hs : ¬Element.script.ClosedIn s) :
    Element.script.replace [] (a ++ "<script>".toList ++ s ++ "</script>".toList ++ b) =
      a ++ b := by
  have hplain := Element.replace_enclosed_plain Element.isName_script [] ha hb hs
  rw [List.append_nil] at hplain
  exact hplain

theorem shown_around_script (ha : '<' ∉ a) (hb : '<' ∉ b) (hs : ¬Element.script.ClosedIn s) :
    visibleText (a ++ "<script>".toList ++ s ++ "</script>".toList ++ b) =
        trim (squeeze (a ++ b)) ∧
      renderedText (a ++ "<script>".toList ++ s ++ "</script>".toList ++ b) = trim (a ++ b) := by
  have hfree : TagFree (a ++ b) := tagFree_of_not_mem (List.not_mem_append ha hb)
  have hstyles : Element.style.replace [] (a ++ b) = a ++ b :=
    hfree.replace_eq_self Element.isName_style []
  rw [visibleText, renderedText, replace_script_plain ha hb hs, hstyles, hfree.withoutTags_eq]
  exact ⟨rfl, rfl⟩

/-- What a script contains is not shown, whatever stands around it. Plain text around it is shown
as if there were no script. -/
theorem script_not_shown (a b s s' : List Char) (hs : ¬Element.script.ClosedIn s)
    (hs' : ¬Element.script.ClosedIn s') :
    (visibleText (a ++ "<script>".toList ++ s ++ "</script>".toList ++ b) =
        visibleText (a ++ "<script>".toList ++ s' ++ "</script>".toList ++ b) ∧
      renderedText (a ++ "<script>".toList ++ s ++ "</script>".toList ++ b) =
        renderedText (a ++ "<script>".toList ++ s' ++ "</script>".toList ++ b)) ∧
    ('<' ∉ a → '<' ∉ b →
      visibleText (a ++ "<script>".toList ++ s ++ "</script>".toList ++ b) =
        trim (squeeze (a ++ b)) ∧
      renderedText (a ++ "<script>".toList ++ s ++ "</script>".toList ++ b) = trim (a ++ b)) := by
  have hscripts : Element.script.replace [] (Element.enclosed "script" a s b) =
      Element.script.replace [] (Element.enclosed "script" a s' b) :=
    Element.replace_enclosed_congr Element.isName_script [] a b hs hs'
  refine ⟨⟨?_, ?_⟩, fun ha hb => shown_around_script ha hb hs⟩
  · exact congrArg (fun t => trim (squeeze (withoutTags (Element.style.replace [] t)))) hscripts
  · exact congrArg (fun t => trim (withoutTags t)) hscripts

/-- A script that an earlier one runs into, and one in plain text, with tags in their content. -/
theorem script_not_shown_nested :
    let a := "<p>Lamp</p><SCRIPT src=x".toList
    let b := "<p>9 EUR</p>".toList
    let c := "Lamp ".toList
    let d := " 9 EUR".toList
    let s := "a <b> '<script>'".toList
    let s' := "</scrip>".toList
    (¬Element.script.ClosedIn s ∧ ¬Element.script.ClosedIn s' ∧ '<' ∉ c ∧ '<' ∉ d) ∧
    (visibleText (a ++ "<script>".toList ++ s ++ "</script>".toList ++ b) =
        visibleText (a ++ "<script>".toList ++ s' ++ "</script>".toList ++ b) ∧
      renderedText (a ++ "<script>".toList ++ s ++ "</script>".toList ++ b) =
        renderedText (a ++ "<script>".toList ++ s' ++ "</script>".toList ++ b)) ∧
    (visibleText (c ++ "<script>".toList ++ s ++ "</script>".toList ++ d) =
        trim (squeeze (c ++ d)) ∧
      renderedText (c ++ "<script>".toList ++ s ++ "</script>".toList ++ d) = trim (c ++ d)) := by
  intro a b c d s s'
  have hs : ¬Element.script.ClosedIn s := by decide
  have hs' : ¬Element.script.ClosedIn s' := by decide
  have hc : '<' ∉ c := by decide
  have hd : '<' ∉ d := by decide
  exact ⟨⟨hs, hs', hc, hd⟩, (script_not_shown a b s s' hs hs').1,
    (script_not_shown c d s s' hs hs').2 hc hd⟩

end SoftFail.Markup
