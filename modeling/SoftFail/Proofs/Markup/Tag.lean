import SoftFail.Proofs.Markup.Written
import SoftFail.Proofs.Text.Blank

/-! Texts without tags. Taking the tags out of a text leaves none and makes none, and in a text
without tags there are no elements either. -/

namespace SoftFail.Markup

open Text

variable {s : List Char}

/-- What follows a `<` is its `>`, or no `>` at all. -/
def TagFree (s : List Char) : Prop :=
  ∀ x y, s = x ++ '<' :: y → y.head? = some '>' ∨ '>' ∉ y

theorem tagFree_cons_iff {c : Char} :
    TagFree (c :: s) ↔ (c = '<' → s.head? = some '>' ∨ '>' ∉ s) ∧ TagFree s := by
  constructor
  · intro h
    refine ⟨?_, fun x y hs => h (c :: x) y (by rw [hs]; rfl)⟩
    rintro rfl
    exact h [] s rfl
  · rintro ⟨hc, hs⟩ x y hxy
    cases x with
    | nil =>
      obtain ⟨rfl, rfl⟩ := List.cons.inj hxy
      exact hc rfl
    | cons a x => exact hs x y (List.cons.inj hxy).2

theorem tagFree_of_not_mem (h : '<' ∉ s) : TagFree s :=
  fun x y hs => absurd (by simp [hs]) h

/-! What a look for a tag says. -/

theorem said_tagLook_eq_none_iff {c : Char} :
    (tagLook (c :: s)).said = none ↔ (c = '<' → s.head? = some '>') := by
  rw [said_tagLook]
  by_cases hc : c = '<'
  · rw [if_pos hc, forall_prop_of_true hc]
    cases hpast : past? '>' s with
    | none =>
      have hnot : s.head? ≠ some '>' := fun hhead =>
        past?_eq_none_iff.1 hpast (List.mem_of_mem_head? hhead)
      simp [hnot]
    | some r => by_cases hhead : s.head? = some '>' <;> simp [hhead]
  · rw [if_neg hc]
    exact iff_of_true rfl fun h => absurd h hc

theorem said_tagLook_eq_stop_iff {c : Char} :
    (tagLook (c :: s)).said = some none ↔ c = '<' ∧ '>' ∉ s := by
  rw [said_tagLook, ← past?_eq_none_iff]
  by_cases hc : c = '<'
  · rw [if_pos hc, and_iff_right hc]
    cases past? '>' s with
    | none => simp
    | some r => by_cases hhead : s.head? = some '>' <;> simp [hhead]
  · simp [hc]

theorem said_tagLook_eq_found_iff {c : Char} {content : Unit} {rest : List Char} :
    (tagLook (c :: s)).said = some (some (content, rest)) ↔
      c = '<' ∧ s.head? ≠ some '>' ∧ past? '>' s = some rest := by
  rw [said_tagLook]
  by_cases hc : c = '<'
  · rw [if_pos hc, and_iff_right hc]
    cases past? '>' s with
    | none => simp
    | some r => by_cases hhead : s.head? = some '>' <;> simp [hhead]
  · simp [hc]

theorem firstFind_tagLook_eq_none_iff : firstFind tagLook s = none ↔ TagFree s := by
  induction s with
  | nil => simp [firstFind, TagFree]
  | cons c s ih =>
    rw [firstFind_cons, tagFree_cons_iff, ← ih]
    split
    next hpass =>
      rw [said_tagLook_eq_none_iff] at hpass
      rw [Option.map_eq_none_iff]
      exact ⟨fun hnone => ⟨fun hc => .inl (hpass hc), hnone⟩, And.right⟩
    next hstop =>
      -- Behind a `<` that nothing closes, nothing closes any other.
      obtain ⟨-, hclose⟩ := said_tagLook_eq_stop_iff.1 hstop
      have hfree : TagFree s := fun x y hs => .inr fun hmem => hclose (by simp [hs, hmem])
      exact iff_of_true rfl ⟨fun _ => .inr hclose, ih.2 hfree⟩
    next hfound =>
      obtain ⟨hc, hhead, hpast⟩ := said_tagLook_eq_found_iff.1 hfound
      obtain ⟨u, rfl, -⟩ := past?_eq_some_iff.1 hpast
      refine iff_of_false (Option.some_ne_none _) fun h => ?_
      rcases h.1 hc with hhead' | hclose
      · exact hhead hhead'
      · exact hclose (by simp)

/-- In front of a tag, every `<` has its `>` at once. -/
theorem head?_of_firstFind_tagLook {before rest x y : List Char} {content : Unit}
    (hf : firstFind tagLook s = some (before, content, rest)) (hbefore : before = x ++ '<' :: y) :
    y.head? = some '>' := by
  obtain ⟨t, -, hfound, hpass⟩ := firstFind_eq_some hf
  have hsaid := hpass x ('<' :: y) hbefore (List.cons_ne_nil _ y)
  have hhead : (y ++ t).head? = some '>' := said_tagLook_eq_none_iff.1 hsaid rfl
  cases y with
  | nil =>
    obtain ⟨t, rfl⟩ := List.head?_eq_some_iff.1 hhead
    exact absurd (said_tagLook_eq_found_iff.1 hfound).1 (by decide)
  | cons c y => exact hhead

/-! What is left without the tags. -/

theorem TagFree.behind {before : List Char} (h : TagFree s)
    (hbefore : ∀ x y, before = x ++ '<' :: y → y.head? = some '>') : TagFree (before ++ s) := by
  intro x y hxy
  rcases List.append_eq_append_iff.1 hxy with ⟨z, rfl, hs⟩ | ⟨z, rfl, hs⟩
  · exact h z y hs
  · cases z with
    | nil => exact h [] y hs.symm
    | cons c z =>
      obtain ⟨rfl, rfl⟩ := List.cons.inj hs
      have hhead : (z ++ s).head? = some '>' := by
        rw [List.head?_append, hbefore x z rfl]
        rfl
      exact .inl hhead

theorem tagFree_withoutTags (s : List Char) : TagFree (withoutTags s) := by
  induction s using induction_on_finds tagLook with
  | step s ih =>
    rw [withoutTags, replace_eq]
    cases hf : firstFind tagLook s with
    | none => exact firstFind_tagLook_eq_none_iff.1 hf
    | some f =>
      obtain ⟨before, content, rest⟩ := f
      show TagFree (before ++ [] ++ withoutTags rest)
      rw [List.append_nil]
      exact (ih before content rest hf).behind fun x y => head?_of_firstFind_tagLook hf

theorem withoutTags_sublist (s : List Char) : (withoutTags s).Sublist s := by
  refine Text.replace_nil_sublist (fun t content rest hfound => ?_) s
  cases t with
  | nil => cases hfound
  | cons c t =>
    obtain ⟨-, -, hpast⟩ := said_tagLook_eq_found_iff.1 hfound
    obtain ⟨u, rfl, -⟩ := past?_eq_some_iff.1 hpast
    exact ⟨c :: (u ++ ['>']), by simp⟩

namespace TagFree

theorem withoutTags_eq (h : TagFree s) : withoutTags s = s :=
  Text.replace_eq_self (firstFind_tagLook_eq_none_iff.2 h) []

theorem not_hasElement (h : TagFree s) {name : String} (hname : Element.IsName name) :
    ¬Element.HasElement name s := by
  rintro ⟨opening, content, closing, hw, x, z, rfl⟩
  obtain ⟨m, u, rfl, hm, -⟩ := hw.opens
  rcases h x (m ++ (u ++ ['>']) ++ content ++ closing ++ z) (by simp) with hclose | hnone
  · cases m with
    | nil => exact hname.ne_nil hm.symm
    | cons c m =>
      obtain rfl : c = '>' := Option.some.inj hclose
      refine hname.not_mem (c := '>') rfl ?_
      rw [← hm]
      exact List.mem_cons_self
  · exact hnone (by simp)

theorem replace_eq_self (h : TagFree s) {name : String} (hname : Element.IsName name)
    (fill : List Char) : (Element.named name).replace fill s = s :=
  Text.replace_eq_self ((Element.firstFind_eq_none_iff hname).2 (h.not_hasElement hname)) fill

theorem squeeze (h : TagFree s) : TagFree (squeeze s) := by
  induction s with
  | nil => exact h
  | cons c s ih =>
    obtain ⟨hc, hs⟩ := tagFree_cons_iff.1 h
    rw [squeeze_cons]
    split_ifs with hblank hhead
    · exact ih hs
    · exact tagFree_cons_iff.2 ⟨fun h => absurd h (by decide), ih hs⟩
    · refine tagFree_cons_iff.2 ⟨fun hbracket => ?_, ih hs⟩
      rcases hc hbracket with hclose | hnone
      · exact .inl (head?_squeeze_of_not_isBlank (by decide) hclose)
      · refine .inr fun hmem => ?_
        rcases mem_squeeze hmem with hspace | ⟨hmem, -⟩
        · exact absurd hspace (by decide)
        · exact hnone hmem

theorem trim (h : TagFree s) : TagFree (trim s) := by
  obtain ⟨x, z, hs, -, hz⟩ := exists_trim s
  intro u y hy
  rcases h (x ++ u) (y ++ z) (by rw [hs, hy]; simp) with hclose | hnone
  · left
    cases y with
    | nil =>
      -- The blanks that are cut off do not begin with the `>` of a `<` before them.
      obtain ⟨t, rfl⟩ := List.head?_eq_some_iff.1 hclose
      exact absurd (hz '>' List.mem_cons_self) (by decide)
    | cons c y => exact hclose
  · exact .inr fun hmem => hnone (List.mem_append_left z hmem)

end TagFree

end SoftFail.Markup
