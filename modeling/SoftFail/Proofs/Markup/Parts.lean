import SoftFail.Proofs.Markup.Written

/-! Documents divided into the elements of a name and the gaps between them. No gap in front of an
element begins a tag of that name, so that a blank in place of each element joins the gaps to
nothing new. -/

namespace SoftFail.Markup

open Text

namespace Element

variable {name : String} {content rest s x : List Char}

def Untagged (name : String) (s : List Char) : Prop := ¬ '<' :: name.toList <:+: fold s

theorem untagged_of_firstFind {before : List Char}
    (hf : firstFind (named name).look s = some (before, content, rest)) :
    Untagged name before := by
  rintro ⟨x, z, hwithin⟩
  obtain ⟨t, -, -, hpass⟩ := firstFind_eq_some hf
  rw [List.append_assoc] at hwithin
  obtain ⟨u, v, hbefore, -, hv⟩ := List.map_eq_append_iff.1 hwithin.symm
  cases v with
  | nil => cases hv
  | cons c v =>
    have hsaid := hpass u (c :: v) hbefore (List.cons_ne_nil c v)
    rw [List.cons_append, said_look_eq_none_iff, ← List.cons_append, fold_append] at hsaid
    exact hsaid (List.IsPrefix.trans ⟨z, hv.symm⟩ (List.prefix_append _ _))

theorem firstFind_behind_untagged (h : IsName name) (hx : Untagged name x)
    (hs : firstFind (named name).look s = none) :
    firstFind (named name).look (x ++ ' ' :: s) = none := by
  induction x with
  | nil =>
    rw [List.nil_append, firstFind_cons, said_look_named, if_neg (by decide)]
    exact Option.map_eq_none_iff.2 hs
  | cons c x ih =>
    -- The blank ends every name that begins before it.
    have hblank : ' ' ∉ '<' :: name.toList :=
      List.not_mem_cons_of_ne_of_not_mem (by decide) (h.not_mem rfl)
    have hfold : fold (c :: (x ++ ' ' :: s)) = fold (c :: x) ++ ' ' :: fold s := by
      rw [← List.cons_append, fold_append]
      rfl
    have hpass : ((named name).look (c :: (x ++ ' ' :: s))).said = none := by
      rw [said_look_eq_none_iff, hfold, prefix_append_cons_iff hblank]
      exact fun hprefix => hx hprefix.isInfix
    rw [List.cons_append, firstFind_cons, hpass]
    exact Option.map_eq_none_iff.2 (ih fun hwithin => hx (List.infix_cons hwithin))

structure Part where
  gap : List Char
  opening : List Char
  content : List Char
  closing : List Char

namespace Part

def text (p : Part) : List Char := p.gap ++ p.opening ++ p.content ++ p.closing

def filled (fill : List Char) (p : Part) : List Char := p.gap ++ fill

structure Valid (name : String) (p : Part) : Prop where
  untagged : Untagged name p.gap
  written : Written name p.opening p.content p.closing

end Part

/-- What is taken from a document and what is left of it come from one division of it. -/
theorem exists_parts (h : IsName name) (s : List Char) :
    ∃ (parts : List Part) (last : List Char),
      s = parts.flatMap Part.text ++ last ∧ (∀ p ∈ parts, p.Valid name) ∧
      (named name).contents s = parts.map Part.content ∧
      (∀ fill, (named name).replace fill s = parts.flatMap (Part.filled fill) ++ last) ∧
      firstFind (named name).look last = none := by
  induction s using induction_on_finds (named name).look with
  | step s ih =>
    cases hf : firstFind (named name).look s with
    | none => exact ⟨[], s, rfl, by simp, contents_eq_nil hf, replace_eq_self hf, hf⟩
    | some f =>
      obtain ⟨before, content, rest⟩ := f
      obtain ⟨parts, last, hrest, hvalid, hcontents, hreplace, hlast⟩ := ih before content rest hf
      obtain ⟨t, hs, hfound, -⟩ := firstFind_eq_some hf
      obtain ⟨opening, closing, hw, rfl⟩ := (said_look_eq_found_iff h).1 hfound
      refine ⟨⟨before, opening, content, closing⟩ :: parts, last, ?_, ?_, ?_, fun fill => ?_, hlast⟩
      · rw [hs, hrest]
        simp [Part.text]
      · exact List.forall_mem_cons.2 ⟨⟨untagged_of_firstFind hf, hw⟩, hvalid⟩
      · rw [contents, contents_eq, hf, List.map_cons, ← hcontents]
        rfl
      · have hfill := hreplace fill
        rw [replace] at hfill ⊢
        rw [replace_eq, hf]
        simp [hfill, Part.filled]

theorem firstFind_filled (h : IsName name) {parts : List Part} {last : List Char}
    (hparts : ∀ p ∈ parts, p.Valid name) (hlast : firstFind (named name).look last = none) :
    firstFind (named name).look (parts.flatMap (Part.filled [' ']) ++ last) = none := by
  induction parts with
  | nil => exact hlast
  | cons p parts ih =>
    obtain ⟨hp, hparts⟩ := List.forall_mem_cons.1 hparts
    have hrest := firstFind_behind_untagged h hp.untagged (ih hparts)
    rw [List.flatMap_cons, Part.filled, List.append_assoc, List.append_assoc]
    exact hrest

end Element

/-- The contents for readers without scripts are taken from the very elements that are blanked out,
and none is left behind. -/
theorem noscript_divided (html : List Char) :
    ∃ (parts : List Element.Part) (last : List Char),
      html = parts.flatMap (fun p => p.gap ++ p.opening ++ p.content ++ p.closing) ++ last ∧
      (∀ p ∈ parts, Element.Written "noscript" p.opening p.content p.closing) ∧
      noscriptContents html = parts.map Element.Part.content ∧
      withoutNoscript html = parts.flatMap (fun p => p.gap ++ [' ']) ++ last ∧
      ¬Element.HasElement "noscript" (withoutNoscript html) ∧
      noscriptContents (withoutNoscript html) = [] ∧
      withoutNoscript (withoutNoscript html) = withoutNoscript html := by
  have hname := Element.isName_noscript
  obtain ⟨parts, last, hhtml, hvalid, hcontents, hreplace, hlast⟩ := Element.exists_parts hname html
  have hwithout : withoutNoscript html = parts.flatMap (Element.Part.filled [' ']) ++ last :=
    hreplace [' ']
  have hnone : firstFind Element.noscript.look (withoutNoscript html) = none := by
    rw [hwithout]
    exact Element.firstFind_filled hname hvalid hlast
  have hleft : ¬Element.HasElement "noscript" (withoutNoscript html) :=
    (Element.firstFind_eq_none_iff hname).1 hnone
  exact ⟨parts, last, hhtml, fun p hp => (hvalid p hp).written, hcontents, hwithout, hleft,
    contents_eq_nil hnone, replace_eq_self hnone [' ']⟩

end SoftFail.Markup
