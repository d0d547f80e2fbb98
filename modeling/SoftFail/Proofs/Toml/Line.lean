import SoftFail.Proofs.Toml.Value

/-! Lines are read back as they were written: a key, and a value behind it. -/

namespace SoftFail.Toml

open Scan

variable {c : Char} {s rest : List Char} {v : Value} {name : String}

def Bare (name : String) : Prop := name.toList ≠ [] ∧ ∀ c ∈ name.toList, isBare c = true

instance (name : String) : Decidable (Bare name) :=
  decidable_of_iff (name.toList ≠ [] ∧ name.toList.all isBare = true) (by simp [Bare])

theorem keyText_of_bare (h : Bare name) : keyText name = name.toList := by
  have hne : name ≠ "" := fun hname => h.1 (by rw [hname]; rfl)
  rw [keyText, if_pos]
  simpa using ⟨hne, h.2⟩

theorem isSpace_of_isBare (h : isBare c = true) : isSpace c = false := by
  cases hspace : isSpace c with
  | false => rfl
  | true =>
    rcases (by simpa [isSpace] using hspace : c = ' ' ∨ c = '\t') with rfl | rfl <;> cases h

theorem spaces_reads {blank : List Char} (hblank : ∀ b ∈ blank, isSpace b = true)
    (hrest : Stops isSpace rest) : Reads spaces blank rest () :=
  (Reads.run hblank hrest).last (.pure _ _)

theorem key_reads (h : Bare name) {blank : List Char} (hblank : ∀ b ∈ blank, isSpace b = true)
    (hbare : Stops isBare rest) (hspace : Stops isSpace rest) (hdot : rest.head? ≠ some '.') :
    Reads key (name.toList ++ blank) rest ([], name) := by
  obtain ⟨hne, hchars⟩ := h
  obtain ⟨c, t, ht⟩ := List.exists_cons_of_ne_nil hne
  rw [ht] at hchars ⊢
  obtain ⟨hc, htail⟩ := List.forall_mem_cons.1 hchars
  have hstart : Reads spaces [] (c :: t ++ (blank ++ rest)) () :=
    spaces_reads (by simp) (stops_cons.2 (isSpace_of_isBare hc))
  have hdouble : c ≠ '"' := ne_of_holds hc rfl
  have hsingle : c ≠ '\'' := ne_of_holds hc rfl
  have hend : Stops isBare (blank ++ rest) := by
    cases blank with
    | nil => exact hbare
    | cons b blank =>
      refine stops_cons.2 (Bool.eq_false_iff.2 fun hb => ?_)
      have hspaced := hblank b List.mem_cons_self
      rw [isSpace_of_isBare hb] at hspaced
      cases hspaced
  have hname : Reads (basic <|> literal <|> run1 isBare) (c :: t) (blank ++ rest) (c :: t) :=
    .right (basic_refuses hdouble) (.right (.bind (.char (by simpa using hsingle)))
      (.run1 hc htail hend))
  have hpart : Reads keyPart (c :: t ++ blank) rest name := by
    have htext : name = String.ofList (c :: t) := by rw [← ht, String.ofList_toList]
    rw [htext]
    rw [← List.append_assoc] at hstart
    exact .first hstart (.bind hname (.last (spaces_reads hblank hspace) (.pure _ _)))
  have hparts : Reads (many do char '.'; keyPart) [] rest [] :=
    Many.reads (t := []) (.stop (.bind (.char hdot)))
  refine hpart.last (.first hparts ?_)
  dsimp only
  rw [if_pos (show [name].length < depth from by simp [depth])]
  exact .pure _ _

theorem lineEnd_reads (rest : List Char) : Reads lineEnd ['\n'] rest () := by
  have hspaces : Reads spaces [] ('\n' :: rest) () := spaces_reads (by simp) (stops_cons.2 rfl)
  have hcomment : Reads (maybe comment) [] ('\n' :: rest) none :=
    Refuses.none (.bind (.char (by simp)))
  exact .first hspaces (.first hcomment (.left (.left (.char _ _))))

def line (name : String) (text : List Char) : List Char :=
  name.toList ++ [' '] ++ ('=' :: ' ' :: (text ++ ['\n']))

theorem assignment_reads {d : Document} {fields : Fields} (hname : Bare name)
    (hv : ReadBack (depth - 1) v c s)
    (hfields : Fields.within .path (Fields.addValue [] name v) d.current .header d.fields =
      some fields)
    (rest : List Char) :
    Reads (assignment d) (line name (c :: s)) rest { d with fields } := by
  have hkey : Reads key (name.toList ++ [' ']) ('=' :: ' ' :: (c :: s) ++ '\n' :: rest)
      ([], name) :=
    key_reads hname (by simp [isSpace]) (stops_cons.2 rfl) (stops_cons.2 rfl) (by simp)
  have hspace : isSpace c = false := by
    have hopens := hv.opens
    rw [isGap, Bool.or_eq_false_iff] at hopens
    exact hopens.1
  have hspaces : Reads spaces [' '] (c :: s ++ ('\n' :: rest)) () :=
    spaces_reads (by simp [isSpace]) (stops_cons.2 hspace)
  have hvalue : Reads (value (depth - 1)) (c :: s) ('\n' :: rest) v :=
    hv.reads _ ⟨'\n', by simp, rfl⟩
  have hpair : Reads (pair (value (depth - 1))) (name.toList ++ [' '] ++ ('=' :: ' ' :: (c :: s)))
      ('\n' :: rest) (([], name), v) :=
    .bind hkey (.bind (t := ['=']) (.char _ _)
      (.bind (t := [' ']) hspaces (.last hvalue (.pure _ _))))
  have htext : line name (c :: s) = name.toList ++ [' '] ++ ('=' :: ' ' :: (c :: s)) ++ ['\n'] := by
    simp [line]
  rw [htext]
  refine .bind hpair (.last (lineEnd_reads rest) ?_)
  rw [hfields]
  exact .pure _ _

end SoftFail.Toml
