import SoftFail.Proofs.Markup.LetterCase
import SoftFail.Proofs.Regex.Source
import SoftFail.Proofs.Text.Expression
import SoftFail.Proofs.Text.Repeated

/-! Elements and tags as expressions. -/

namespace SoftFail.Markup

open Regex Text

namespace Element

variable {e : Element} {s r : List Char}

def tagSteps (e : Element) : List Step := e.opening ++ [.through '>']

/-- The content is the first group of the expression. -/
def expr (e : Element) : Expr :=
  .concat (.empty :: .set (.letter true '<') :: (e.tagSteps.flatMap (Step.exprs true) ++
    .capture 1 (.repeated (.set .any) 0 none false) :: Expr.word e.closing))

def isReadable (e : Element) : Bool :=
  Text.isReadable e.tagSteps && e.closing.all CharSet.isPlain && e.opening.all fun
    | .word text => '>' ∉ text
    | .blanks | .gap => true
    | .literal _ | .through _ | .valueWith _ | .digits => false

def found (here : Cursor) (r : List Char) (p : List Char × List Char) : Match :=
  ⟨here.span (here.leaving p.2), some ⟨p.1.length, r⟩, here.leaving p.2⟩

theorem read_content {w : List Char} (hw : w.all CharSet.isPlain = true) (here : Cursor)
    (t : Thread) :
    (.capture 1 (.repeated (.set .any) 0 none false) :: Expr.word w).foldr Expr.read .done here t =
      (cutWord? w here.rest).map fun p =>
        ⟨t.start.span (here.leaving p.2), some ⟨p.1.length, here.rest⟩, here.leaving p.2⟩ := by
  have hclose (there : Cursor) : (Expr.word w).foldr Expr.read .done there
      ⟨t.pc, t.start, some here, some (here.span there)⟩ = (dropWord? w there.rest).map fun r =>
        ⟨t.start.span (there.leaving r), some (here.span there), there.leaving r⟩ := by
    rw [reads_word hw, Option.map_eq_bind]
    rfl
  have hany : CharSet.any.Is fun _ => true := fun _ => rfl
  refine (star_cut hany hclose here).trans (Option.map_congr fun p hp => ?_)
  obtain ⟨m, hrest⟩ := append_of_cutWord? hp
  have hdrop : here.rest.drop p.1.length = m ++ p.2 := by rw [hrest, List.drop_left]
  have hlength : here.rest.length - (m ++ p.2).length = p.1.length := by
    rw [hrest, List.length_append, Nat.add_sub_cancel]
  rw [hdrop, Cursor.leaving_leaving ⟨p.1, hrest.symm⟩ (List.suffix_append m p.2)]
  simp only [Cursor.span, Cursor.leaving, hlength, Nat.add_sub_cancel_left]

theorem at?_expr (he : e.isReadable = true) (here : Cursor) : e.expr.at? here =
    (behind? (· = '<') (stepsRest? e.tagSteps) here.rest).bind fun r =>
      (cutWord? e.closing r).map (found here r) := by
  obtain ⟨he, -⟩ := Bool.and_eq_true_iff.1 he
  obtain ⟨hsteps, hclosing⟩ := Bool.and_eq_true_iff.1 he
  have hlast : ∀ step ∈ e.tagSteps.getLast?, step.run? = none := by
    rw [tagSteps, List.getLast?_concat]
    rintro _ ⟨⟩
    rfl
  have hmark : CharSet.isMark '<' = true := by decide
  have hshortens := shortens_steps e.tagSteps
  have htag (next : Onward) : Reads (.set (.letter true '<') :: e.tagSteps.flatMap
      (Step.exprs true)) (behind? (· = '<') (stepsRest? e.tagSteps)) next :=
    (reads_steps hsteps (.inl hlast)).set hshortens (CharSet.is_letter_mark true hmark)
  rw [Expr.at?, expr, Expr.read_concat, List.foldr_cons, ← List.cons_append, List.foldr_append]
  refine (htag _ here (.at here 0)).trans (Option.bind_congr fun r hr => ?_)
  refine (read_content hclosing (here.leaving r) (.at here 0)).trans
    (Option.map_congr fun p hp => ?_)
  obtain ⟨m, hp⟩ := append_of_cutWord? hp
  have hp : p.2 <:+ r := ⟨p.1 ++ m, by rw [List.append_assoc]; exact hp.symm⟩
  rw [found, Cursor.leaving_leaving (hshortens.behind? _ _ _ hr) hp]
  rfl

theorem stepsRest?_tagSteps (e : Element) (s : List Char) :
    stepsRest? e.tagSteps s = (stepsRest? e.opening s).bind (past? '>') := by
  have hthrough : stepsRest? [.through '>'] = past? '>' := funext fun r => Option.bind_fun_some _
  rw [tagSteps, stepsRest?_concat, hthrough]

theorem past?_dropBlanks (s : List Char) : past? '>' (s.dropWhile isBlank) = past? '>' s := by
  rw [← past?_append_of_not_mem (fun h => ?_), List.takeWhile_append_dropWhile]
  have hblank := List.all_eq_true.1 (List.all_takeWhile (p := isBlank)) '>' h
  cases hblank

theorem past?_opening (he : e.isReadable = true) (h : stepsRest? e.opening s = some r) :
    past? '>' s = past? '>' r := by
  obtain ⟨-, he⟩ := Bool.and_eq_true_iff.1 he
  generalize e.opening = steps at he h
  induction steps generalizing s with
  | nil => rw [Option.some.inj h]
  | cons step steps ih =>
    obtain ⟨hstep, hsteps⟩ := Bool.and_eq_true_iff.1 he
    obtain ⟨t, ht, hr⟩ := Option.bind_eq_some_iff.1 h
    rw [← ih hsteps hr]
    cases step with
    | word text =>
      obtain ⟨m, rfl, rfl⟩ := dropWord?_eq_some_iff_fold.1 ht
      refine past?_append_of_not_mem (fun hmem => ?_) t
      exact of_decide_eq_true hstep (List.mem_map_of_mem (f := foldLetter) hmem)
    | blanks =>
      obtain rfl := Option.some.inj ht
      exact (past?_dropBlanks s).symm
    | gap =>
      obtain rfl := Option.some.inj (Option.ite_none_right_eq_some.1 ht).2
      exact (past?_dropBlanks s).symm
    | literal | through | valueWith | digits => cases hstep

theorem exists_of_at? (he : e.isReadable = true) {here : Cursor} {m : Match}
    (h : e.expr.at? here = some m) : ∃ t q p, t <:+ here.rest ∧ past? '>' t = some q ∧
      cutWord? e.closing q = some p := by
  rw [at?_expr he, Option.bind_eq_some_iff] at h
  obtain ⟨q, hq, h⟩ := h
  obtain ⟨p, hp, -⟩ := Option.map_eq_some_iff.1 h
  cases hrest : here.rest with
  | nil =>
    rw [hrest] at hq
    cases hq
  | cons c s =>
    rw [hrest] at hq
    have hq := (Option.ite_none_right_eq_some.1 hq).2
    rw [stepsRest?_tagSteps, Option.bind_eq_some_iff] at hq
    obtain ⟨t, ht, hq⟩ := hq
    exact ⟨t, q, p, (shortens_steps e.opening s t ht).trans (List.suffix_cons c s), hq, hp⟩

/-- Behind a tag that is not closed there is no element. -/
theorem at?_eq_none_of_stop {here there : Cursor} (he : e.isReadable = true)
    (hrest : here.rest = '<' :: s) (hr : stepsRest? e.opening s = some r)
    (hstop : (past? '>' r).bind (cutWord? e.closing) = none) (hthere : there.rest <:+ here.rest) :
    e.expr.at? there = none := by
  by_contra hne
  obtain ⟨m, hm⟩ := Option.ne_none_iff_exists'.1 hne
  obtain ⟨t, q, p, ht, hq, hp⟩ := exists_of_at? he hm
  have ht := ht.trans hthere
  have hpast : past? '>' here.rest = past? '>' r := by
    rw [hrest, past?_cons, if_neg (by decide), past?_opening he hr]
  cases hpastr : past? '>' r with
  | none =>
    rw [hpastr, past?_eq_none_iff] at hpast
    obtain ⟨u, hu, -⟩ := past?_eq_some_iff.1 hq
    exact hpast (ht.subset (by simp [hu]))
  | some w =>
    rw [hpastr] at hpast hstop
    have hsuffix : q <:+ w := Template.suffix_of_past? ht hpast hq
    have hin : e.closing <:+: fold q := isSome_cutWord?_iff_fold.1 (by rw [hp]; rfl)
    have hsome : (cutWord? e.closing w).isSome = true :=
      isSome_cutWord?_iff_fold.2 (hin.trans (hsuffix.isInfix.map foldLetter))
    rw [Option.bind_some] at hstop
    rw [hstop] at hsome
    cases hsome

theorem groupText_found (here : Cursor) (p : List Char × List Char) (m : List Char) :
    (found here (p.1 ++ m) p).groupText = p.1 := List.take_left

theorem advances_expr (e : Element) : e.expr.advances = true := by
  have hword : (Expr.word e.closing).all Expr.advances = true := by
    rw [Expr.word, List.all_map]
    exact List.all_eq_true.2 fun _ _ => rfl
  have htag : (e.tagSteps.flatMap (Step.exprs true)).all Expr.advances = true := by
    rw [List.all_flatMap]
    exact List.all_eq_true.2 fun step _ => advances_exprs step
  rw [expr, Expr.advances_concat, List.all_cons, List.all_cons, List.all_append, List.all_cons,
    htag, hword]
  rfl

/-- The look for an element finds what its expression matches. -/
theorem scanned_expr (he : e.isReadable = true) : e.expr.Scanned e.look Match.groupText := by
  intro here
  have hat := at?_expr he here
  cases hrest : here.rest with
  | nil =>
    rw [hrest] at hat
    exact .pass hat
  | cons c s =>
    rw [hrest, behind?, stepsRest?_tagSteps] at hat
    rw [said_look]
    by_cases hc : c = '<'
    · subst hc
      rw [if_pos (decide_eq_true rfl)] at hat
      rw [if_pos rfl]
      cases hr : stepsRest? e.opening s with
      | none =>
        rw [hr] at hat
        exact .pass hat
      | some r =>
        rw [hr, Option.bind_some] at hat
        rw [Option.map_some]
        cases hstop : (past? '>' r).bind (cutWord? e.closing) with
        | none => exact .stop fun there hthere => at?_eq_none_of_stop he hrest hr hstop hthere
        | some p =>
          obtain ⟨q, hq, hp⟩ := Option.bind_eq_some_iff.1 hstop
          rw [hq, Option.bind_some, hp, Option.map_some] at hat
          obtain ⟨m, hm⟩ := append_of_cutWord? hp
          have hlt : here.offset < (found here q p).stop.offset := by
            have hle := length_of_stepsRest? hr
            have hlt := length_of_past? hq
            have hlength := congrArg List.length hm
            rw [List.length_append, List.length_append] at hlength
            show here.offset < here.offset + (here.rest.length - p.2.length)
            rw [hrest, List.length_cons]
            omega
          have hsees : Sees e.expr Match.groupText here _ := .found hat rfl hlt
          rw [hm, groupText_found] at hsees
          exact hsees
    · rw [if_neg (by simpa using hc)] at hat
      rw [if_neg hc]
      exact .pass hat

theorem contents_eq_map (he : e.isReadable = true) (s : List Char) :
    e.contents s = (e.expr.program.allMatches s).map Match.groupText :=
  (scanned_expr he).contents_eq (advances_expr e) s

theorem replace_eq_replaceAll (he : e.isReadable = true) (fill s : List Char) :
    e.replace fill s = e.expr.program.replaceAll fill s :=
  (scanned_expr he).replace_eq (advances_expr e) fill s

end Element

def tagExprs : List Expr :=
  [.set (.letter false '<'), .repeated (.set (.other false '>')) 1 none true,
    .set (.letter false '>')]

def tagExpr : Expr := .concat tagExprs

def tagRest? : List Char → Option (List Char) := behind? (· = '<') (behind? (· ≠ '>') (past? '>'))

theorem reads_tag : Reads tagExprs tagRest? .done := by
  have hopen : CharSet.isMark '<' = true := by decide
  have hclose : CharSet.isMark '>' = true := by decide
  have hother := CharSet.is_other false hclose
  have hpast := shortens_past? '>'
  have hread : Reads [.repeated (.set (.other false '>')) 1 none true, .set (.letter false '>')]
      (behind? (· ≠ '>') (past? '>')) .done :=
    (reads_past true hother (CharSet.is_letter_mark false hclose) .done).set hpast hother
  exact hread.set (hpast.behind? _) (CharSet.is_letter_mark false hopen)

theorem tagRest?_cons (c : Char) (s : List Char) : tagRest? (c :: s) =
    if c = '<' then if s.head? = some '>' then none else past? '>' s else none := by
  rw [tagRest?, behind?]
  simp only [decide_eq_true_eq]
  congr 1
  cases s with
  | nil => rfl
  | cons d s =>
    rw [behind?, past?_cons, List.head?_cons]
    by_cases hd : d = '>' <;> simp [hd]

theorem mem_of_tagRest? {s r : List Char} (h : tagRest? s = some r) : '>' ∈ s := by
  cases s with
  | nil => cases h
  | cons c s =>
    rw [tagRest?_cons] at h
    obtain ⟨-, h⟩ := Option.ite_none_right_eq_some.1 h
    obtain ⟨-, h⟩ := Option.ite_none_left_eq_some.1 h
    obtain ⟨u, rfl, -⟩ := past?_eq_some_iff.1 h
    simp

theorem scanned_tagExpr : tagExpr.Scanned tagLook fun _ => () := by
  intro here
  have hat := reads_tag.at? here
  cases hrest : here.rest with
  | nil =>
    rw [hrest] at hat
    exact .pass hat
  | cons c s =>
    rw [hrest, tagRest?_cons] at hat
    rw [said_tagLook]
    by_cases hc : c = '<'
    · rw [if_pos hc] at hat ⊢
      cases hpast : past? '>' s with
      | none =>
        refine .stop fun there hthere => ?_
        have hnot : '>' ∉ here.rest := by
          rw [hrest, hc, List.mem_cons, not_or]
          exact ⟨by decide, past?_eq_none_iff.1 hpast⟩
        have hnone : tagRest? there.rest = none := Option.eq_none_iff_forall_ne_some.2 fun r hr =>
          hnot (hthere.subset (mem_of_tagRest? hr))
        exact (reads_tag.at? there).trans (by rw [hnone]; rfl)
      | some r =>
        rw [hpast] at hat
        dsimp only
        by_cases hhead : s.head? = some '>'
        · rw [if_pos hhead] at hat ⊢
          exact .pass hat
        · rw [if_neg hhead] at hat ⊢
          have hlt := length_of_past? hpast
          refine .found hat rfl ?_
          show here.offset < here.offset + (here.rest.length - r.length)
          rw [hrest, List.length_cons]
          omega
    · rw [if_neg hc] at hat ⊢
      exact .pass hat

theorem withoutTags_eq_replaced (s : List Char) :
    withoutTags s = replaced false "<[^>]+>" [] s := by
  have hread : expr? false "<[^>]+>" = some tagExpr := rfl
  rw [replaced_eq hread]
  exact scanned_tagExpr.replace_eq rfl [] s

theorem Element.replace_eq_replaced {e : Element} {source : String} (he : e.isReadable = true)
    (hread : expr? false source = some e.expr ∨ expr? false source = some e.expr.ungrouped)
    (fill s : List Char) : e.replace fill s = replaced false source fill s := by
  rw [e.replace_eq_replaceAll he]
  rcases hread with hread | hread
  · rw [replaced_eq hread]
  · rw [replaced_eq hread, Expr.replaceAll_ungrouped]

theorem expr?_script :
    expr? false "(?is)<script[^>]*>.*?</script>" = some Element.script.expr.ungrouped := rfl

theorem expr?_style :
    expr? false "(?is)<style[^>]*>.*?</style>" = some Element.style.expr.ungrouped := rfl

/-- The text that is seen, by the expressions of what is taken out of it. -/
theorem visibleText_eq_replaced (s : List Char) : visibleText s =
    trim (replaced false "\\s+" [' '] (replaced false "<[^>]+>" []
      (replaced false "(?is)<style[^>]*>.*?</style>" []
        (replaced false "(?is)<script[^>]*>.*?</script>" [] s)))) := by
  have hspace : expr? false "\\s+" = some (.repeated (.set .blank) 1 none true) := rfl
  rw [visibleText, squeeze_eq_replaceAll, ← replaced_eq hspace, withoutTags_eq_replaced,
    Element.replace_eq_replaced (by decide) (.inr expr?_style),
    Element.replace_eq_replaced (by decide) (.inr expr?_script)]

theorem renderedText_eq_replaced (s : List Char) : renderedText s =
    trim (replaced false "<[^>]+>" [] (replaced false "(?is)<script[^>]*>.*?</script>" [] s)) := by
  rw [renderedText, withoutTags_eq_replaced,
    Element.replace_eq_replaced (by decide) (.inr expr?_script)]

theorem expr?_noscript :
    expr? false "(?is)<noscript[^>]*>(.*?)</noscript>" = some Element.noscript.expr := rfl

theorem noscriptContents_eq_map (s : List Char) : noscriptContents s =
    (found false "(?is)<noscript[^>]*>(.*?)</noscript>" s).map Match.groupText := by
  rw [found_eq expr?_noscript]
  exact Element.noscript.contents_eq_map (by decide) s

theorem withoutNoscript_eq_replaced (s : List Char) :
    withoutNoscript s = replaced false "(?is)<noscript[^>]*>(.*?)</noscript>" [' '] s :=
  Element.replace_eq_replaced (by decide) (.inl expr?_noscript) [' '] s

def linkedDataSource : String :=
  "(?is)<script\\s+type=\"application/ld\\+json\"[^>]*>(.*?)</script>"

set_option maxRecDepth 2000 in
theorem expr?_linkedData : expr? false linkedDataSource = some Element.linkedData.expr := rfl

theorem contents_linkedData_eq_map (s : List Char) : Element.linkedData.contents s =
    (found false linkedDataSource s).map Match.groupText := by
  rw [found_eq expr?_linkedData]
  exact Element.linkedData.contents_eq_map (by decide) s

end SoftFail.Markup
