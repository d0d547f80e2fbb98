import SoftFail.Check.Expectation
import SoftFail.Check.Rendering
import SoftFail.Proofs.Check.Pagination
import SoftFail.Proofs.Markup.Expression

/-! The expressions that the checks look for. A check finds what a search for its expression
finds. -/

namespace SoftFail.Check

open Regex Text Markup

section Templates

variable {sources : List String} {ts : List Template} {ignoreCase : Bool}
  (hread : sources.map (expr? ignoreCase) = ts.map fun t => some (t.expr ignoreCase))
  (hts : ∀ t ∈ ts, t.IsReadable ignoreCase)

include hread hts

theorem map_first?_eq (s : List Char) : ts.map (fun t => t.first? s) =
    sources.map fun source => (found? ignoreCase source s).map Match.text := by
  have h := congrArg (List.map fun e? =>
    (e?.bind fun e : Expr => e.program.first? (.ofText s)).map Match.text) hread
  rw [List.map_map, List.map_map] at h
  exact (List.map_congr_left fun t ht => t.first?_eq (hts t ht) s).trans h.symm

theorem map_count_eq (s : List Char) : ts.map (fun t => t.count s) =
    sources.map fun source => (found ignoreCase source s).length := by
  have h := congrArg (List.map fun e? =>
    ((e?.map fun e : Expr => e.program.allMatches s).getD []).length) hread
  rw [List.map_map, List.map_map] at h
  exact (List.map_congr_left fun t ht => t.count_eq_length (hts t ht) s).trans h.symm

end Templates

def loadMoreSources : List String := ["class=\"[^\"]*load-more[^\"]*\"", "id=\"load-more\"",
  ">load more<", ">show more<", ">view more<", "load additional", "see all \\d+ items",
  "showing \\d+ of \\d+"]

theorem findSome?_loadMore (body : List Char) :
    (loadMoreTemplates.findSome? fun t => t.first? body) =
      loadMoreSources.findSome? fun source => (found? true source body).map Match.text := by
  have hread : loadMoreSources.map (expr? true) =
      loadMoreTemplates.map fun t => some (t.expr true) := rfl
  have h := congrArg (List.findSome? id) (map_first?_eq hread (by decide) body)
  rwa [List.findSome?_map, List.findSome?_map] at h

def itemSources : List (String × String) := [
  ("data-product-id=\"[^\"]*\"", "products"),
  ("class=\"[^\"]*product-card[^\"]*\"", "product cards"),
  ("class=\"[^\"]*item[^\"]*\"", "items"),
  ("<article[^>]*>", "articles"),
  ("data-item-id=\"[^\"]*\"", "items"),
  ("class=\"[^\"]*post[^\"]*\"", "posts")]

theorem map_itemTemplates (body : List Char) :
    itemTemplates.map (fun t => (t.1.count body, t.2)) =
      itemSources.map fun source => ((found true source.1 body).length, source.2) := by
  have hread : (itemSources.map Prod.fst).map (expr? true) =
      (itemTemplates.map Prod.fst).map fun t => some (t.expr true) := rfl
  have hlabels : itemTemplates.map Prod.snd = itemSources.map Prod.snd := rfl
  have hcounts := map_count_eq hread (by decide) body
  rw [List.map_map, List.map_map] at hcounts
  have h := congrArg₂ List.zip hcounts hlabels
  rwa [List.zip_map', List.zip_map'] at h

theorem bestItems_eq_foldl (body : List Char) : bestItems body =
    itemSources.foldl (fun best source =>
      let n := (found true source.1 body).length
      if best.2 < n then (source.2, n) else best) ("items", 0) := by
  have h := congrArg (List.foldl (fun (best : String × ℕ) (p : ℕ × String) =>
    if best.2 < p.1 then (p.2, p.1) else best) ("items", 0)) (map_itemTemplates body)
  rwa [List.foldl_map, List.foldl_map] at h

def emptyShellSource : String := "<body[^>]*>\\s*<div[^>]*>\\s*</div>\\s*<script"

set_option maxRecDepth 2000 in
theorem expr?_emptyShell : expr? false emptyShellSource = some (emptyShell.expr false) := rfl

theorem isSome_emptyShell (s : List Char) :
    (emptyShell.first? s).isSome = (found? false emptyShellSource s).isSome := by
  have hreadable : emptyShell.IsReadable false := by decide
  rw [Template.first?_eq hreadable, Option.isSome_map, found?_eq expr?_emptyShell]

/-! Further pages. -/

def pageNumberSource : String := "(?i)page[=\\s]+([0-9]+)"

def gapSet : CharSet := .folded (.union (.single 0x3D) .blank)

def digitSet : CharSet := .folded (.ranges [(0x30, 0x39)])

def digitsExpr : Expr := .capture 1 (.repeated (.set digitSet) 1 none true)

def pageNumberExpr : Expr :=
  .concat (.empty :: (Expr.word pageWord ++ [.repeated (.set gapSet) 1 none true, digitsExpr]))

theorem is_gapSet : gapSet.Is isPageGap := by
  refine CharSet.Is.folded (CharSet.Is.union (CharSet.is_single '=') is_blank) fun n hn => ?_
  have hne : n ≠ 0x3D := fun h => by
    have := Unicode.letter_of_cased hn
    omega
  rw [CharSet.contains, CharSet.contains_single, decide_eq_false hne]
  exact Unicode.not_isBlank_of_cased hn

theorem is_digitSet : digitSet.Is Char.isDigit := by
  refine CharSet.Is.folded (fun c => ?_) fun n hn => ?_
  · rw [CharSet.contains, List.any_cons, List.any_nil, Bool.or_false, Char.isDigit]
    rfl
  · have := Unicode.letter_of_cased hn
    rw [CharSet.contains, List.any_cons, List.any_nil, Bool.or_false]
    simp
    omega

theorem expr?_pageNumber : expr? false pageNumberSource = some pageNumberExpr := rfl

def gapRest? (s : List Char) : Option (List Char) :=
  if s.head?.any isPageGap then some (s.dropWhile isPageGap) else none

theorem shortens_gapRest? : Shortens gapRest? := fun s r h =>
  shortens_dropWhile isPageGap s r (Option.ite_none_right_eq_some.1 h).2

theorem reads_pageWord : Reads (Expr.word pageWord ++ [.repeated (.set gapSet) 1 none true])
    (fun s => (dropWord? pageWord s).bind gapRest?) (digitsExpr.read .done) := by
  have hfails : Onward.FailsAt isPageGap (digitsExpr.read .done) := fun here t hgap =>
    Onward.failsAt_take is_digitSet (fun c hc => by
      by_contra hdigit
      rw [isPageGap_of_isDigit (Bool.not_eq_false _ ▸ hdigit)] at hc
      cases hc) here _ hgap
  exact (reads_word (by decide) _).append (reads_run_one is_gapSet (.inl hfails))
    (shortens_dropWord? pageWord) shortens_gapRest?

theorem read_digitsExpr (here : Cursor) (t : Thread) : digitsExpr.read .done here t =
    if here.rest.head?.any Char.isDigit then
      let there := here.leaving (here.rest.dropWhile Char.isDigit)
      some ⟨t.start.span there, some (here.span there), there⟩
    else none := by
  refine (reads_run_one is_digitSet (.inr ⟨rfl, fun _ _ => rfl⟩) here
    { t with opened := some here }).trans ?_
  dsimp only
  split <;> rfl

def pageFound (here : Cursor) (r : List Char) : Match :=
  let there := here.leaving (r.dropWhile Char.isDigit)
  ⟨here.span there, some ((here.leaving r).span there), there⟩

theorem at?_pageNumberExpr (here : Cursor) : pageNumberExpr.at? here =
    ((dropWord? pageWord here.rest).bind gapRest?).bind fun r =>
      if r.head?.any Char.isDigit then some (pageFound here r) else none := by
  rw [Expr.at?, pageNumberExpr, Expr.read_concat, List.foldr_cons, List.append_cons,
    List.foldr_append]
  refine (reads_pageWord here (.at here 0)).trans (Option.bind_congr fun r hr => ?_)
  have hr := (shortens_dropWord? pageWord).bind shortens_gapRest? _ _ hr
  rw [read_digitsExpr, pageFound, ← Cursor.leaving_leaving hr (List.dropWhile_suffix _)]
  rfl

theorem groupText_pageFound {here : Cursor} {r : List Char} (hr : r <:+ here.rest) :
    (pageFound here r).groupText = r.takeWhile Char.isDigit := by
  have hle := hr.length_le
  have hlength := congrArg List.length (r.takeWhile_append_dropWhile (p := Char.isDigit))
  rw [List.length_append] at hlength
  have htake : (pageFound here r).groupText = r.take (r.takeWhile Char.isDigit).length := by
    rw [pageFound, Match.groupText, Option.map_some, Option.getD_some]
    refine congrArg (List.take · r) ?_
    show here.offset + _ - (here.offset + _) = _
    omega
  rw [htake]
  exact (List.prefix_iff_eq_take.1 (List.takeWhile_prefix _)).symm

/-- The look for a page number finds what the expression matches. -/
theorem scanned_pageNumberExpr : pageNumberExpr.Scanned pageNumberLook Match.groupText := by
  intro here
  have hat := at?_pageNumberExpr here
  rw [said_pageNumberLook]
  cases hword : dropWord? pageWord here.rest with
  | none =>
    rw [hword] at hat
    exact .pass hat
  | some r =>
    rw [hword, Option.bind_some, gapRest?] at hat
    rw [Option.bind_some]
    dsimp only
    cases hgap : r.head?.any isPageGap with
    | false =>
      rw [hgap] at hat
      exact .pass hat
    | true =>
      rw [hgap, if_pos rfl, Option.bind_some] at hat
      cases hdigit : (r.dropWhile isPageGap).head?.any Char.isDigit with
      | false =>
        rw [hdigit] at hat
        exact .pass hat
      | true =>
        rw [hdigit, if_pos rfl] at hat
        have hsuffix : r.dropWhile isPageGap <:+ here.rest :=
          (List.dropWhile_suffix _).trans (shortens_dropWord? pageWord _ _ hword)
        have hlt := length_of_pageNumber hword isPageGap Char.isDigit
        rw [← groupText_pageFound hsuffix]
        refine .found hat rfl ?_
        show here.offset < here.offset + (here.rest.length - _)
        omega

theorem pageNumbers_eq_map (body : List Char) : pageNumbers body =
    (found false pageNumberSource body).map fun m => Decimal.value m.groupText := by
  have hadvances : pageNumberExpr.advances = true := rfl
  rw [pageNumbers, scanned_pageNumberExpr.contents_eq hadvances, found_eq expr?_pageNumber,
    List.map_map]
  rfl

def nextPageSource : String := "(?i)next page|page 2|→|»"

def arrowExpr (c : Char) : Expr := .set (.ofList (Unicode.caseVariants c.toNat))

def nextPageExpr : Expr :=
  .alt (.concat (.empty :: Expr.word "next page".toList))
    (.alt (.concat (Expr.word "page 2".toList)) (.alt (arrowExpr '→') (arrowExpr '»')))

theorem expr?_nextPage : expr? false nextPageSource = some nextPageExpr := rfl

def beginsNextPage (s : List Char) : Bool :=
  (dropWord? "next page".toList s).isSome || ((dropWord? "page 2".toList s).isSome ||
    (s.head?.any (· = '→') || s.head?.any (· = '»')))

theorem isSome_at?_arrowExpr {a : Char} (ha : Unicode.caseVariants a.toNat = [a.toNat])
    (here : Cursor) : ((arrowExpr a).at? here).isSome = here.rest.head?.any (· = a) := by
  have his : (CharSet.ofList (Unicode.caseVariants a.toNat)).Is (· = a) := by
    rw [ha]
    exact CharSet.is_single a
  have hreads : Reads [arrowExpr a] (behind? (· = a) some) .done :=
    (Reads.nil .done).set (fun s r h => Option.some.inj h ▸ List.suffix_refl s) his
  refine (congrArg Option.isSome (hreads.at? here)).trans ?_
  rw [Option.isSome_map]
  cases here.rest with
  | nil => rfl
  | cons c s =>
    rw [behind?, List.head?_cons, Option.any_some]
    cases decide (c = a) <;> rfl

theorem isSome_at?_word {w : List Char} (hw : w.all CharSet.isPlain = true) (here : Cursor) :
    ((Expr.concat (Expr.word w)).at? here).isSome = (dropWord? w here.rest).isSome := by
  rw [(reads_word hw .done).at?, Option.isSome_map]

theorem isSome_at?_nextPageExpr (here : Cursor) :
    (nextPageExpr.at? here).isSome = beginsNextPage here.rest := by
  have hright : Unicode.caseVariants '→'.toNat = ['→'.toNat] :=
    Unicode.caseVariants_of_filter_nil (by decide +kernel)
  have hquote : Unicode.caseVariants '»'.toNat = ['»'.toNat] :=
    Unicode.caseVariants_of_filter_nil (by decide +kernel)
  have hat : nextPageExpr.at? here =
      ((Expr.concat (Expr.word "next page".toList)).at? here).or
        (((Expr.concat (Expr.word "page 2".toList)).at? here).or
          (((arrowExpr '→').at? here).or ((arrowExpr '»').at? here))) := rfl
  rw [hat, Option.isSome_or, Option.isSome_or, Option.isSome_or, isSome_at?_word (by decide),
    isSome_at?_word (by decide), isSome_at?_arrowExpr hright, isSome_at?_arrowExpr hquote]
  rfl

theorem offersNextPage_cons (c : Char) (s : List Char) :
    offersNextPage (c :: s) = (beginsNextPage (c :: s) || offersNextPage s) := by
  rw [offersNextPage, offersNextPage, beginsNextPage, isSome_cutWord?_cons, isSome_cutWord?_cons,
    List.any_cons, List.head?_cons, Option.any_some, Option.any_some]
  ac_rfl

theorem offersNextPage_eq_isSome (body : List Char) :
    offersNextPage body = (found? false nextPageSource body).isSome := by
  have hadvances : nextPageExpr.advances = true := rfl
  have hnil : offersNextPage [] = beginsNextPage [] := rfl
  rw [found?_eq expr?_nextPage, Expr.first?_program hadvances]
  exact (isSome_leftmost isSome_at?_nextPageExpr hnil offersNextPage_cons none 0 body).symm

end SoftFail.Check
