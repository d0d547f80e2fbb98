import SoftFail.Proofs.Check.LetterCase
import SoftFail.Proofs.Decimal.Digits
import SoftFail.Proofs.Detector.FirstFailure
import SoftFail.Proofs.Text.Window

/-! Page numbers. The scan for them misses none, however close they stand, so that the largest one
tells whether there is a second page, and the words for it need no look of their own. -/

namespace SoftFail.Check

open Text

variable {body s ds rest : List Char}

/-! Page numbers. -/

/-- A page number at the front of a text: the word in any letter case, a gap, and all the digits
that follow. -/
def BeginsPage (s ds rest : List Char) : Prop :=
  ∃ w g, s = w ++ (g ++ (ds ++ rest)) ∧ lower w = pageWord ∧
    (g ≠ [] ∧ ∀ c ∈ g, isPageGap c = true) ∧ (ds ≠ [] ∧ ∀ c ∈ ds, c.isDigit = true) ∧
    ∀ c ∈ rest.head?, c.isDigit = false

def HoldsPage (body ds : List Char) : Prop := ∃ x s rest, body = x ++ s ∧ BeginsPage s ds rest

theorem isNarrow_pageWord : isNarrow pageWord = true := by decide

theorem isPageGap_of_isDigit {c : Char} (h : c.isDigit = true) : isPageGap c = false := by
  obtain ⟨hlow, hhigh⟩ : 48 ≤ c.toNat ∧ c.toNat ≤ 57 := by
    simpa [Char.isDigit, UInt32.le_iff_toNat_le] using h
  have hne : c ≠ '=' := by
    rintro rfl
    cases h
  have hblank : isBlank c = false := by
    simp only [isBlank, Bool.or_eq_false_iff, Bool.and_eq_false_iff, beq_eq_false_iff_ne,
      decide_eq_false_iff_not]
    omega
  rw [isPageGap, hblank, decide_eq_false hne, Bool.or_false]

theorem said_pageNumberLook_iff :
    (pageNumberLook s).said = some (some (ds, rest)) ↔ BeginsPage s ds rest := by
  rw [said_pageNumberLook, Option.bind_eq_some_iff]
  simp only [Option.ite_none_right_eq_some, Bool.and_eq_true, head?_any_iff, Option.some.injEq,
    Prod.mk.injEq, dropWord?_eq_some_iff_exists isNarrow_pageWord]
  constructor
  · rintro ⟨r, ⟨w, rfl, hw⟩, ⟨hgap, hdigit⟩, hds, hrest⟩
    obtain ⟨hr, hgaps, -⟩ := takeWhile_dropWhile_iff.1 (⟨rfl, rfl⟩ : _ ∧ r.dropWhile isPageGap = _)
    obtain ⟨ht, hdigits, hend⟩ := takeWhile_dropWhile_iff.1 ⟨hds, hrest⟩
    exact ⟨w, r.takeWhile isPageGap, by rw [← ht, ← hr], hw, ⟨hgap, hgaps⟩,
      ⟨hds ▸ hdigit, hdigits⟩, hend⟩
  · rintro ⟨w, g, rfl, hw, ⟨hg, hgaps⟩, ⟨hds, hdigits⟩, hend⟩
    -- The digits end the gap, so that the two runs are told apart.
    have hgapEnd : ∀ c ∈ (ds ++ rest).head?, isPageGap c = false := by
      obtain ⟨d, ds', rfl⟩ := List.exists_cons_of_ne_nil hds
      rintro c ⟨⟩
      exact isPageGap_of_isDigit (hdigits d List.mem_cons_self)
    obtain ⟨hgap, ht⟩ := takeWhile_dropWhile_iff.2 ⟨rfl, hgaps, hgapEnd⟩
    obtain ⟨hdigit, hrest⟩ := takeWhile_dropWhile_iff.2 ⟨rfl, hdigits, hend⟩
    refine ⟨g ++ (ds ++ rest), ⟨w, rfl, hw⟩, ?_⟩
    rw [hgap, ht, hdigit, hrest]
    exact ⟨⟨hg, hds⟩, rfl, rfl⟩

theorem said_pageNumberLook_ne_stop (s : List Char) : (pageNumberLook s).said ≠ some none := by
  rw [said_pageNumberLook]
  simp [Option.bind_eq_some_iff]

/-- A page number begins with a letter that does not come again in it. -/
theorem BeginsPage.exists_letter (h : BeginsPage s ds rest) :
    ∃ c m, s = c :: (m ++ rest) ∧ c.toLower = 'p' ∧ ∀ c ∈ m, c.toLower ≠ 'p' := by
  obtain ⟨w, g, rfl, hw, ⟨-, hgaps⟩, ⟨-, hdigits⟩, -⟩ := h
  cases w with
  | nil => cases hw
  | cons c w =>
    obtain ⟨hc, hw⟩ := List.cons.inj hw
    refine ⟨c, w ++ (g ++ ds), by simp, hc, fun x hx hp => ?_⟩
    rw [List.mem_append, List.mem_append] at hx
    rcases hx with hx | hx | hx
    · have hmem : 'p' ∈ ['a', 'g', 'e'] := by
        rw [← hw, ← hp]
        exact List.mem_map_of_mem hx
      exact absurd hmem (by decide)
    · have hgap := hgaps x hx
      rw [← isPageGap_toLower, hp] at hgap
      cases hgap
    · have hdigit := hdigits x hx
      rw [← isDigit_toLower, hp] at hdigit
      cases hdigit

/-- The scan skips no page number: another one that it has found cannot reach into it. -/
theorem mem_contents_of_beginsPage {x : List Char} (h : body = x ++ s)
    (hs : BeginsPage s ds rest) : ds ∈ contents pageNumberLook body := by
  have hsaid := said_pageNumberLook_iff.2 hs
  obtain ⟨p, t, hst, hp, -⟩ := hs.exists_letter
  induction body using induction_on_finds pageNumberLook generalizing x with
  | step body ih =>
    rw [contents_eq]
    cases hf : firstFind pageNumberLook body with
    | none =>
      have hpass := said_of_firstFind_eq_none said_pageNumberLook_ne_stop hf x s h (by simp [hst])
      rw [hsaid] at hpass
      cases hpass
    | some f =>
      obtain ⟨before, content, rest'⟩ := f
      obtain ⟨s', hs', hfound, hbefore⟩ := firstFind_eq_some hf
      have hat (hsame : s = s') : ds ∈ content :: contents pageNumberLook rest' := by
        rw [← hsame, hsaid] at hfound
        cases hfound
        exact List.mem_cons_self
      rcases List.append_eq_append_iff.1 (h.symm.trans hs') with ⟨u, hu, hsu⟩ | ⟨u, hu, hsu⟩
      · by_cases hnil : u = []
        · exact hat (by rw [hsu, hnil, List.nil_append])
        · have hpass := hbefore x u hu hnil
          rw [← hsu, hsaid] at hpass
          cases hpass
      · cases u with
        | nil => exact hat hsu.symm
        | cons _ u =>
          obtain ⟨c, m, hs', -, hm⟩ := (said_pageNumberLook_iff.1 hfound).exists_letter
          have htail : u ++ s = m ++ rest' := (List.cons.inj (hsu.symm.trans hs')).2
          have hrest {y : List Char} (hy : rest' = y ++ s) :
              ds ∈ content :: contents pageNumberLook rest' :=
            List.mem_cons_of_mem _ (ih before content rest' hf hy)
          rcases List.append_eq_append_iff.1 htail with ⟨v, hv, hsv⟩ | ⟨v, -, hv⟩
          · cases v with
            | nil => exact hrest (y := []) hsv.symm
            | cons a v =>
              obtain rfl : p = a := (List.cons.inj (hst.symm.trans hsv)).1
              exact absurd hp (hm p (by simp [hv]))
          · exact hrest hv

theorem holdsPage_of_mem_contents (h : ds ∈ contents pageNumberLook body) : HoldsPage body ds := by
  induction body using induction_on_finds pageNumberLook with
  | step body ih =>
    rw [contents_eq] at h
    cases hf : firstFind pageNumberLook body with
    | none =>
      rw [hf] at h
      cases h
    | some f =>
      obtain ⟨before, content, rest⟩ := f
      obtain ⟨s, hs, hfound, -⟩ := firstFind_eq_some hf
      have hpage := said_pageNumberLook_iff.1 hfound
      rw [hf] at h
      rcases List.mem_cons.1 h with rfl | h
      · exact ⟨before, s, rest, hs, hpage⟩
      · obtain ⟨x, t, rest', hrest, ht⟩ := ih before content rest hf h
        obtain ⟨c, m, hm, -⟩ := hpage.exists_letter
        exact ⟨before ++ (c :: m) ++ x, t, rest', by rw [hs, hm, hrest]; simp, ht⟩

theorem mem_contents_iff : ds ∈ contents pageNumberLook body ↔ HoldsPage body ds := by
  constructor
  · exact holdsPage_of_mem_contents
  · rintro ⟨x, s, rest, h, hs⟩
    exact mem_contents_of_beginsPage h hs

theorem HoldsPage.digits (h : HoldsPage body ds) : ds ≠ [] ∧ ∀ c ∈ ds, c.isDigit = true := by
  obtain ⟨x, s, rest, -, w, g, -, -, -, hds, -⟩ := h
  exact hds

/-! Numbers. -/

/-- What digits stand for in 64 bits, where larger numbers become the largest one. -/
def saturated (ds : List Char) : ℕ :=
  (Decimal.below? bound64 (String.ofList ds)).getD (bound64 - 1)

theorem below?_digits (hds : ds ≠ []) (hdigits : ∀ c ∈ ds, c.isDigit = true) (bound : ℕ) :
    Decimal.below? bound (String.ofList ds) =
      if Decimal.value ds < bound then some (Decimal.value ds) else none := by
  have hsign : ∀ t, ds ≠ '+' :: t := by
    rintro t rfl
    exact absurd (hdigits '+' List.mem_cons_self) (by decide)
  have hall : ds.all Char.isDigit = true := List.all_eq_true.2 hdigits
  rw [Decimal.below?, String.toList_ofList]
  split
  · exact absurd rfl (hsign _)
  · simp [hds, hall]

theorem saturated_eq_min (hds : ds ≠ []) (hdigits : ∀ c ∈ ds, c.isDigit = true) :
    saturated ds = min (Decimal.value ds) (bound64 - 1) := by
  rw [saturated, below?_digits hds hdigits]
  split_ifs with hlt
  · exact (Nat.min_eq_left (Nat.le_sub_one_of_lt hlt)).symm
  · exact (Nat.min_eq_right ((Nat.sub_le _ _).trans (Nat.le_of_not_lt hlt))).symm

theorem value_dropWhile_zero (ds : List Char) :
    Decimal.value (ds.dropWhile (· = '0')) = Decimal.value ds := by
  induction ds with
  | nil => rfl
  | cons c ds ih =>
    by_cases hc : c = '0'
    · subst hc
      rw [List.dropWhile_cons_of_pos (by decide), ih]
      rfl
    · rw [List.dropWhile_cons_of_neg (by simpa using hc)]

theorem exists_holdsPage_of_mentions (h : Mentions body "page 2".toList) :
    ∃ ds, HoldsPage body ds ∧ 2 ≤ Decimal.value ds := by
  obtain ⟨x, m, y, rfl, hm⟩ := h
  have hword : lower m = pageWord ++ [' ', '2'] := hm
  obtain ⟨w, z, rfl, hw, hz⟩ := lower_eq_append_iff.1 hword
  obtain rfl : z = [' ', '2'] := (lower_eq_iff (by decide) z).1 hz
  obtain ⟨ds, rest, rfl, hdigits, hend⟩ : ∃ ds rest, y = ds ++ rest ∧
      (∀ c ∈ ds, c.isDigit = true) ∧ ∀ c ∈ rest.head?, c.isDigit = false :=
    ⟨_, _, takeWhile_dropWhile_iff.1 ⟨rfl, rfl⟩⟩
  have hpage : BeginsPage (w ++ ([' '] ++ ('2' :: ds ++ rest))) ('2' :: ds) rest :=
    ⟨w, [' '], rfl, hw, ⟨by simp, List.forall_mem_singleton.2 rfl⟩,
      ⟨by simp, List.forall_mem_cons.2 ⟨rfl, hdigits⟩⟩, hend⟩
  exact ⟨'2' :: ds, ⟨x, _, rest, by simp, hpage⟩, Decimal.le_foldl_digits 2 ds⟩

/-! Further pages. -/

def LeadsOn (body : List Char) : Prop :=
  Mentions body "next page".toList ∨ '→' ∈ body ∨ '»' ∈ body

/-- `offersNextPage` without a look for the second page by its name. -/
def leadsOn (body : List Char) : Bool :=
  (cutWord? "next page".toList body).isSome || body.any fun c => c = '→' || c = '»'

theorem leadsOn_iff : leadsOn body = true ↔ LeadsOn body := by
  rw [leadsOn, Bool.or_eq_true, isSome_cutWord?_iff (by decide), LeadsOn]
  simp only [List.any_eq_true, Bool.or_eq_true, decide_eq_true_eq, and_or_left, exists_or,
    exists_eq_right]

theorem offersNextPage_iff :
    offersNextPage body = true ↔ LeadsOn body ∨ Mentions body "page 2".toList := by
  rw [← leadsOn_iff, ← isSome_cutWord?_iff (by decide), offersNextPage, leadsOn, Bool.or_right_comm,
    Bool.or_eq_true]

theorem max?_map_eq_one_iff {read : List Char → ℕ} :
    ((contents pageNumberLook body).map read).max? = some 1 ↔
      (∃ ds, HoldsPage body ds ∧ read ds = 1) ∧ ∀ ds, HoldsPage body ds → read ds ≤ 1 := by
  simp only [List.max?_eq_some_iff, List.mem_map, mem_contents_iff, forall_exists_index, and_imp,
    forall_apply_eq_imp_iff₂]

theorem max?_map_saturated_iff :
    ((contents pageNumberLook body).map saturated).max? = some 1 ↔
      ((contents pageNumberLook body).map Decimal.value).max? = some 1 := by
  have hmin {ds : List Char} (h : HoldsPage body ds) :
      saturated ds = min (Decimal.value ds) (bound64 - 1) := saturated_eq_min h.digits.1 h.digits.2
  rw [max?_map_eq_one_iff, max?_map_eq_one_iff]
  refine and_congr (exists_congr fun ds => and_congr_right fun h => ?_)
    (forall_congr' fun ds => imp_congr_right fun h => ?_)
  · rw [hmin h, bound64]
    omega
  · rw [hmin h, bound64]
    omega

/-- Naming the second page settles nothing: its number is not 1. -/
theorem firstPage_iff :
    ((contents pageNumberLook body).map Decimal.value).max? = some 1 ∧ offersNextPage body = true ↔
      ((contents pageNumberLook body).map Decimal.value).max? = some 1 ∧ LeadsOn body := by
  refine and_congr_right fun hmax => ?_
  rw [offersNextPage_iff]
  refine or_iff_left fun hsecond => ?_
  obtain ⟨ds, hds, hvalue⟩ := exists_holdsPage_of_mentions hsecond
  exact absurd ((max?_map_eq_one_iff.1 hmax).2 ds hds) (Nat.not_le.2 hvalue)

def paginationComplaintBy (read : List Char → ℕ) (further : List Char → Bool) (body : List Char) :
    Option Complaint :=
  match loadMoreTemplates.findSome? fun t => t.first? body with
  | some found => some (.loadMore (String.ofList (found.take maxExcerpt)))
  | none =>
    if ((contents pageNumberLook body).map read).max? = some 1 && further body then
      some .firstPageOnly
    else (scrollTriggers.find? fun t => contains t.toList (lower body)).map .infiniteScroll

theorem paginationComplaintBy_eq {read : List Char → ℕ} {further : List Char → Bool}
    (hread : read ∈ [Decimal.value, saturated]) (hfurther : further ∈ [offersNextPage, leadsOn]) :
    paginationComplaintBy read further body = paginationComplaint body := by
  have hmax : ((contents pageNumberLook body).map read).max? = some 1 ↔
      ((contents pageNumberLook body).map Decimal.value).max? = some 1 := by
    rcases List.mem_pair.1 hread with rfl | rfl
    · rfl
    · exact max?_map_saturated_iff
  have hcondition : (((contents pageNumberLook body).map read).max? = some 1 &&
      further body) = ((pageNumbers body).max? = some 1 && offersNextPage body) := by
    rw [Bool.eq_iff_iff, Bool.and_eq_true, Bool.and_eq_true, decide_eq_true_iff, decide_eq_true_iff,
      hmax, pageNumbers]
    rcases List.mem_pair.1 hfurther with rfl | rfl
    · rfl
    · rw [leadsOn_iff, firstPage_iff]
  unfold paginationComplaintBy paginationComplaint
  cases loadMoreTemplates.findSome? fun t => t.first? body with
  | none => simp only [hcondition]
  | some found => rfl

theorem run_pagination_eq_iff {s : Subject}
    (hmore : ∀ t ∈ loadMoreTemplates, t.first? s.body = none) :
    pagination.run s = .fail Complaint.firstPageOnly.message ↔
      ((contents pageNumberLook s.body).map Decimal.value).max? = some 1 ∧ LeadsOn s.body := by
  have hcondition : ((pageNumbers s.body).max? = some 1 && offersNextPage s.body) = true ↔
      (pageNumbers s.body).max? = some 1 ∧ offersNextPage s.body = true := by
    rw [Bool.and_eq_true, decide_eq_true_iff]
  rw [← firstPage_iff, ← pageNumbers, run, complaint?, paginationComplaint,
    List.findSome?_eq_none_iff.2 hmore]
  by_cases hfirst : (pageNumbers s.body).max? = some 1 ∧ offersNextPage s.body = true
  · simp only [if_pos (hcondition.2 hfirst)]
    exact iff_of_true rfl hfirst
  · simp only [if_neg (mt hcondition.1 hfirst)]
    refine iff_of_false (fun heq => ?_) hfirst
    cases htrigger : scrollTriggers.find? fun t => contains t.toList (lower s.body) with
    | none =>
      rw [htrigger] at heq
      cases heq
    | some trigger =>
      rw [htrigger] at heq
      have hmessage := Option.some.inj (congrArg Outcome.reason heq)
      exact append_ne_of_lead "Infinite scroll not triggered: " trigger rfl (by decide) hmessage

/-- Where nothing offers more of a list, the check complains of a first page exactly when the
largest page number is 1 and the text leads on. The numbers are those at all places of the text. The
outcome is the same when they are read in 64 bits, when the second page is not looked for by its
name, and with any zeros in front of the numbers. -/
theorem pagination_judged (s : Subject) :
    let runs (s : Subject) := contents pageNumberLook s.body
    let withoutMore (s : Subject) := ∀ t ∈ loadMoreTemplates, t.first? s.body = none
    (∀ ds, ds ∈ runs s ↔ HoldsPage s.body ds) ∧
    (withoutMore s → (pagination.run s = .fail Complaint.firstPageOnly.message ↔
      ((runs s).map Decimal.value).max? = some 1 ∧ LeadsOn s.body)) ∧
    (∀ read ∈ [Decimal.value, saturated], ∀ further ∈ [offersNextPage, leadsOn],
      pagination.run s = .ofComplaint (paginationComplaintBy read further s.body)) ∧
    ∀ t : Subject, withoutMore s → withoutMore t →
      (runs s).map (·.dropWhile (· = '0')) = (runs t).map (·.dropWhile (· = '0')) →
      (LeadsOn s.body ↔ LeadsOn t.body) →
      (pagination.run s = .fail Complaint.firstPageOnly.message ↔
        pagination.run t = .fail Complaint.firstPageOnly.message) := by
  intro runs withoutMore
  refine ⟨fun ds => mem_contents_iff, run_pagination_eq_iff, ?_, ?_⟩
  · intro read hread further hfurther
    rw [paginationComplaintBy_eq hread hfurther]
    rfl
  · intro t hs ht hruns hleads
    have hvalues (s : Subject) : (runs s).map Decimal.value =
        ((runs s).map (·.dropWhile (· = '0'))).map Decimal.value := by
      simp only [List.map_map, Function.comp_def, value_dropWhile_zero]
    rw [run_pagination_eq_iff hs, run_pagination_eq_iff ht, hleads]
    exact and_congr_left fun _ => by rw [hvalues s, hruns, ← hvalues t]

end SoftFail.Check
