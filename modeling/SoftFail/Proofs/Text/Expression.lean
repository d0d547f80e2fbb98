import SoftFail.Proofs.Regex.Run

/-! Templates as expressions. What a template finds is what an expression of the same shape
matches. -/

namespace SoftFail.Text

open Regex

namespace Step

def run? : Step → Option (Char → Bool)
  | .blanks | .gap => some isBlank
  | .digits => some Unicode.isDigit
  | .literal _ | .word _ | .through _ | .valueWith _ => none

def endsBefore : Step → Char → Bool
  | .blanks, c | .gap, c => !isBlank c
  | .digits, c => !Unicode.isDigit c && CharSet.isMark c
  | .literal _, _ | .word _, _ | .through _, _ | .valueWith _, _ => true

def lead? : Step → Option Char
  | .literal text | .word text => text.head?
  | .through _ | .valueWith _ | .blanks | .gap | .digits => none

def exprs (ignoreCase : Bool) : Step → List Expr
  | .literal text => Expr.literal text
  | .word text => Expr.word text
  | .through stop =>
    [.repeated (.set (.other ignoreCase stop)) 0 none true, .set (.letter ignoreCase stop)]
  | .valueWith text =>
    .repeated (.set (.other ignoreCase '"')) 0 none true :: (Expr.word text ++
      [.repeated (.set (.other ignoreCase '"')) 0 none true, .set (.letter ignoreCase '"')])
  | .blanks => [.repeated (.set .blank) 0 none true]
  | .gap => [.repeated (.set .blank) 1 none true]
  | .digits => [.repeated (.set .digit) 1 none true]

def isPlain : Step → Bool
  | .word text => text.all CharSet.isPlain
  | .valueWith text => text.all CharSet.isPlain && '"' ∉ text
  | .through stop => CharSet.isMark stop
  | .literal _ | .blanks | .gap | .digits => true

end Step

/-- Whether behind every run there is a step that begins with another character. -/
def isReadable : List Step → Bool
  | [] => true
  | step :: steps => step.isPlain && isReadable steps &&
    (steps.isEmpty || step.run?.isNone || (steps.head?.bind Step.lead?).any step.endsBefore)

theorem shortens_step (step : Step) : Shortens step.rest? := by
  intro s r h
  cases step with
  | literal text => exact shortens_dropPrefix? text s r h
  | word text => exact shortens_dropWord? text s r h
  | through stop => exact shortens_past? stop s r h
  | valueWith text => exact shortens_past? '"' s r (Option.ite_none_right_eq_some.1 h).2
  | blanks => exact shortens_dropWhile _ s r h
  | gap | digits => exact shortens_dropWhile _ s r (Option.ite_none_right_eq_some.1 h).2

theorem shortens_steps (steps : List Step) : Shortens (stepsRest? steps) := by
  induction steps with
  | nil =>
    intro s r h
    exact Option.some.inj h ▸ List.suffix_refl s
  | cons step steps ih => exact (shortens_step step).bind ih

theorem stepsRest?_concat (steps steps' : List Step) (s : List Char) :
    stepsRest? (steps ++ steps') s = (stepsRest? steps s).bind (stepsRest? steps') := by
  induction steps generalizing s with
  | nil => rfl
  | cons step steps ih =>
    rw [List.cons_append, stepsRest?, stepsRest?, Option.bind_assoc]
    exact congrArg _ (funext ih)

variable {ignoreCase : Bool} {step : Step} {steps : List Step} {next : Onward}

theorem is_blank : CharSet.blank.Is isBlank := fun c => congrArg isBlank (Char.ofNat_toNat c)

theorem is_digit : CharSet.digit.Is Unicode.isDigit := fun c =>
  congrArg Unicode.isDigit (Char.ofNat_toNat c)

theorem reads_step (hstep : step.isPlain = true)
    (hnext : ∀ p ∈ step.run?, Onward.FailsAt p next ∨ ∀ here t, (next here t).isSome = true) :
    Reads (step.exprs ignoreCase) step.rest? next := by
  have hrun {p : Char → Bool} (hp : step.run? = some p) :
      Onward.FailsAt p next ∨ true = true ∧ ∀ here t, (next here t).isSome = true :=
    (hnext p hp).imp_right fun h => ⟨rfl, h⟩
  cases step with
  | literal text => exact reads_literal text next
  | word text => exact reads_word hstep next
  | through stop =>
    exact reads_past true (CharSet.is_other ignoreCase hstep)
      (CharSet.is_letter_mark ignoreCase hstep) next
  | valueWith text =>
    obtain ⟨htext, hquote⟩ := Bool.and_eq_true_iff.1 hstep
    have hmark : CharSet.isMark '"' = true := by decide
    exact reads_value true (CharSet.is_other ignoreCase hmark)
      (CharSet.is_letter_mark ignoreCase hmark) htext (of_decide_eq_true hquote) next
  | blanks => exact reads_run is_blank (hrun rfl)
  | gap => exact reads_run_one is_blank (hrun rfl)
  | digits => exact reads_run_one is_digit (hrun rfl)

theorem foldLetter_of_isBlank {c : Char} (hc : isBlank c = true) : foldLetter c = c := by
  rw [foldLetter]
  split_ifs with hascii hk hs
  · refine toLower_eq_self fun hcapital => ?_
    have hnone : capitals.any isBlank = false := by decide
    exact List.any_eq_false.1 hnone c hcapital hc
  · rw [hk] at hc
    exact absurd hc (by decide)
  · rw [hs] at hc
    exact absurd hc (by decide)
  · rfl

theorem foldLetter_eq_iff_of_isMark {a : Char} (ha : CharSet.isMark a = true) (c : Char) :
    foldLetter c = a ↔ c = a := by
  have hfold := CharSet.is_letter (Bool.and_eq_true_iff.1 ha).1 c
  have hsame := CharSet.is_letter_mark true ha c
  rw [CharSet.letter, if_pos rfl, hfold] at hsame
  exact decide_eq_decide.1 hsame

theorem Step.run_eq_false {p : Char → Bool} {c : Char} (hp : step.run? = some p)
    (hc : step.endsBefore c = true) : p c = false := by
  cases step with
  | blanks | gap =>
    cases hp
    exact Bool.not_eq_true' _ ▸ hc
  | digits =>
    cases hp
    exact Bool.not_eq_true' _ ▸ (Bool.and_eq_true_iff.1 hc).1
  | literal | word | through | valueWith => cases hp

theorem Step.run_eq_false_of_fold {p : Char → Bool} {c d : Char} (hp : step.run? = some p)
    (hc : step.endsBefore c = true) (hd : foldLetter d = c) : p d = false := by
  cases hpd : p d with
  | false => rfl
  | true =>
    have hdc : d = c := by
      cases step with
      | blanks | gap =>
        cases hp
        exact (foldLetter_of_isBlank hpd).symm.trans hd
      | digits => exact (foldLetter_eq_iff_of_isMark (Bool.and_eq_true_iff.1 hc).2 d).1 hd
      | literal | word | through | valueWith => cases hp
    rw [hdc, Step.run_eq_false hp hc] at hpd
    cases hpd

theorem failsAt_step {behind : Step} {p : Char → Bool} {c : Char} (hp : step.run? = some p)
    (hc : step.endsBefore c = true) (hbehind : behind.isPlain = true)
    (hlead : behind.lead? = some c) :
    Onward.FailsAt p ((behind.exprs ignoreCase).foldr Expr.read next) := by
  cases behind with
  | literal text =>
    obtain _ | ⟨a, text⟩ := text
    · cases hlead
    · cases hlead
      refine Onward.failsAt_take (CharSet.is_single c) fun d hd => decide_eq_false ?_
      rintro rfl
      rw [Step.run_eq_false hp hc] at hd
      cases hd
  | word text =>
    obtain _ | ⟨a, text⟩ := text
    · cases hlead
    · cases hlead
      obtain ⟨ha, -⟩ := Bool.and_eq_true_iff.1 hbehind
      refine Onward.failsAt_take (CharSet.is_letter ha) fun d hd => decide_eq_false fun hfold => ?_
      rw [Step.run_eq_false_of_fold hp hc hfold] at hd
      cases hd
  | through | valueWith | blanks | gap | digits => cases hlead

theorem reads_steps (hsteps : isReadable steps = true)
    (hnext : (∀ step ∈ steps.getLast?, step.run? = none) ∨ ∀ here t, (next here t).isSome = true) :
    Reads (steps.flatMap (Step.exprs ignoreCase)) (stepsRest? steps) next := by
  induction steps with
  | nil => exact .nil next
  | cons step steps ih =>
    obtain ⟨hsteps, hrun⟩ := Bool.and_eq_true_iff.1 hsteps
    obtain ⟨hstep, hsteps⟩ := Bool.and_eq_true_iff.1 hsteps
    have hlast : (∀ step ∈ steps.getLast?, step.run? = none) ∨
        ∀ here t, (next here t).isSome = true :=
      hnext.imp_left fun hnone last hmem => hnone last (by
        rw [List.getLast?_cons, Option.mem_def.1 hmem]
        rfl)
    rw [List.flatMap_cons]
    refine Reads.append (reads_step hstep fun p hp => ?_) (ih hsteps hlast) (shortens_step step)
      (shortens_steps steps)
    cases steps with
    | nil =>
      refine .inr (hnext.resolve_left fun hnone => ?_)
      rw [hnone step rfl] at hp
      cases hp
    | cons behind steps =>
      rw [hp, List.isEmpty_cons, Option.isNone_some, Bool.or_false, Bool.false_or, List.head?_cons,
        Option.bind_some, Option.any_eq_true] at hrun
      obtain ⟨c, hlead, hc⟩ := hrun
      obtain ⟨hbehind, -⟩ := Bool.and_eq_true_iff.1 (Bool.and_eq_true_iff.1 hsteps).1
      rw [List.flatMap_cons, List.foldr_append]
      exact .inl (failsAt_step hp hc hbehind hlead)

theorem advances_exprs (step : Step) : (step.exprs ignoreCase).all Expr.advances = true := by
  have hsets {f : Char → CharSet} (text : List Char) :
      (text.map fun a => Expr.set (f a)).all Expr.advances = true := by
    rw [List.all_map]
    exact List.all_eq_true.2 fun _ _ => rfl
  cases step with
  | literal text | word text => exact hsets text
  | valueWith text =>
    rw [Step.exprs, List.all_cons, List.all_append, Expr.word, hsets]
    rfl
  | through | blanks | gap | digits => rfl

namespace Template

variable {t : Template}

def expr (ignoreCase : Bool) (t : Template) : Expr :=
  .concat (.set (.letter ignoreCase t.first) :: t.steps.flatMap (Step.exprs ignoreCase))

/-- Whether a template can be read as an expression: where letter case matters, it begins with a
mark. -/
def IsReadable (ignoreCase : Bool) (t : Template) : Prop :=
  CharSet.isPlain t.first = true ∧ (ignoreCase = true ∨ CharSet.isMark t.first = true) ∧
    isReadable t.steps = true

instance : Decidable (t.IsReadable ignoreCase) := inferInstanceAs (Decidable (_ ∧ _ ∧ _))

theorem advances_expr (ignoreCase : Bool) (t : Template) : (t.expr ignoreCase).advances = true := by
  rw [expr, Expr.advances_concat, List.all_cons, List.all_flatMap]
  exact Bool.and_eq_true_iff.2 ⟨rfl, List.all_eq_true.2 fun step _ => advances_exprs step⟩

theorem is_first (ht : t.IsReadable ignoreCase) :
    (CharSet.letter ignoreCase t.first).Is (foldLetter · = t.first) := by
  obtain ⟨hplain, hcase, -⟩ := ht
  cases ignoreCase with
  | true => exact CharSet.is_letter hplain
  | false =>
    have hmark := hcase.resolve_left Bool.false_ne_true
    exact fun c => (CharSet.is_single t.first c).trans
      (decide_eq_decide.2 (foldLetter_eq_iff_of_isMark hmark c).symm)

theorem reads_template (ht : t.IsReadable ignoreCase) :
    Reads (.set (.letter ignoreCase t.first) :: t.steps.flatMap (Step.exprs ignoreCase)) t.rest?
      .done := by
  have hrest : t.rest? = behind? (foldLetter · = t.first) (stepsRest? t.steps) :=
    funext fun s => by
      cases s with
      | nil => rfl
      | cons c s => simp only [rest?, behind?, decide_eq_true_eq]
  rw [hrest]
  exact (reads_steps ht.2.2 (.inr fun _ _ => rfl)).set (shortens_steps t.steps) (is_first ht)

/-- A template is found where its expression matches. -/
theorem scanned_expr (ht : t.IsReadable ignoreCase) :
    (t.expr ignoreCase).Scanned t.look fun _ => () :=
  (reads_template ht).scanned t.said_look fun _ _ => length_of_rest?

theorem first?_eq (ht : t.IsReadable ignoreCase) (s : List Char) :
    t.first? s = ((t.expr ignoreCase).program.first? (.ofText s)).map Match.text := by
  have hparts : t.first? s = (firstFind t.look s).map fun f =>
      (s.drop f.1.length).take (s.length - f.1.length - f.2.2.length) := by
    rw [first?, ← parts_find?, Option.map_map]
    rfl
  rw [hparts, (scanned_expr ht).firstFind_eq none 0 s, Option.map_map,
    Expr.first?_program (advances_expr ignoreCase t)]
  refine Option.map_congr fun m hm => ?_
  obtain ⟨there, ⟨u, rfl⟩, hat⟩ := exists_of_leftmost hm
  rw [expr, (reads_template ht).at?, Option.map_eq_some_iff] at hat
  obtain ⟨r, -, rfl⟩ := hat
  simp only [Function.comp_apply, Match.text, Cursor.span, Cursor.leaving, List.length_append,
    Nat.add_sub_cancel, List.take_left, Nat.add_sub_cancel_left, List.drop_left]

theorem count_eq_length (ht : t.IsReadable ignoreCase) (s : List Char) :
    t.count s = ((t.expr ignoreCase).program.allMatches s).length := by
  rw [count, (scanned_expr ht).contents_eq (advances_expr ignoreCase t), List.length_map]

end Template

/-! Runs of blanks. -/

theorem length_of_gap {s r : List Char} (h : Step.gap.rest? s = some r) :
    r.length < s.length := by
  obtain ⟨hhead, h⟩ := Option.ite_none_right_eq_some.1 h
  cases s with
  | nil => cases hhead
  | cons c s =>
    obtain rfl := Option.some.inj h
    have hc : isBlank c = true := hhead
    rw [List.dropWhile_cons, if_pos hc]
    exact Nat.lt_succ_of_le (List.dropWhile_suffix _).length_le

def gapLook (s : List Char) : Look s Unit :=
  match h : Step.gap.rest? s with
  | none => .pass
  | some r => .found () r (length_of_gap h)

theorem said_gapLook (s : List Char) :
    (gapLook s).said = (Step.gap.rest? s).map fun r => some ((), r) := by
  unfold gapLook
  split
  · simp_all [Look.said]
  · simp_all [Look.said]

theorem replace_cons {α : Type} (look : (s : List Char) → Look s α) (fill : List Char) (c : Char)
    (s : List Char) : replace look fill (c :: s) = match (look (c :: s)).said with
      | none => c :: replace look fill s
      | some none => c :: s
      | some (some (_, rest)) => fill ++ replace look fill rest := by
  rw [replace_eq, firstFind_cons, replace_eq fill s]
  match (look (c :: s)).said with
  | none => cases firstFind look s <;> rfl
  | some none => rfl
  | some (some (_, rest)) => rfl

theorem squeeze_blank {c : Char} (hc : isBlank c = true) (s : List Char) :
    squeeze (c :: s) = ' ' :: squeeze (s.dropWhile isBlank) := by
  induction s generalizing c with
  | nil => rw [squeeze_cons, if_pos hc]; rfl
  | cons d s ih =>
    rw [squeeze_cons, if_pos hc, List.dropWhile_cons]
    cases hd : isBlank d with
    | true =>
      rw [ih hd, if_pos rfl]
      exact if_pos rfl
    | false =>
      have hne : d ≠ ' ' := by
        rintro rfl
        cases hd
      rw [if_neg Bool.false_ne_true, if_neg]
      rw [squeeze_cons, hd, if_neg Bool.false_ne_true, List.head?_cons]
      exact fun h => hne (Option.some.inj h)

theorem squeeze_eq_replace (s : List Char) : squeeze s = replace gapLook [' '] s := by
  induction hn : s.length using Nat.strongRecOn generalizing s with
  | ind n ih =>
    subst hn
    cases s with
    | nil => exact (replace_eq_self rfl [' ']).symm
    | cons c s =>
      rw [replace_cons, said_gapLook, Step.rest?, List.head?_cons, Option.any_some]
      cases hc : isBlank c with
      | true =>
        have hle := (List.dropWhile_suffix isBlank (l := s)).length_le
        rw [squeeze_blank hc, if_pos rfl, List.dropWhile_cons, if_pos hc,
          ih _ (Nat.lt_succ_of_le hle) _ rfl]
        rfl
      | false =>
        rw [squeeze_cons, hc, if_neg Bool.false_ne_true, if_neg Bool.false_ne_true,
          ih _ (Nat.lt_succ_self _) _ rfl]
        rfl

theorem squeeze_eq_replaceAll (s : List Char) :
    squeeze s = (Expr.repeated (.set .blank) 1 none true).program.replaceAll [' '] s := by
  have hreads : Reads (Step.gap.exprs true) Step.gap.rest? .done :=
    reads_step rfl fun _ _ => .inr fun _ _ => rfl
  rw [squeeze_eq_replace]
  exact (hreads.scanned said_gapLook fun _ _ => length_of_gap).replace_eq rfl [' '] s

end SoftFail.Text
