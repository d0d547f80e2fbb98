import SoftFail.Proofs.Toml.Quoted
import SoftFail.Proofs.Toml.Scalar

/-! Values are read back as they were written: those without parts, and lists of them. -/

namespace SoftFail.Toml

open Scan

variable {c : Char} {s rest : List Char} {v : Value} {items : List Value}

/-! Values. -/

inductive Scalar : Value → Prop
  | natural {n : Nat} (h : n < bound63) : Scalar (.natural n)
  | boolean (b : Bool) : Scalar (.boolean b)
  | float {x : Float} (h : Decimal.float? (Decimal.pointed.text x) = some x) :
    Scalar (.number (.float x))
  | text (s : String) : Scalar (.text s)

inductive Simple : Value → Prop
  | scalar {v : Value} (h : Scalar v) : Simple v
  | list {items : List Value} (h : ∀ v ∈ items, Scalar v) : Simple (.list items)

def isGap (c : Char) : Bool := isSpace c || ['\n', '\r', '#'].contains c

theorem quoted_refuses (hdouble : c ≠ '"') (hsingle : c ≠ '\'') (s : List Char) :
    Refuses quoted (c :: s) :=
  .image (.orElse (lines_refuses _ hdouble) (.orElse (basic_refuses hdouble)
    (.orElse (lines_refuses _ hsingle) (.bind (.char (by simpa using hsingle)))))) _

theorem value_eq (hc : c ≠ '[' ∧ c ≠ '\x7b') (room : Nat) (s : List Char) :
    value room (c :: s) = ((Value.text <$> quoted) <|> scalar : Scan Value) (c :: s) := by
  cases room with
  | zero => rfl
  | succ room =>
    have hpeek : peek? (c :: s) = some (some c, c :: s) := rfl
    rw [value, bind_apply, hpeek, Option.bind_some]
    refine congrFun ?_ (c :: s)
    split
    next heq => exact absurd (Option.some.inj heq) hc.1
    next heq => exact absurd (Option.some.inj heq) hc.2
    next => rfl

/-- The text of a value, read whatever follows it. -/
structure ReadBack (room : Nat) (v : Value) (c : Char) (s : List Char) : Prop where
  text : valueText v = some (c :: s)
  opens : isGap c = false
  reads : ∀ rest, Closes rest → Reads (value room) (c :: s) rest v

def isMark (c : Char) : Bool := isGap c || ['[', '\x7b', '"', '\''].contains c

theorem ReadBack.ofScalar (htext : valueText v = some (c :: s)) (hc : isMark c = false)
    (hreads : ∀ rest, Closes rest → Reads scalar (c :: s) rest v) (room : Nat) :
    ReadBack room v c s := by
  simp only [isMark, Bool.or_eq_false_iff, List.contains_eq_mem, decide_eq_false_iff_not,
    List.mem_cons, List.not_mem_nil, or_false, not_or] at hc
  obtain ⟨hgap, hlist, hrecord, hdouble, hsingle⟩ := hc
  refine ⟨htext, hgap, fun rest hrest => ?_⟩
  rw [Reads, List.cons_append, value_eq ⟨hlist, hrecord⟩]
  exact Reads.right (.image (quoted_refuses hdouble hsingle _) _) (hreads rest hrest)

theorem ReadBack.ofQuoted (text : String) (room : Nat) : ∃ c s, ReadBack room (.text text) c s := by
  obtain ⟨c, s, hquote, hc⟩ : ∃ c s, quote text = c :: s ∧ (c = '"' ∨ c = '\'') := by
    unfold quote
    dsimp only
    split <;> simp
  refine ⟨c, s, by rw [valueText, hquote], ?_, fun rest hrest => ?_⟩
  · rcases hc with rfl | rfl <;> rfl
  · have hopens : c ≠ '[' ∧ c ≠ '\x7b' := by rcases hc with rfl | rfl <;> decide
    have hread := quoted_reads text hrest
    rw [hquote] at hread
    rw [Reads, List.cons_append, value_eq hopens]
    exact Reads.left (hread.image Value.text)

theorem isMark_of_isDigit (h : c.isDigit = true) : isMark c = false := by
  have hne : ∀ d ∈ [' ', '\t', '\n', '\r', '#', '[', '\x7b', '"', '\''], c ≠ d := by
    have hnone : ∀ d ∈ [' ', '\t', '\n', '\r', '#', '[', '\x7b', '"', '\''], d.isDigit = false :=
      each (by decide)
    exact fun d hd => ne_of_holds h (hnone d hd)
  simp [isMark, isGap, isSpace, hne]

theorem exists_pointed_eq_cons {x : Float} (h : Decimal.float? (Decimal.pointed.text x) = some x) :
    ∃ c s, (Decimal.pointed.text x).toList = c :: s ∧ isMark c = false := by
  cases hparts : Decimal.parts x with
  | nan => exact ⟨'n', ['a', 'n'], by rw [Decimal.Style.text, hparts]; rfl, rfl⟩
  | infinite negative =>
    rw [Decimal.Style.text, hparts]
    cases negative with
    | true => exact ⟨'-', ['i', 'n', 'f'], rfl, rfl⟩
    | false => exact ⟨'i', ['n', 'f'], rfl, rfl⟩
  | finite negative b =>
    obtain ⟨c, ds, fraction, htext, hpointed, -, -⟩ := Decimal.exists_pointed_text hparts h
    rw [htext]
    cases negative with
    | true => exact ⟨'-', _, rfl, rfl⟩
    | false => exact ⟨c, _, rfl, isMark_of_isDigit (hpointed.digit c List.mem_cons_self)⟩

theorem Scalar.readBack (h : Scalar v) (room : Nat) : ∃ c s, ReadBack room v c s := by
  cases h with
  | @natural n h =>
    obtain ⟨c, ds, hds, hdigits, -⟩ := Decimal.exists_digits_eq_cons n
    have htext : valueText (.natural n) = some (c :: ds) := by
      rw [Value.natural, valueText, if_pos (isSigned64_natCast_iff.2 h), ← hds]
      simp [Decimal.intText, Decimal.text]
    refine ⟨c, ds, .ofScalar htext (isMark_of_isDigit (hdigits c List.mem_cons_self)) ?_ room⟩
    intro rest hrest
    rw [← hds]
    exact natural_reads n h hrest
  | boolean b =>
    cases b with
    | true => exact ⟨_, _, .ofScalar rfl rfl (fun rest _ => flag_reads true rest) room⟩
    | false => exact ⟨_, _, .ofScalar rfl rfl (fun rest _ => flag_reads false rest) room⟩
  | @float x h =>
    obtain ⟨c, s, htext, hc⟩ := exists_pointed_eq_cons h
    refine ⟨c, s, .ofScalar (by rw [valueText, htext]) hc (fun rest hrest => ?_) room⟩
    rw [← htext]
    exact float_reads h hrest
  | text s => exact ReadBack.ofQuoted s room

/-! Lists. -/

theorem pastGap_of_isGap (h : isGap c = false) (s : List Char) :
    pastGap false (c :: s) = c :: s := by
  simp only [isGap, Bool.or_eq_false_iff, List.contains_eq_mem, decide_eq_false_iff_not,
    List.mem_cons, List.not_mem_nil, or_false, not_or] at h
  obtain ⟨hspace, hnewline, hreturn, hcomment⟩ := h
  rw [pastGap] <;> simp [hspace, hnewline, hreturn, hcomment]

theorem gap_reads {blank : List Char} (hblank : ∀ b ∈ blank, b = ' ' ∨ b = '\n')
    (h : isGap c = false) (s : List Char) : Reads gap blank (c :: s) () := by
  rw [Reads, gap]
  induction blank with
  | nil => rw [List.nil_append, pastGap_of_isGap h]
  | cons b blank ih =>
    obtain ⟨hb, hblank⟩ := List.forall_mem_cons.1 hblank
    rw [← ih hblank]
    rcases hb with rfl | rfl <;> rfl

theorem value_refuses (room : Nat) (s : List Char) : Refuses (value room) (']' :: s) := by
  obtain ⟨hmoment, hpointed, hspecial, hinteger⟩ :=
    number_refuses (c := ']') rfl (by decide) s
  have hflag : Refuses flag (']' :: s) := by
    refine .orElse (.bind ?_) (.bind ?_)
    · change Refuses (word ['t', 'r', 'u', 'e']) _
      exact .word (by simp)
    · change Refuses (word ['f', 'a', 'l', 's', 'e']) _
      exact .word (by simp)
  have hscalar : Refuses scalar (']' :: s) :=
    .orElse hmoment (.orElse hpointed (.orElse hspecial (.orElse hinteger hflag)))
  rw [Refuses, value_eq (by decide)]
  exact Refuses.orElse (.image (quoted_refuses (by decide) (by decide) s) _) hscalar

def item (room : Nat) : Scan Value := do
  gap
  let v ← value room
  gap
  pure v

theorem item_reads {room : Nat} (blank : List Char) (hblank : ∀ b ∈ blank, b = ' ' ∨ b = '\n')
    (h : ReadBack room v c s) (hrest : rest.head? = some ',' ∨ rest.head? = some ']') :
    Reads (item room) (blank ++ c :: s) rest v := by
  obtain ⟨d, rest, rfl⟩ : ∃ d t, rest = d :: t := by
    cases rest with
    | nil => simp at hrest
    | cons d t => exact ⟨d, t, rfl⟩
  have hcloses : Closes (d :: rest) := by
    rcases hrest with ⟨⟨⟩⟩ | ⟨⟨⟩⟩
    · exact ⟨',', by simp, rfl⟩
    · exact ⟨']', by simp, rfl⟩
  have hgap : isGap d = false := by rcases hrest with ⟨⟨⟩⟩ | ⟨⟨⟩⟩ <;> rfl
  refine .bind (gap_reads hblank h.opens _) (.last (h.reads _ hcloses) ?_)
  exact .first (gap_reads (by simp) hgap rest) (.pure _ _)

theorem item_refuses (room : Nat) (blank : List Char) (hblank : ∀ b ∈ blank, b = ' ' ∨ b = '\n')
    (s : List Char) : Refuses (item room) (blank ++ ']' :: s) :=
  .after (gap_reads hblank rfl s) (.bind (value_refuses room s))

theorem head?_of_comma {t : List Char} (h : ',' :: s = t ++ [',']) (rest : List Char) :
    (t ++ ',' :: rest).head? = some ',' := by
  cases t with
  | nil => rfl
  | cons d t =>
    obtain ⟨rfl, -⟩ := List.cons.inj h
    rfl

/-- The items of a list on lines of their own. The comma behind the last one belongs to none. -/
theorem itemLines_readBack (h : ∀ v ∈ items, Scalar v) (room : Nat) :
    ∃ s t, itemLines items = some s ∧ ',' :: s = t ++ [','] ∧ ∀ rest,
      Many (do char ','; item room) (t ++ ',' :: '\n' :: ']' :: rest) items
        (',' :: '\n' :: ']' :: rest) := by
  induction items with
  | nil =>
    refine ⟨[], [], rfl, rfl, fun rest => .stop ?_⟩
    exact .after (t := [',']) (.char _ _) (item_refuses room ['\n'] (by simp) rest)
  | cons v items ih =>
    obtain ⟨hv, hitems⟩ := List.forall_mem_cons.1 h
    obtain ⟨c, s, hback⟩ := hv.readBack room
    obtain ⟨lines, t, hlines, hcomma, hmany⟩ := ih hitems
    refine ⟨'\n' :: List.replicate 4 ' ' ++ c :: s ++ ',' :: lines,
      ',' :: ('\n' :: List.replicate 4 ' ' ++ c :: s) ++ t, ?_, ?_, fun rest => ?_⟩
    · rw [itemLines, hback.text, hlines]
      rfl
    · rw [List.append_assoc, List.cons_append, hcomma]
      simp
    · have hitem : Reads (do char ','; item room)
          (',' :: ('\n' :: List.replicate 4 ' ' ++ c :: s)) (t ++ ',' :: '\n' :: ']' :: rest) v :=
        .bind (t := [',']) (.char _ _)
          (item_reads _ (by simp) hback (.inl (head?_of_comma hcomma _)))
      rw [List.append_assoc]
      exact (hmany rest).cons hitem (List.cons_ne_nil _ _)

theorem list_reads {room : Nat} {t : List Char}
    (hitems : Reads (separated (item room)) t (s ++ ']' :: rest) items)
    (hs : s = [] ∨ s = [',', '\n'] ∧ items ≠ []) :
    Reads (value (room + 1)) ('[' :: (t ++ (s ++ [']']))) rest (.list items) := by
  have hend (blank : List Char) (hblank : ∀ b ∈ blank, b = ' ' ∨ b = '\n') :
      Reads (do gap; char ']'; return Value.list items) (blank ++ [']']) rest (.list items) :=
    .bind (gap_reads hblank rfl rest) (.last (.char _ _) (.pure _ _))
  have htail : Reads (if !items.isEmpty then do
        let _ ← maybe (char ',')
        gap
        char ']'
        return Value.list items
      else do
        gap
        char ']'
        return Value.list items) (s ++ [']']) rest (.list items) := by
    rcases hs with rfl | ⟨rfl, hne⟩
    · have hnone : Reads (maybe (char ',')) [] (']' :: rest) none := Refuses.none (.char (by simp))
      split
      · exact .first hnone (hend [] (by simp))
      · exact hend [] (by simp)
    · rw [if_pos (by simpa using hne)]
      exact .bind (t := [',']) (.some (.char _ _)) (hend ['\n'] (by simp))
  have hbody : Reads (list (value room)) ('[' :: (t ++ (s ++ [']']))) rest (.list items) := by
    refine .bind (t := ['[']) (.char _ _) (.bind (a := items) ?_ htail)
    rw [List.append_assoc]
    exact hitems
  exact .first (.peek _) hbody

theorem separated_reads {α : Type} {r : Scan α} {a : α} {as : List α} {t t' : List Char}
    (ha : Reads r t (t' ++ rest) a) (has : Many (do char ','; r) (t' ++ rest) as rest) :
    Reads (separated r) (t ++ t') rest (a :: as) :=
  .left (.bind ha (has.reads.giving fun as => a :: as))

theorem Simple.readBack (h : Simple v) (room : Nat) : ∃ c s, ReadBack (room + 1) v c s := by
  cases h with
  | scalar h => exact h.readBack _
  | @list items h =>
    -- Only from two items on they stand on lines of their own.
    match items, h with
    | [], _ =>
      refine ⟨'[', [']'], rfl, rfl, fun rest _ => ?_⟩
      have hnone : Reads (separated (item room)) [] ([] ++ ']' :: rest) [] :=
        .right (.bind (item_refuses room [] (by simp) rest)) (.pure _ _)
      exact list_reads hnone (.inl rfl)
    | [v], h =>
      obtain ⟨c, s, hback⟩ := (h v List.mem_cons_self).readBack room
      refine ⟨'[', c :: s ++ [']'], by rw [valueText, hback.text]; rfl, rfl, fun rest _ => ?_⟩
      have hstop : Many (do char ','; item room) (']' :: rest) [] (']' :: rest) :=
        .stop (.bind (.char (by simp)))
      have hone : Reads (separated (item room)) (c :: s ++ []) ([] ++ ']' :: rest) [v] :=
        separated_reads (item_reads [] (by simp) hback (.inr rfl)) hstop
      have hlist := list_reads hone (.inl rfl)
      simpa using hlist
    | v :: w :: items, h =>
      obtain ⟨hv, hitems⟩ := List.forall_mem_cons.1 h
      obtain ⟨c, s, hback⟩ := hv.readBack room
      obtain ⟨lines, t, hlines, hcomma, hmany⟩ := itemLines_readBack hitems room
      have htext : valueText (.list (v :: w :: items)) =
          some ('[' :: ('\n' :: List.replicate 4 ' ' ++ c :: s ++ ',' :: lines) ++
            ['\n', ']']) := by
        rw [valueText, itemLines, hback.text, hlines]
        · rfl
        · rintro ⟨⟩
        · rintro _ ⟨⟩
      rw [hcomma] at htext
      refine ⟨'[', _, htext, rfl, fun rest _ => ?_⟩
      have hfirst : Reads (item room) ('\n' :: List.replicate 4 ' ' ++ c :: s)
          (t ++ ',' :: '\n' :: ']' :: rest) v :=
        item_reads _ (by simp) hback (.inl (head?_of_comma hcomma _))
      have hlist := list_reads (s := [',', '\n']) (separated_reads hfirst (hmany rest))
        (.inr ⟨rfl, List.cons_ne_nil _ _⟩)
      simpa using hlist

end SoftFail.Toml
