import SoftFail.Proofs.Decimal.Pointed
import SoftFail.Proofs.Toml.Scan
import SoftFail.Toml.Printing

/-! Numbers and truth values are read back as they were written. -/

namespace SoftFail.Toml

open Scan

/-- What may stand behind digits: no digit, and none of some marks. -/
structure EndsDigits (marks rest : List Char) : Prop where
  digit : Stops Char.isDigit rest
  mark : ∀ m ∈ marks, rest.head? ≠ some m

theorem Closes.endsDigits {rest : List Char} (h : Closes rest) {marks : List Char}
    (hmarks : ∀ m ∈ marks, m ∉ ['\n', ',', ']']) : EndsDigits marks rest :=
  ⟨h.stops (each (by decide)), fun m hm => h.head?_ne (hmarks m hm)⟩

variable {c : Char} {ds s marks rest : List Char}

theorem many_digits (h : ∀ d ∈ ds, d.isDigit = true) (hrest : EndsDigits marks rest)
    (hline : '_' ∈ marks) : Many (one digit <|> (do char '_'; one digit)) (ds ++ rest) ds rest := by
  induction ds with
  | nil => exact .stop (.orElse (.one hrest.digit) (.bind (.char (hrest.mark _ hline))))
  | cons d ds ih =>
    obtain ⟨hd, hds⟩ := List.forall_mem_cons.1 h
    exact .cons (t := [d]) (.left (.one hd _)) (List.cons_ne_nil _ _) (ih hds)

theorem grouped_reads (h : ∀ d ∈ c :: ds, d.isDigit = true) (hrest : EndsDigits marks rest)
    (hline : '_' ∈ marks) : Reads (grouped digit) (c :: ds) rest (c :: ds) := by
  obtain ⟨hc, hds⟩ := List.forall_mem_cons.1 h
  exact .bind (t := [c]) (.one hc _) ((many_digits hds hrest hline).reads.giving _)

theorem whole_reads (h : ∀ d ∈ c :: ds, d.isDigit = true) (hzero : c = '0' → ds = [])
    (hrest : EndsDigits marks rest) (hline : '_' ∈ marks) :
    Reads whole (c :: ds) rest (c :: ds) := by
  refine .first (.peek _) ?_
  rw [List.cons_append, List.head?_cons]
  by_cases hc : c = '0'
  · subst hc
    obtain rfl := hzero rfl
    exact .last (.char _ _) (.pure _ _)
  · split
    next heq => exact absurd (Option.some.inj heq) hc
    next => exact grouped_reads h hrest hline

theorem sign_none (h : Stops (fun c => c = '+' || c = '-') s) : Reads sign [] s false :=
  .first (Refuses.none (.one h)) (.pure _ _)

theorem sign_minus (s : List Char) : Reads sign ['-'] s true :=
  .last (.some (.one rfl _)) (.pure _ _)

theorem sign_digit (h : c.isDigit = true) (s : List Char) : Reads sign [] (c :: s) false := by
  refine sign_none (stops_cons.2 ?_)
  have hplus : c ≠ '+' := ne_of_holds h rfl
  have hminus : c ≠ '-' := ne_of_holds h rfl
  simp [hplus, hminus]

/-! What is no date and no time. -/

theorem exactly_digits (h : ∀ d ∈ ds, d.isDigit = true) (hrest : Stops Char.isDigit rest)
    (n : Nat) : Refuses (exactly digit n) (ds ++ rest) ∨ ∃ taken left, ds = taken ++ left ∧
      Reads (exactly digit n) taken (left ++ rest) taken := by
  induction n generalizing ds with
  | zero => exact .inr ⟨[], ds, rfl, .pure _ _⟩
  | succ n ih =>
    cases ds with
    | nil => exact .inl (.bind (.one hrest))
    | cons d ds =>
      obtain ⟨hd, hds⟩ := List.forall_mem_cons.1 h
      rcases ih hds with hno | ⟨taken, left, rfl, hread⟩
      · exact .inl (.after (t := [d]) (.one hd _) (.bind hno))
      · exact .inr ⟨d :: taken, left, rfl, .bind (t := [d]) (.one hd _) (hread.giving _)⟩

/-- Behind digits there is not what a date or a time has there. -/
theorem within_refuses (h : ∀ d ∈ ds, d.isDigit = true) (hrest : EndsDigits marks rest)
    {mark : Char} (hmark : mark ∈ marks) (hdigit : mark.isDigit = false) (places low high : Nat)
    (f : Nat → Unit → Scan Unit) :
    Refuses (do let n ← within places low high; let u ← char mark; f n u) (ds ++ rest) := by
  have hchar : ∀ left, (∀ d ∈ left, d.isDigit = true) → Refuses (char mark) (left ++ rest) := by
    rintro (_ | ⟨d, left⟩) hleft
    · exact .char (hrest.mark mark hmark)
    · have hne : d ≠ mark := ne_of_holds (hleft d List.mem_cons_self) hdigit
      exact .char (by simpa using hne)
  -- There are too few digits, or enough of them but no mark behind the last one.
  rcases exactly_digits h hrest.digit places with hno | ⟨taken, left, rfl, htaken⟩
  · exact .bind (.bind hno)
  · rw [within, List.append_assoc]
    by_cases hn : (low ≤ Decimal.value taken && Decimal.value taken ≤ high) = true
    · have hwithin : Reads (do
          let n := Decimal.value (← exactly digit places)
          if low ≤ n && n ≤ high then pure n else failure) taken (left ++ rest)
            (Decimal.value taken) := htaken.last (by rw [if_pos hn]; exact .pure _ _)
      exact .after hwithin (.bind (hchar left fun d hd => h d (List.mem_append_right _ hd)))
    · refine .bind (.after htaken ?_)
      rw [if_neg hn]
      rfl

theorem moment_refuses (h : ∀ d ∈ ds, d.isDigit = true) (hrest : EndsDigits marks rest)
    (hmarks : '-' ∈ marks ∧ ':' ∈ marks) : Refuses moment (ds ++ rest) := by
  have hdate : Refuses date (ds ++ rest) := within_refuses h hrest hmarks.1 rfl 4 0 9999 _
  have htime : Refuses time (ds ++ rest) := within_refuses h hrest hmarks.2 rfl 2 0 23 _
  have hmoment : Refuses (dateAndTime <|> time) (ds ++ rest) := .orElse (.bind hdate) htime
  rw [Refuses, moment, hmoment]
  rfl

theorem moment_refuses_word (h : Stops Char.isDigit s) : Refuses moment s := by
  have hwithin (places low high : Nat) : Refuses (within (places + 1) low high) s :=
    .bind (.bind (.one h))
  have hmoment : Refuses (dateAndTime <|> time) s :=
    .orElse (.bind (.bind (hwithin 3 0 9999))) (.bind (hwithin 1 0 23))
  rw [Refuses, moment, hmoment]
  rfl

/-! Naturals. -/

theorem pointed_refuses (h : ∀ d ∈ c :: ds, d.isDigit = true) (hzero : c = '0' → ds = [])
    (hrest : EndsDigits marks rest) (hmarks : ∀ m ∈ ['_', '.', 'e', 'E'], m ∈ marks) :
    Refuses pointed (c :: ds ++ rest) := by
  have hwhole := whole_reads h hzero hrest (hmarks '_' (by decide))
  have hfraction : Refuses fraction rest := .bind (.char (hrest.mark _ (hmarks _ (by decide))))
  have hexponent : Refuses exponent rest := by
    refine .bind (.one fun d hd => ?_)
    have hlower : d ≠ 'e' := fun he => hrest.mark _ (hmarks 'e' (by decide)) (he ▸ hd)
    have hupper : d ≠ 'E' := fun he => hrest.mark _ (hmarks 'E' (by decide)) (he ▸ hd)
    simp [hlower, hupper]
  refine .after (t := []) (sign_digit (h c List.mem_cons_self) _) (.after hwhole ?_)
  exact .bind (.orElse (.bind hfraction) (.bind hexponent))

theorem special_refuses (hc : c.isDigit = true) (s : List Char) : Refuses special (c :: s) := by
  have hi : c ≠ 'i' := ne_of_holds hc rfl
  have hn : c ≠ 'n' := ne_of_holds hc rfl
  refine .after (t := []) (sign_digit hc s) (.bind (.orElse (.bind ?_) (.bind ?_)))
  · change Refuses (word ['i', 'n', 'f']) _
    exact .word (by simpa using hi)
  · change Refuses (word ['n', 'a', 'n']) _
    exact .word (by simpa using hn)

theorem basedInteger_refuses {mark : Char} (base : Nat) (h : ∀ d ∈ c :: ds, d.isDigit = true)
    (hrest : EndsDigits marks rest) (hmark : mark ∈ marks) (hdigit : mark.isDigit = false) :
    Refuses (basedInteger mark base) (c :: ds ++ rest) := by
  by_cases hc : c = '0'
  · subst hc
    refine .bind (.after (t := ['0']) (.char _ _) (.bind (.char ?_)))
    cases ds with
    | nil => exact hrest.mark mark hmark
    | cons d ds =>
      have hne : d ≠ mark := ne_of_holds (h d (by simp)) hdigit
      simpa using hne
  · exact .bind (.word (by simpa using hc))

theorem natural_reads (n : Nat) (hn : n < bound63) (hrest : Closes rest) :
    Reads scalar (Decimal.digits n) rest (.natural n) := by
  obtain ⟨c, ds, hds, hdigits, hzero⟩ := Decimal.exists_digits_eq_cons n
  have hends : EndsDigits ['_', '.', 'e', 'E', '-', ':', 'x', 'o', 'b'] rest :=
    hrest.endsDigits (each (by decide))
  have hvalue : Decimal.value (c :: ds) = n := by rw [← hds, Decimal.value_digits]
  have hinteger : Reads decimalInteger (c :: ds) rest (.natural n) := by
    refine .first (sign_digit (hdigits c List.mem_cons_self) _) ?_
    refine .last (whole_reads hdigits hzero hends (by decide)) ?_
    rw [hvalue]
    dsimp only
    rw [if_neg Bool.false_ne_true, ranged, if_pos (isSigned64_natCast_iff.2 hn)]
    exact .pure _ _
  rw [hds]
  refine .right (moment_refuses hdigits hends (by decide)) ?_
  refine .right (pointed_refuses hdigits hzero hends (each (by decide))) ?_
  refine .right (special_refuses (hdigits c List.mem_cons_self) _) (.left ?_)
  exact .right (basedInteger_refuses 16 hdigits hends (by decide) rfl)
    (.right (basedInteger_refuses 8 hdigits hends (by decide) rfl)
      (.right (basedInteger_refuses 2 hdigits hends (by decide) rfl) hinteger))

/-! Words. -/

theorem whole_refuses (h : Stops Char.isDigit s) : Refuses whole s := by
  refine .after (t := []) (.peek _) ?_
  split
  next heq => cases h _ heq
  next => exact .bind (.one h)

theorem pointed_refuses_word {negative : Bool} {t : List Char} (hsign : Reads sign t s negative)
    (h : Stops Char.isDigit s) : Refuses pointed (t ++ s) := .after hsign (.bind (whole_refuses h))

/-- What begins with neither a digit nor a sign is no number, but for two words. -/
theorem number_refuses (hdigit : c.isDigit = false) (hc : c ∉ ['+', '-', 'i', 'n'])
    (s : List Char) :
    Refuses moment (c :: s) ∧ Refuses pointed (c :: s) ∧ Refuses special (c :: s) ∧
      Refuses integer (c :: s) := by
  simp only [List.mem_cons, List.not_mem_nil, or_false, not_or] at hc
  obtain ⟨hplus, hminus, hi, hn⟩ := hc
  have hstops : Stops Char.isDigit (c :: s) := stops_cons.2 hdigit
  have hsign : Reads sign [] (c :: s) false := sign_none (stops_cons.2 (by simp [hplus, hminus]))
  have hzero : (c :: s).head? ≠ some '0' := by
    rintro ⟨⟩
    cases hdigit
  refine ⟨moment_refuses_word hstops, pointed_refuses_word hsign hstops,
    .after (t := []) hsign (.bind (.orElse (.bind ?_) (.bind ?_))), ?_⟩
  · change Refuses (word ['i', 'n', 'f']) _
    exact .word (by simpa using hi)
  · change Refuses (word ['n', 'a', 'n']) _
    exact .word (by simpa using hn)
  · have hbased (mark : Char) (base : Nat) : Refuses (basedInteger mark base) (c :: s) :=
      .bind (.word hzero)
    exact .orElse (hbased _ _) (.orElse (hbased _ _) (.orElse (hbased _ _)
      (.after (t := []) hsign (.bind (whole_refuses hstops)))))

theorem flag_reads (b : Bool) (rest : List Char) :
    Reads scalar (if b then "true" else "false").toList rest (.boolean b) := by
  have hscalar {c : Char} {s : List Char} (hdigit : c.isDigit = false)
      (hc : c ∉ ['+', '-', 'i', 'n']) (hflag : Reads flag (c :: s) rest (.boolean b)) :
      Reads scalar (c :: s) rest (.boolean b) := by
    obtain ⟨hmoment, hpointed, hspecial, hinteger⟩ := number_refuses hdigit hc (s ++ rest)
    exact .right hmoment (.right hpointed (.right hspecial (.right hinteger hflag)))
  cases b with
  | true =>
    have hflag : Reads flag ['t', 'r', 'u', 'e'] rest (.boolean true) :=
      .left (.last (.word _ _) (.pure _ _))
    exact hscalar rfl (by decide) hflag
  | false =>
    have htrue : Refuses (word ['t', 'r', 'u', 'e']) (['f', 'a', 'l', 's', 'e'] ++ rest) :=
      .word (by simp)
    have hflag : Reads flag ['f', 'a', 'l', 's', 'e'] rest (.boolean false) :=
      .right (.bind htrue) (.last (.word _ _) (.pure _ _))
    exact hscalar rfl (by decide) hflag

/-! Floating-point numbers. -/

theorem pointed_reads {fraction : List Char} (h : Decimal.Pointed (c :: ds) fraction)
    (hzero : c = '0' → ds = []) (hrest : Closes rest) {negative : Bool} {x : Float}
    (hx : x = Decimal.negated negative
      (Decimal.nearest (Decimal.value (c :: ds ++ fraction)) (-(fraction.length : Int))))
    (hfinite : (x == Decimal.infinity) = false) :
    Reads pointed ((if negative then ['-'] else []) ++ (c :: ds ++ '.' :: fraction)) rest
      (.number (.float x)) := by
  obtain ⟨d, places, rfl⟩ := List.exists_cons_of_ne_nil h.fraction
  have hwhole : ∀ d ∈ c :: ds, d.isDigit = true := fun e he => h.digit e (List.mem_append_left _ he)
  have hplaces : ∀ e ∈ d :: places, e.isDigit = true :=
    fun e he => h.digit e (List.mem_append_right _ he)
  have hends : EndsDigits ['_', 'e', 'E'] rest := hrest.endsDigits (each (by decide))
  have hsign : Reads sign (if negative then ['-'] else [])
      (c :: (ds ++ '.' :: d :: places) ++ rest) negative := by
    cases negative with
    | true => exact sign_minus _
    | false => exact sign_digit (hwhole c List.mem_cons_self) _
  have hpoint : EndsDigits ['_'] ('.' :: d :: places ++ rest) := ⟨stops_cons.2 rfl, by simp⟩
  have hexponent : Reads (maybe exponent) [] rest none :=
    Refuses.none (.bind (.one (hrest.stops (each (by decide)))))
  have hfraction : Reads fraction ('.' :: d :: places) rest (d :: places) :=
    .bind (t := ['.']) (.char _ _) (grouped_reads hplaces hends (by decide))
  refine .bind hsign (.bind (whole_reads hwhole hzero hpoint (by decide)) ?_)
  refine .last (.left (.last hfraction (.last hexponent (.pure _ _)))) ?_
  have hshift : (none : Option Int).getD 0 - ((d :: places).length : Int) =
      -((d :: places).length : Int) := Int.zero_sub _
  rw [Decimal.negated] at hx
  dsimp only
  rw [hshift, ← hx, hfinite]
  exact .pure _ _

theorem nan_reads (rest : List Char) :
    Reads scalar ['n', 'a', 'n'] rest (.number (.float Decimal.notANumber)) := by
  have hsign : Reads sign [] ('n' :: 'a' :: 'n' :: rest) false := sign_none (stops_cons.2 rfl)
  have hstops : Stops Char.isDigit ('n' :: 'a' :: 'n' :: rest) := stops_cons.2 rfl
  have hinf : Refuses (word ['i', 'n', 'f']) ('n' :: 'a' :: 'n' :: rest) := .word (by simp)
  have hspecial : Reads special ['n', 'a', 'n'] rest (.number (.float Decimal.notANumber)) :=
    .first hsign (.last (.right (.bind hinf) (.last (.word _ _) (.pure _ _))) (.pure _ _))
  have hpointed : Refuses pointed ('n' :: 'a' :: 'n' :: rest) := pointed_refuses_word hsign hstops
  exact .right (moment_refuses_word hstops) (.right hpointed (.left hspecial))

theorem infinity_reads (negative : Bool) (rest : List Char) :
    Reads scalar ((if negative then ['-'] else []) ++ ['i', 'n', 'f']) rest
      (.number (.float (Decimal.negated negative Decimal.infinity))) := by
  have hstops : Stops Char.isDigit (['i', 'n', 'f'] ++ rest) := stops_cons.2 rfl
  have hsign : Reads sign (if negative then ['-'] else []) (['i', 'n', 'f'] ++ rest) negative := by
    cases negative with
    | true => exact sign_minus _
    | false => exact sign_none (stops_cons.2 rfl)
  have hspecial : Reads special ((if negative then ['-'] else []) ++ ['i', 'n', 'f']) rest
      (.number (.float (Decimal.negated negative Decimal.infinity))) :=
    .bind hsign (.last (.left (.last (.word _ _) (.pure _ _))) (.pure _ _))
  have hmoment : Refuses moment
      ((if negative then ['-'] else []) ++ (['i', 'n', 'f'] ++ rest)) := by
    cases negative with
    | true => exact moment_refuses_word (stops_cons.2 rfl)
    | false => exact moment_refuses_word hstops
  have hpointed := pointed_refuses_word hsign hstops
  rw [← List.append_assoc] at hmoment hpointed
  exact .right hmoment (.right hpointed (.left hspecial))

/-- A number is read back from its text, when it is the number that its digits stand for. -/
theorem float_reads {x : Float} (hx : Decimal.float? (Decimal.pointed.text x) = some x)
    (hrest : Closes rest) :
    Reads scalar (Decimal.pointed.text x).toList rest (.number (.float x)) := by
  cases hparts : Decimal.parts x with
  | nan =>
    have htext : Decimal.pointed.text x = "nan" := by
      rw [Decimal.Style.text, hparts]
      rfl
    rw [htext] at hx ⊢
    obtain rfl : Decimal.notANumber = x := Option.some.inj hx
    exact nan_reads rest
  | infinite negative =>
    have htext : Decimal.pointed.text x = Decimal.signed negative "inf" := by
      rw [Decimal.Style.text, hparts]
      rfl
    have hlist : (Decimal.signed negative "inf").toList =
        (if negative then ['-'] else []) ++ ['i', 'n', 'f'] := by cases negative <;> rfl
    have hfloat : Decimal.float? (Decimal.signed negative "inf") =
        some (Decimal.negated negative Decimal.infinity) := by cases negative <;> rfl
    rw [htext] at hx ⊢
    obtain rfl : Decimal.negated negative Decimal.infinity = x :=
      Option.some.inj (hfloat.symm.trans hx)
    rw [hlist]
    exact infinity_reads negative rest
  | finite negative b =>
    obtain ⟨c, ds, fraction, htext, hpointed, hzero, hvalue⟩ :=
      Decimal.exists_pointed_text hparts hx
    have hread := pointed_reads hpointed hzero hrest hvalue (Decimal.not_beq_infinity hparts)
    have hwhole : ∀ d ∈ c :: ds, d.isDigit = true :=
      fun d hd => hpointed.digit d (List.mem_append_left _ hd)
    rw [htext]
    refine .right ?_ (.left hread)
    cases negative with
    | true => exact moment_refuses_word (stops_cons.2 rfl)
    | false =>
      have hpoint : EndsDigits ['-', ':'] ('.' :: fraction ++ rest) := ⟨stops_cons.2 rfl, by simp⟩
      have hmoment := moment_refuses hwhole hpoint (by decide)
      simpa using hmoment

end SoftFail.Toml
