import SoftFail.Proofs.Toml.Pieces
import SoftFail.Toml.Printing

/-! Quoted text is read back as it was, whatever is in it and whatever form was chosen for it. -/

namespace SoftFail.Toml

open Scan

/-! Escapes. -/

theorem hexPlaces_upper : ∀ n < 128,
    let ds := (Text.hexPlaces 4 n).map Char.toUpper
    ds.length = 4 ∧ (ds.all fun c => (Text.hexValue? c).isSome) = true ∧
      ds.foldl (fun n c => 16 * n + (Text.hexValue? c).getD 0) 0 = n ∧ n.isValidChar := by
  decide +kernel

theorem hexChar_reads {n : Nat} (hn : n < 128) (rest : List Char) :
    Reads (hexChar 4) ((Text.hexPlaces 4 n).map Char.toUpper) rest (Char.ofNat n) := by
  obtain ⟨hlength, hdigits, hvalue, hvalid⟩ := hexPlaces_upper n hn
  have hexactly := Reads.exactly (List.all_eq_true.1 hdigits) rest
  rw [hlength] at hexactly
  refine hexactly.last ?_
  simp only [hvalue, hvalid, if_true]
  exact .pure _ _

def isUnescaped (c : Char) : Bool := isPlain c && c ≠ '"' && c ≠ '\\'

theorem toNat_lt_of_not_isPlain {c : Char} (hc : isPlain c = false) : c.toNat < 128 := by
  simp only [isPlain, Bool.or_eq_false_iff, Bool.and_eq_false_iff, decide_eq_false_iff_not] at hc
  rcases hc.2 with hlow | hlast
  · have hlt : c.toNat < 32 := Nat.lt_of_not_le fun hle => hlow hle
    exact Nat.lt_trans hlt (by decide)
  · have heq : c = '\x7F' := Classical.not_not.1 hlast
    rw [heq]
    decide

theorem escape_cases {c : Char} (hc : c ≠ '"') :
    (escape c = [c] ∧ isUnescaped c = true) ∨
      ∃ d u, escape c = '\\' :: d :: u ∧ d ∉ [' ', '\t', '\n', '\r'] ∧
        ∀ rest, Reads escaped (d :: u) rest c := by
  unfold escape
  split
  next h => exact .inr ⟨'b', [], rfl, by decide, fun _ => by rw [h]; rfl⟩
  split
  next h => exact .inr ⟨'t', [], rfl, by decide, fun _ => by rw [h]; rfl⟩
  split
  next h => exact .inr ⟨'n', [], rfl, by decide, fun _ => by rw [h]; rfl⟩
  split
  next h => exact .inr ⟨'f', [], rfl, by decide, fun _ => by rw [h]; rfl⟩
  split
  next h => exact .inr ⟨'r', [], rfl, by decide, fun _ => by rw [h]; rfl⟩
  split
  next h => exact .inr ⟨'\\', [], rfl, by decide, fun _ => by rw [h]; rfl⟩
  next hback =>
    split
    next hplain => exact .inl ⟨rfl, by simp [isUnescaped, hplain, hc, hback]⟩
    next hplain =>
      refine .inr ⟨'u', _, rfl, by decide, fun rest => ?_⟩
      have hread := hexChar_reads (toNat_lt_of_not_isPlain (Bool.not_eq_true _ ▸ hplain)) rest
      rw [Char.ofNat_toNat] at hread
      exact .bind (t := ['u']) (.one rfl _) hread

theorem basicPiece_plain (c : Char) (s : List Char) (hc : isUnescaped c = true) :
    basicPiece (c :: s) = some (c :: s.takeWhile isUnescaped, s.dropWhile isUnescaped) := by
  rw [basicPiece, orElse_apply]
  change (run1 isUnescaped (c :: s)).or _ = _
  rw [run1_cons hc]
  rfl

theorem basicPiece_escape {d c : Char} {u : List Char}
    (h : ∀ rest, Reads escaped (d :: u) rest c) (rest : List Char) :
    Reads basicPiece ('\\' :: d :: u) rest [c] := by
  refine .right (.bind (.one ?_)) (.bind (t := ['\\']) (.char _ _) ((h rest).giving fun c => [c]))
  rw [List.cons_append, stops_cons]
  rfl

/-! The four forms. -/

theorem spelled_escapeAll {r : Scan (List Char)} {lines : Bool} {allowed : Nat}
    (hescape : ∀ {d c : Char} {u : List Char}, d ∉ [' ', '\t', '\n', '\r'] →
      (∀ rest, Reads escaped (d :: u) rest c) → ∀ rest, Reads r ('\\' :: d :: u) rest [c])
    (hfeed : lines = true → ∀ rest, Reads r ['\n'] rest ['\n']) (marks : Nat) (s : List Char) :
    Spelled r isUnescaped '"' allowed marks (escapeAll lines allowed marks s) s := by
  fun_induction escapeAll lines allowed marks s with
  | case1 marks => exact .nil marks
  | case2 marks s hless ih => exact .mark hless ih
  | case3 marks s _ ih =>
    exact .piece (u := ['"']) (by decide) (hescape (by decide) fun _ => rfl) ih
  | case4 marks c s _ hc ih =>
    obtain ⟨rfl, hlines⟩ : c = '\n' ∧ lines = true := by simpa using hc
    exact .piece (d := '\n') (u := []) (by decide) (hfeed hlines) ih
  | case5 marks c s hquote hc ih =>
    rcases escape_cases hquote with ⟨hself, hunescaped⟩ | ⟨d, u, hself, hd, hread⟩
    · rw [hself]
      exact .plain hunescaped ih
    · rw [hself]
      exact .piece (by decide) (hescape hd hread) ih

theorem Spells.reads {r : Scan (List Char)} {e t rest : List Char}
    (h : Spells r (e ++ rest) t rest) :
    ∃ pieces, Reads (many r) e rest pieces ∧ pieces.flatten = t := by
  obtain ⟨pieces, hmany, hflatten⟩ := h
  exact ⟨pieces, hmany.reads, hflatten⟩

theorem basicPiece_refuses (s : List Char) : Refuses basicPiece ('"' :: s) :=
  .orElse (.bind (.one (stops_cons.2 rfl))) (.bind (.char (by simp)))

theorem basic_reads (s rest : List Char) :
    Reads basic ('"' :: (escapeAll false 0 0 s ++ ['"'])) rest s := by
  have hspelled : Spelled basicPiece isUnescaped '"' 0 0 (escapeAll false 0 0 s) s :=
    spelled_escapeAll (fun _ hread => basicPiece_escape hread) (fun h => by cases h) 0 s
  have hstop : ∀ n ≤ 0, Refuses basicPiece (List.replicate n '"' ++ '"' :: rest) := by
    rintro _ ⟨⟩
    exact basicPiece_refuses rest
  obtain ⟨body, n, hn, htext, hspells⟩ := hspelled.spells basicPiece_plain rfl
    (fun n s hpos hle => absurd hpos (Nat.not_lt.2 hle)) hstop (Nat.le_refl 0)
  obtain rfl := Nat.le_zero.1 hn
  rw [List.replicate_zero, List.append_nil, List.nil_append] at htext
  obtain ⟨pieces, hpieces, rfl⟩ := Spells.reads (e := escapeAll false 0 0 s) hspells
  refine .bind (t := ['"']) (.char _ _) (.bind hpieces (.last (.char _ _) ?_))
  rw [htext]
  exact .pure _ _

theorem literal_reads {s : List Char} (h : ∀ c ∈ s, (isPlain c && c ≠ '\'') = true)
    (rest : List Char) : Reads literal ('\'' :: (s ++ ['\''])) rest s :=
  .bind (t := ['\'']) (.char _ _)
    (.bind (.run h (stops_cons.2 rfl)) (.last (.char _ _) (.pure _ _)))

theorem word_refuses {c : Char} {rest : List Char} (cs more : List Char)
    (h : rest.head? ≠ some c) : Refuses (word (cs ++ c :: more)) (cs ++ rest) := by
  induction cs with
  | nil => exact .word h
  | cons d cs ih => exact .after (t := [d]) (.char d _) ih

theorem close_reads {q : Char} {rest : List Char} (hrest : rest.head? ≠ some q) {n : Nat}
    (hn : n ≤ 2) :
    Reads (close q) (List.replicate n q ++ [q, q, q]) rest (List.replicate n q) := by
  match n, hn with
  | 0, _ =>
    refine .right (.bind (word_refuses [q, q, q] [q] hrest)) ?_
    exact .right (.bind (word_refuses [q, q, q] [] hrest)) (.last (.word _ _) (.pure _ _))
  | 1, _ =>
    refine .right (.bind (word_refuses [q, q, q, q] [] hrest)) ?_
    exact .left (.last (.word _ _) (.pure _ _))
  | 2, _ => exact .left (.last (.word _ _) (.pure _ _))

section Lines

variable {q : Char} {piece : Scan (List Char)} {p : Char → Bool}

theorem marks_reads {n : Nat} {s : List Char} (hpos : 0 < n) (hn : n ≤ 2)
    (hs : ∃ c, s.head? = some c ∧ c ≠ q) :
    Reads (marks q) (List.replicate n q) s (List.replicate n q) := by
  obtain ⟨c, hhead, hc⟩ := hs
  have hstops : Stops (· = q) s := by
    intro d hd
    obtain rfl : c = d := Option.some.inj (hhead.symm.trans hd)
    exact decide_eq_false hc
  refine .last (.run (fun d hd => decide_eq_true (List.eq_of_mem_replicate hd)) hstops) ?_
  refine .first (.peek _) ?_
  rw [List.nil_append, hhead]
  obtain rfl | rfl : n = 1 ∨ n = 2 := by omega
  · rw [if_pos (by simp)]
    exact .pure _ _
  · rw [if_pos (by simp)]
    exact .pure _ _

theorem marks_refuses {n : Nat} {s : List Char} (hn : n = 0 ∨ 3 ≤ n) (hs : s.head? ≠ some q) :
    Refuses (marks q) (List.replicate n q ++ s) := by
  have hstops : Stops (· = q) s := by
    intro d hd
    refine decide_eq_false ?_
    rintro rfl
    exact hs hd
  refine .after (.run (fun d hd => decide_eq_true (List.eq_of_mem_replicate hd)) hstops) ?_
  refine .after (t := []) (.peek _) ?_
  cases s.head? with
  | none => rfl
  | some c =>
    have hno : ¬(List.replicate n q = [q] ∨ List.replicate n q = [q, q]) := by
      rintro (h | h)
      · obtain rfl : n = 1 := by simpa using congrArg List.length h
        omega
      · obtain rfl : n = 2 := by simpa using congrArg List.length h
        omega
    rw [if_neg (by simpa using hno)]
    rfl

theorem newline_refuses {s : List Char} (h : Stops (fun c => c = '\n' || c = '\r') s) :
    Refuses newline s := by
  refine .orElse (.char fun hn => ?_) (.word fun hr => ?_)
  · simpa using h _ hn
  · simpa using h _ hr

/-- A text of many lines; `feed` is what it may skip behind the first quotation marks. -/
theorem lines_reads (hq : p q = false) (hmark : q ≠ '\n' ∧ q ≠ '\r')
    (hplain : ∀ c s, p c = true → piece (c :: s) = some (c :: s.takeWhile p, s.dropWhile p))
    (hpiece : ∀ s, Refuses piece (q :: s)) {e t feed rest : List Char}
    (h : Spelled (marks q <|> piece <|> lineFeed) p q 2 0 e t) (hrest : rest.head? ≠ some q)
    (hfeed : ∃ x, Reads (maybe newline) feed (e ++ (q :: q :: q :: rest)) x) :
    Reads (lines q piece) (q :: q :: q :: (feed ++ (e ++ [q, q, q]))) rest t := by
  have hrun (c : Char) (s : List Char) (hc : p c = true) :
      (marks q <|> piece <|> lineFeed) (c :: s) = some (c :: s.takeWhile p, s.dropWhile p) := by
    have hne : c ≠ q := ne_of_holds hc hq
    have hmarks : Refuses (marks q) (c :: s) :=
      marks_refuses (n := 0) (.inl rfl) (by simpa using hne)
    rw [orElse_apply, hmarks, orElse_apply, hplain c s hc]
    rfl
  have hstop (n : Nat) (_ : n ≤ 2) :
      Refuses (marks q <|> piece <|> lineFeed) (List.replicate n q ++ q :: q :: q :: rest) := by
    have hmarks : List.replicate n q ++ q :: q :: q :: rest = List.replicate (n + 3) q ++ rest := by
      rw [← List.replicate_append_replicate, List.append_assoc]
      rfl
    have hhead : List.replicate (n + 3) q ++ rest = q :: (List.replicate (n + 2) q ++ rest) := rfl
    rw [hmarks]
    refine .orElse (marks_refuses (.inr (Nat.le_add_left 3 n)) hrest) ?_
    rw [hhead]
    exact .orElse (hpiece _) (.bind (newline_refuses (stops_cons.2 (by simp [hmark]))))
  obtain ⟨body, n, hn, htext, hspells⟩ := h.spells hrun hq
    (fun n s hpos hle hs => .left (marks_reads hpos hle hs)) hstop (Nat.zero_le 2)
  obtain ⟨skipped, hfeed⟩ := hfeed
  obtain ⟨pieces, hpieces, rfl⟩ := hspells
  have hmany : many (marks q <|> piece <|> lineFeed) (e ++ q :: q :: q :: rest) =
      some (pieces, List.replicate n q ++ q :: q :: q :: rest) := hpieces.manyFrom (Nat.le_refl _)
  have hclose : close q (List.replicate n q ++ q :: q :: q :: rest) =
      some (List.replicate n q, rest) := by
    have hreads := close_reads hrest hn
    rwa [Reads, List.append_assoc] at hreads
  have hbody : Reads (do
      let cs ← many (marks q <|> piece <|> lineFeed)
      return cs.flatten ++ (← close q)) (e ++ [q, q, q]) rest t := by
    rw [Reads, List.append_assoc, bind_apply]
    change (many _ (e ++ q :: q :: q :: rest)).bind _ = _
    rw [hmany, Option.bind_some, bind_apply, hclose]
    exact congrArg (fun s => some (s, rest)) htext
  have hfeed : Reads (maybe newline) feed (e ++ [q, q, q] ++ rest) skipped := by
    rwa [List.append_assoc]
  exact .bind (t := [q, q, q]) (.word _ _) (.bind hfeed hbody)

end Lines

theorem basicLines_escape {d c : Char} {u : List Char} (hd : d ∉ [' ', '\t', '\n', '\r'])
    (h : ∀ rest, Reads escaped (d :: u) rest c) (rest : List Char) :
    Reads (marks '"' <|> (joined <|> basicPiece) <|> lineFeed) ('\\' :: d :: u) rest [c] := by
  simp only [List.mem_cons, List.not_mem_nil, or_false, not_or] at hd
  have hmarks : Refuses (marks '"') ('\\' :: (d :: u ++ rest)) :=
    marks_refuses (n := 0) (.inl rfl) (by simp)
  have hspaces : Reads spaces [] (d :: u ++ rest) () :=
    (Reads.run (t := []) (by simp) (stops_cons.2 (by simp [isSpace, hd]))).last (.pure _ _)
  have hjoined : Refuses joined ('\\' :: (d :: u ++ rest)) := by
    refine .after (t := ['\\']) (.char _ _) (.after (t := []) hspaces (.bind ?_))
    exact newline_refuses (stops_cons.2 (by simp [hd]))
  exact .right hmarks (.left (.right hjoined (basicPiece_escape h rest)))

def feed (s : List Char) : List Char := if s.contains '\n' then ['\n'] else []

theorem feed_reads {s t : List Char}
    (h : '\n' ∉ s → Stops (fun c => c = '\n' || c = '\r') t) :
    ∃ x, Reads (maybe newline) (feed s) t x := by
  by_cases hmem : '\n' ∈ s
  · rw [feed, if_pos (List.contains_iff_mem.2 hmem)]
    exact ⟨_, .some (.left (.char _ _))⟩
  · rw [feed, if_neg (mt List.contains_iff_mem.1 hmem)]
    exact ⟨_, Refuses.none (newline_refuses (h hmem))⟩

/-- Text with escapes does not begin with a line end of its own. -/
theorem stops_escapeAll {s : List Char} (h : '\n' ∉ s) (t : List Char) :
    Stops (fun c => c = '\n' || c = '\r') (escapeAll true 2 0 s ++ '"' :: t) := by
  cases s with
  | nil => exact stops_cons.2 rfl
  | cons c s =>
    have hc : c ≠ '\n' := by
      rintro rfl
      exact h List.mem_cons_self
    rw [escapeAll]
    split
    next hquote => exact stops_cons.2 (by rw [hquote]; rfl)
    next hquote =>
      rw [if_neg (by simp [hc])]
      rcases escape_cases hquote with ⟨hself, hunescaped⟩ | ⟨d, u, hself, -, -⟩
      · rw [hself]
        have hreturn : c ≠ '\r' := ne_of_holds hunescaped rfl
        exact stops_cons.2 (by simp [hc, hreturn])
      · rw [hself]
        exact stops_cons.2 rfl

theorem lineFeed_reads {q : Char} {piece : Scan (List Char)} {rest : List Char} (hq : '\n' ≠ q)
    (hpiece : Refuses piece ('\n' :: rest)) :
    Reads (marks q <|> piece <|> lineFeed) ['\n'] rest ['\n'] := by
  have hmarks : Refuses (marks q) ('\n' :: rest) :=
    marks_refuses (n := 0) (.inl rfl) (by simpa using hq)
  exact .right hmarks (.right hpiece (.last (.left (.char _ _)) (.pure _ _)))

theorem basicLines_reads (s : List Char) {rest : List Char} (hrest : rest.head? ≠ some '"') :
    Reads basicLines ('"' :: '"' :: '"' :: (feed s ++ (escapeAll true 2 0 s ++ ['"', '"', '"'])))
      rest s := by
  refine lines_reads (p := isUnescaped) rfl (by decide) (fun c s hc => ?_) (fun s => ?_) ?_ hrest ?_
  · have hback : c ≠ '\\' := ne_of_holds hc rfl
    rw [orElse_apply, basicPiece_plain c s hc, show joined (c :: s) = none from
      Refuses.bind (.char (by simpa using hback))]
    rfl
  · exact .orElse (.bind (.char (by simp))) (basicPiece_refuses s)
  · refine spelled_escapeAll basicLines_escape (fun _ rest => ?_) 0 s
    have hjoined : Refuses joined ('\n' :: rest) := .bind (.char (by simp))
    have hpiece : Refuses basicPiece ('\n' :: rest) :=
      .orElse (.bind (.one (stops_cons.2 rfl))) (.bind (.char (by simp)))
    exact lineFeed_reads (by decide) (.orElse hjoined hpiece)
  · exact feed_reads fun h => stops_escapeAll h _

/-! Literal text. -/

def isLiteral (c : Char) : Bool := isPlain c && c ≠ '\''

def runStep (q : Char) (runs : Nat × Nat) (c : Char) : Nat × Nat :=
  if c = q then (max runs.1 (runs.2 + 1), runs.2 + 1) else (runs.1, 0)

theorem le_foldl_runStep (q : Char) (s : List Char) (runs : Nat × Nat) :
    runs.1 ≤ (s.foldl (runStep q) runs).1 := by
  induction s generalizing runs with
  | nil => exact Nat.le_refl _
  | cons c s ih =>
    refine Nat.le_trans ?_ (ih _)
    rw [runStep]
    split
    · exact Nat.le_max_left _ _
    · exact Nat.le_refl _

theorem lt_of_foldl_runStep {q : Char} {s : List Char} {best n limit : Nat}
    (h : ((q :: s).foldl (runStep q) (best, n)).1 ≤ limit) : n < limit := by
  rw [List.foldl_cons, runStep, if_pos rfl] at h
  have hbest := le_foldl_runStep q s (max best (n + 1), n + 1)
  exact Nat.le_trans (Nat.le_max_right best (n + 1)) (Nat.le_trans hbest h)

theorem spelled_literal {s : List Char} (hs : ∀ c ∈ s, isPlain c = true ∨ c = '\n')
    {best n : Nat} (hruns : (s.foldl (runStep '\'') (best, n)).1 ≤ 2) :
    Spelled (marks '\'' <|> run1 isLiteral <|> lineFeed) isLiteral '\'' 2 n s s := by
  induction s generalizing best n with
  | nil => exact .nil n
  | cons c s ih =>
    obtain ⟨hc, ht⟩ := List.forall_mem_cons.1 hs
    by_cases hmark : c = '\''
    · subst hmark
      exact .mark (lt_of_foldl_runStep hruns) (ih ht hruns)
    · rw [List.foldl_cons, runStep, if_neg hmark] at hruns
      rcases hc with hplain | rfl
      · exact .plain (by simp [isLiteral, hplain, hmark]) (ih ht hruns)
      · have hpiece (rest : List Char) : Refuses (run1 isLiteral) ('\n' :: rest) :=
          .bind (.one (stops_cons.2 rfl))
        exact .piece (u := []) (by decide) (fun rest => lineFeed_reads (by decide) (hpiece rest))
          (ih ht hruns)

theorem literalLines_reads {s : List Char} (hs : ∀ c ∈ s, isPlain c = true ∨ c = '\n')
    (hruns : longestRun '\'' s ≤ 2) {rest : List Char} (hrest : rest.head? ≠ some '\'') :
    Reads literalLines ('\'' :: '\'' :: '\'' :: (feed s ++ (s ++ ['\'', '\'', '\'']))) rest s := by
  refine lines_reads (p := isLiteral) rfl (by decide) (fun c t hc => ?_) (fun t => ?_)
    (spelled_literal hs hruns) hrest (feed_reads fun hfeed => ?_)
  · exact run1_cons hc t
  · exact .bind (.one (stops_cons.2 rfl))
  · cases s with
    | nil => exact stops_cons.2 rfl
    | cons c s =>
      have hc : c ≠ '\n' := by
        rintro rfl
        exact hfeed List.mem_cons_self
      have hreturn : c ≠ '\r' := by
        rintro rfl
        rcases hs _ List.mem_cons_self with h | h <;> cases h
      exact stops_cons.2 (by simp [hc, hreturn])

theorem not_mem_of_foldl_runStep {q : Char} {s : List Char} {runs : Nat × Nat}
    (h : (s.foldl (runStep q) runs).1 = 0) : q ∉ s := by
  induction s generalizing runs with
  | nil => exact List.not_mem_nil
  | cons c s ih =>
    have hne : q ≠ c := by
      rintro rfl
      exact absurd (lt_of_foldl_runStep (Nat.le_of_eq h)) (Nat.not_lt_zero _)
    rw [List.mem_cons, not_or]
    exact ⟨hne, ih h⟩

/-- A text that is kept apart from escapes holds nothing that needs one. -/
theorem plain_of_control {s : List Char} (h : (s.any fun c => !isPlain c && c ≠ '\n') = false) :
    ∀ c ∈ s, isPlain c = true ∨ c = '\n' := by
  intro c hc
  have hplain := List.any_eq_false.1 h c hc
  by_cases hnewline : c = '\n'
  · exact .inr hnewline
  · exact .inl (by simpa [hnewline] using hplain)

theorem of_choose_literal {s : List Char} (h : Quotes.choose s = .literal) :
    s ≠ [] ∧ ∀ c ∈ s, isLiteral c = true := by
  have hne : s ≠ [] := by
    rintro rfl
    cases h
  refine ⟨hne, fun c hc => ?_⟩
  revert h
  fun_cases Quotes.choose s with
  | case2 control _ newline _ single _ hchoose =>
    intro
    obtain ⟨⟨hcontrol, hsingle⟩, hnewline⟩ :
        (control = false ∧ single = 0) ∧ newline = false := by simpa using hchoose
    have hmark : c ≠ '\'' := by
      rintro rfl
      exact not_mem_of_foldl_runStep hsingle hc
    rcases plain_of_control hcontrol c hc with hplain | rfl
    · simp [isLiteral, hplain, hmark]
    · exact absurd (List.contains_iff_mem.2 hc) (Bool.not_eq_true _ ▸ hnewline)
  | _ => rintro ⟨⟩

theorem of_choose_literalLines {s : List Char} (h : Quotes.choose s = .literalLines) :
    (∀ c ∈ s, isPlain c = true ∨ c = '\n') ∧ longestRun '\'' s ≤ 2 := by
  revert h
  fun_cases Quotes.choose s with
  | case4 control _ newline _ single _ _ _ hchoose =>
    intro
    obtain ⟨hcontrol, hsingle⟩ : control = false ∧ single ≤ 2 := by simpa using hchoose
    exact ⟨plain_of_control hcontrol, hsingle⟩
  | _ => rintro ⟨⟩

theorem lines_refuses {q c : Char} {s : List Char} (piece : Scan (List Char)) (hc : c ≠ q) :
    Refuses (lines q piece) (c :: s) := .bind (.word (by simpa using hc))

theorem lines_refuses_mark {q : Char} {s : List Char} (piece : Scan (List Char))
    (h : s.head? ≠ some q ∨ ∃ t, s = q :: t ∧ t.head? ≠ some q) :
    Refuses (lines q piece) (q :: s) := by
  rcases h with h | ⟨t, rfl, h⟩
  · exact .bind (word_refuses [q] [q] h)
  · exact .bind (word_refuses [q, q] [] h)

theorem basic_refuses {c : Char} {s : List Char} (hc : c ≠ '"') : Refuses basic (c :: s) :=
  .bind (.char (by simpa using hc))

theorem head?_escapeAll (c : Char) (s t : List Char) :
    (escapeAll false 0 0 (c :: s) ++ t).head? ≠ some '"' := by
  rw [escapeAll]
  split
  · simp
  next hquote =>
    rw [if_neg (by simp)]
    rcases escape_cases hquote with ⟨hself, -⟩ | ⟨d, u, hself, -, -⟩
    · simpa [hself] using hquote
    · simp [hself]

/-- Whatever the form of a quoted text, the readers of other forms refuse it. -/
theorem quoted_reads (text : String) {rest : List Char} (hrest : Closes rest) :
    Reads quoted (quote text) rest text := by
  have hdouble : rest.head? ≠ some '"' := hrest.head?_ne (by decide)
  have hsingle : rest.head? ≠ some '\'' := hrest.head?_ne (by decide)
  have hread : Reads (basicLines <|> basic <|> literalLines <|> literal) (quote text) rest
      text.toList := by
    unfold quote
    generalize text.toList = s
    dsimp only
    cases hchoose : Quotes.choose s with
    | basicLines => simpa [feed] using Reads.left (basicLines_reads s hdouble)
    | basic =>
      -- Only an empty text begins with two marks, and what is behind it is no third one.
      have hmark : (escapeAll false 0 0 s ++ ['"'] ++ rest).head? ≠ some '"' ∨
          ∃ t, escapeAll false 0 0 s ++ ['"'] ++ rest = '"' :: t ∧ t.head? ≠ some '"' := by
        rw [List.append_assoc]
        cases s with
        | nil => exact .inr ⟨rest, rfl, hdouble⟩
        | cons c s => exact .inl (head?_escapeAll c s _)
      exact .right (lines_refuses_mark _ hmark) (.left (basic_reads s rest))
    | literalLines =>
      obtain ⟨hplain, hruns⟩ := of_choose_literalLines hchoose
      have hlines := literalLines_reads hplain hruns hsingle
      refine .right (lines_refuses _ (by decide)) (.right (basic_refuses (by decide)) (.left ?_))
      simpa [feed] using hlines
    | literal =>
      obtain ⟨hne, hliteral⟩ := of_choose_literal hchoose
      obtain ⟨c, s, rfl⟩ := List.exists_cons_of_ne_nil hne
      have hmark : c ≠ '\'' := ne_of_holds (hliteral c List.mem_cons_self) rfl
      refine .right (lines_refuses _ (by decide)) (.right (basic_refuses (by decide)) ?_)
      refine .right (lines_refuses_mark _ (.inl ?_)) (literal_reads hliteral rest)
      simpa using hmark
  have htext := hread.image String.ofList
  rwa [String.ofList_toList] at htext

end SoftFail.Toml
