import Mathlib.Tactic.SplitIfs
import SoftFail.Regex.Escape

/-! Reading in front of a closing parenthesis: what is read from a text is also read when the
parenthesis stands behind it, and the rest is the same but for the parenthesis. -/

namespace SoftFail.Regex

open Text

variable {α β γ : Type} {s s' r : List Char} {c : Char} {ignore : Bool}

theorem dropWhile_isBlank_append (s : List Char) :
    (s ++ [')']).dropWhile isBlank = s.dropWhile isBlank ++ [')'] := by
  have hblank : isBlank ')' = false := by decide
  rw [List.dropWhile_append]
  split
  next hnil =>
    rw [List.isEmpty_iff.1 hnil]
    exact List.dropWhile_cons_of_neg (by rw [hblank]; decide)
  next => rfl

def Closes (s s' : List Char) : Prop := s' = s ∨ s' = s ++ [')']

namespace Closes

theorem refl (s : List Char) : Closes s s := .inl rfl

theorem cons (c : Char) (h : Closes s s') : Closes (c :: s) (c :: s') :=
  h.imp (congrArg (c :: ·)) (congrArg (c :: ·))

theorem of_cons (h : Closes (c :: s) s') : ∃ t, s' = c :: t ∧ Closes s t := by
  rcases h with rfl | rfl
  · exact ⟨s, rfl, .refl s⟩
  · exact ⟨s ++ [')'], rfl, .inr rfl⟩

theorem length_le (h : Closes s s') : s.length ≤ s'.length := by
  rcases h with rfl | rfl <;> simp

theorem of_nil (h : Closes [] s') : s' = [] ∨ s' = [')'] := h

theorem split (h : Closes s s') {k : Char} (hk : k ≠ ')') :
    (∃ t t', s = k :: t ∧ s' = k :: t' ∧ Closes t t') ∨
      (∀ t, s ≠ k :: t) ∧ ∀ t, s' ≠ k :: t := by
  by_cases hs : ∃ t, s = k :: t
  · obtain ⟨t, rfl⟩ := hs
    obtain ⟨t', rfl, ht⟩ := h.of_cons
    exact .inl ⟨t, t', rfl, rfl, ht⟩
  · refine .inr ⟨fun t ht => hs ⟨t, ht⟩, fun t ht => ?_⟩
    rcases h with rfl | rfl
    · exact hs ⟨t, ht⟩
    · cases s with
      | nil => exact hk (List.cons.inj ht).1.symm
      | cons c s => exact hs ⟨s, by rw [(List.cons.inj ht).1]⟩

theorem cut (h : Closes s s') {k : Char} (hk : k ≠ ')') :
    s.dropWhile (· ≠ k) = [] ∧ s'.dropWhile (· ≠ k) = [] ∨
      Closes (s.dropWhile (· ≠ k)) (s'.dropWhile (· ≠ k)) ∧
        s'.takeWhile (· ≠ k) = s.takeWhile (· ≠ k) := by
  rcases h with rfl | rfl
  · exact .inr ⟨.refl _, rfl⟩
  · rw [List.dropWhile_append, List.takeWhile_append]
    by_cases hnil : s.dropWhile (· ≠ k) = []
    · rw [hnil]
      exact .inl ⟨rfl, by simp [hk.symm]⟩
    · have hlength : (s.takeWhile (· ≠ k)).length ≠ s.length := fun h => hnil (by
        have := congrArg List.length (List.takeWhile_append_dropWhile (p := (· ≠ k)) (l := s))
        rw [List.length_append] at this
        exact List.length_eq_zero_iff.1 (by omega))
      rw [if_neg hlength, if_neg (by rwa [List.isEmpty_iff])]
      exact .inr ⟨.inr rfl, rfl⟩

theorem dropWhile_isBlank (h : Closes s s') :
    Closes (s.dropWhile isBlank) (s'.dropWhile isBlank) := by
  rcases h with rfl | rfl
  · exact .refl _
  · exact .inr (dropWhile_isBlank_append s)

theorem dropPrefix? {p t : List Char} (h : Closes s s') (hs : dropPrefix? p s = some t) :
    ∃ t', Text.dropPrefix? p s' = some t' ∧ Closes t t' := by
  obtain rfl := dropPrefix?_eq_some_iff.1 hs
  rcases h with rfl | rfl
  · exact ⟨t, hs, .refl t⟩
  · exact ⟨t ++ [')'], dropPrefix?_eq_some_iff.2 (List.append_assoc ..), .inr rfl⟩

theorem dropPrefix?_eq_none {p : List Char} (h : Closes s s') (hp : ')' ∉ p)
    (hs : Text.dropPrefix? p s = none) : Text.dropPrefix? p s' = none := by
  rcases h with rfl | rfl
  · exact hs
  · induction p generalizing s with
    | nil => cases hs
    | cons a p ih =>
      rw [List.mem_cons, not_or] at hp
      cases s with
      | nil => exact if_neg (Ne.symm hp.1)
      | cons b s =>
        rw [List.cons_append, Text.dropPrefix?]
        rw [Text.dropPrefix?] at hs
        split at hs
        next hab => rw [if_pos hab, ih hp.2 hs]
        next hab => rw [if_neg hab]

theorem dropPrefix?_cases {p : List Char} (h : Closes s s') (hp : ')' ∉ p) :
    Text.dropPrefix? p s = none ∧ Text.dropPrefix? p s' = none ∨
      ∃ t t', Text.dropPrefix? p s = some t ∧ Text.dropPrefix? p s' = some t' ∧ Closes t t' := by
  cases hs : Text.dropPrefix? p s with
  | none => exact .inl ⟨rfl, h.dropPrefix?_eq_none hp hs⟩
  | some t =>
    obtain ⟨t', hs', ht⟩ := h.dropPrefix? hs
    exact .inr ⟨t, t', rfl, hs', ht⟩

theorem pastBlanks (h : Closes s s') (ignore : Bool) :
    Closes (pastBlanks ignore s) (Regex.pastBlanks ignore s') := by
  rcases h with rfl | rfl
  · exact .refl _
  · suffices hboth : Closes (Regex.pastBlanks ignore s) (Regex.pastBlanks ignore (s ++ [')'])) ∧
        Closes (pastBlanks.comment ignore s) (pastBlanks.comment ignore (s ++ [')'])) from hboth.1
    induction s with
    | nil =>
      have hblank : isBlank ')' = false := by decide
      cases ignore <;> simp [Regex.pastBlanks, pastBlanks.comment, Closes, hblank]
    | cons c s ih =>
      simp only [List.cons_append, Regex.pastBlanks, pastBlanks.comment]
      constructor
      · split_ifs
        · exact .inr rfl
        · exact ih.1
        · exact ih.2
        · exact .inr rfl
      · split_ifs
        · exact ih.1
        · exact ih.2

end Closes

theorem length_pastBlanks_le (ignore : Bool) (s : List Char) :
    (pastBlanks ignore s).length ≤ s.length := by
  suffices hboth : (pastBlanks ignore s).length ≤ s.length ∧
      (pastBlanks.comment ignore s).length ≤ s.length from hboth.1
  induction s with
  | nil => exact ⟨Nat.le_refl 0, Nat.le_refl 0⟩
  | cons c s ih =>
    rw [pastBlanks, pastBlanks.comment]
    constructor <;> split_ifs <;> simp only [List.length_cons] <;> omega

/-- What is read from a text is read from the other, and the rest of the one belongs to the rest of
the other. -/
def Agrees (x y : Option (α × List Char)) : Prop :=
  ∀ a r, x = some (a, r) → ∃ r', y = some (a, r') ∧ Closes r r'

namespace Agrees

variable {x y x' y' : Option (α × List Char)}

theorem none (y : Option (α × List Char)) : Agrees none y := nofun

theorem some (a : α) (hs : Closes s s') : Agrees (some (a, s)) (some (a, s')) := by
  rintro _ _ ⟨⟩
  exact ⟨s', rfl, hs⟩

theorem bind {f g : α × List Char → Option (β × List Char)} (h : Agrees x y)
    (hfg : ∀ a s s', Closes s s' → Agrees (f (a, s)) (g (a, s'))) :
    Agrees (x.bind f) (y.bind g) := by
  intro b r hb
  obtain ⟨⟨a, s⟩, hx, hf⟩ := Option.bind_eq_some_iff.1 hb
  obtain ⟨s', rfl, hs⟩ := h a s hx
  exact hfg a s s' hs b r hf

theorem bind_left {o : Option γ} {f g : γ → Option (β × List Char)}
    (hfg : ∀ c, Agrees (f c) (g c)) : Agrees (o.bind f) (o.bind g) := by
  cases o with
  | none => exact none _
  | some c => exact hfg c

theorem map (f : α → β) (h : Agrees x y) :
    Agrees (x.map fun (a, s) => (f a, s)) (y.map fun (a, s) => (f a, s)) := by
  intro b r hb
  obtain ⟨⟨a, s⟩, hx, hf⟩ := Option.map_eq_some_iff.1 hb
  obtain ⟨s', rfl, hs⟩ := h a s hx
  cases hf
  exact ⟨s', rfl, hs⟩

theorem ite {p : Prop} [Decidable p] (h : Agrees x y) (h' : Agrees x' y') :
    Agrees (if p then x else x') (if p then y else y') := by
  split_ifs
  · exact h
  · exact h'

end Agrees

/-! Escapes. -/

theorem hexDigits_agrees {count n : Nat} (hs : Closes s s') :
    Agrees (hexDigits ignore count n s) (hexDigits ignore count n s') := by
  induction count generalizing n s s' with
  | zero => exact .some n hs
  | succ count ih =>
    cases s with
    | nil => exact .none _
    | cons c s =>
      obtain ⟨t, rfl, ht⟩ := hs.of_cons
      exact .bind_left fun _ => ih (ht.pastBlanks ignore)

theorem braced_agrees {fuel fuel' : Nat} {done : List Char} (hfuel : fuel ≤ fuel')
    (hs : Closes s s') : Agrees (braced ignore fuel done s) (braced ignore fuel' done s') := by
  induction fuel generalizing fuel' done s s' with
  | zero => exact .none _
  | succ fuel ih =>
    obtain ⟨fuel', rfl⟩ : ∃ n, fuel' = n + 1 := ⟨fuel' - 1, by omega⟩
    have hpast := hs.pastBlanks ignore
    rw [braced, braced]
    cases ht : pastBlanks ignore s with
    | nil => exact .none _
    | cons c t =>
      rw [ht] at hpast
      obtain ⟨t', ht', hclose⟩ := hpast.of_cons
      rw [ht']
      exact .ite (.some _ hclose) (ih (by omega) hclose)

def plainHex (ignore : Bool) (letter : Char) (s : List Char) : Option (Literal × List Char) :=
  (hexDigits ignore (if letter = 'x' then 2 else if letter = 'u' then 4 else 8) 0 s).bind
    fun (n, s) => (scalar? n).bind fun m => some (⟨m, letter = 'x' && 0x80 ≤ n⟩, s)

theorem hexEscape_of_brace {letter : Char} {t : List Char} (h : pastBlanks ignore s = '\x7b' :: t) :
    hexEscape ignore letter s = (braced ignore (t.length + 1) [] t).bind fun (digits, u) =>
      if digits.isEmpty then none
      else (digits.foldlM (fun n c => (hexValue? c).map fun d => min (16 * n + d) 0x110000) 0).bind
        fun n => (scalar? n).bind fun m => some (⟨m, false⟩, pastBlanks ignore u) := by
  rw [hexEscape, h]
  rfl

theorem hexEscape_of_not_brace {letter : Char} (h : ∀ t, pastBlanks ignore s ≠ '\x7b' :: t) :
    hexEscape ignore letter s = plainHex ignore letter (pastBlanks ignore s) := by
  rw [hexEscape]
  split
  next ht => exact absurd ht (h _)
  rfl

theorem hexEscape_agrees {letter : Char} (hs : Closes s s') :
    Agrees (hexEscape ignore letter s) (hexEscape ignore letter s') := by
  have hpast := hs.pastBlanks ignore
  rcases hpast.split (k := '\x7b') (by decide) with ⟨t, t', ht, ht', hclose⟩ | ⟨hne, hne'⟩
  · rw [hexEscape_of_brace ht, hexEscape_of_brace ht']
    refine .bind (braced_agrees (Nat.succ_le_succ hclose.length_le) hclose) fun _ _ _ hu => ?_
    exact .ite (.none _) (.bind_left fun _ => .bind_left fun _ => .some _ (hu.pastBlanks ignore))
  · rw [hexEscape_of_not_brace hne, hexEscape_of_not_brace hne']
    exact .bind (hexDigits_agrees hpast) fun _ _ _ hu => .bind_left fun _ => .some _ hu

theorem propertyEscape_agrees (hs : Closes s s') :
    Agrees (propertyEscape ignore s) (propertyEscape ignore s') := by
  have hpast := hs.pastBlanks ignore
  rw [propertyEscape, propertyEscape]
  cases ht : pastBlanks ignore s with
  | nil => exact .none _
  | cons c t =>
    rw [ht] at hpast
    obtain ⟨t', ht', hclose⟩ := hpast.of_cons
    rw [ht']
    exact .ite (.map _ (braced_agrees (Nat.succ_le_succ hclose.length_le) hclose))
      (.ite (.none _) (.some _ (hclose.pastBlanks ignore)))

theorem boundaryLetters_nil {fuel fuel' : Nat} {done : List Char} (hs : Closes [] s') :
    (boundaryLetters ignore fuel' done s').1 = (boundaryLetters ignore fuel done []).1 ∧
      Closes (boundaryLetters ignore fuel done []).2 (boundaryLetters ignore fuel' done s').2 := by
  have hnil (n : Nat) : boundaryLetters ignore n done [] = (done.reverse, []) := by
    cases n <;> rfl
  have hstop (n : Nat) : boundaryLetters ignore n done [')'] = (done.reverse, [')']) := by
    cases n <;> rfl
  rcases hs.of_nil with rfl | rfl
  · rw [hnil, hnil]
    exact ⟨rfl, hs⟩
  · rw [hnil, hstop]
    exact ⟨rfl, hs⟩

theorem boundaryLetters_closes {fuel fuel' : Nat} {done : List Char} (hs : Closes s s')
    (hfuel : s.length ≤ fuel) (hfuel' : s'.length ≤ fuel') :
    (boundaryLetters ignore fuel' done s').1 = (boundaryLetters ignore fuel done s).1 ∧
      Closes (boundaryLetters ignore fuel done s).2 (boundaryLetters ignore fuel' done s').2 := by
  induction fuel generalizing fuel' done s s' with
  | zero =>
    obtain rfl : s = [] := List.length_eq_zero_iff.1 (by omega)
    exact boundaryLetters_nil hs
  | succ fuel ih =>
    cases s with
    | nil => exact boundaryLetters_nil hs
    | cons c s =>
      obtain ⟨t, rfl, ht⟩ := hs.of_cons
      rw [List.length_cons] at hfuel hfuel'
      obtain ⟨fuel', rfl⟩ : ∃ n, fuel' = n + 1 := ⟨fuel' - 1, by omega⟩
      rw [boundaryLetters, boundaryLetters]
      have hle := length_pastBlanks_le ignore s
      have hle' := length_pastBlanks_le ignore t
      split_ifs
      · exact ih (ht.pastBlanks ignore) (by omega) (by omega)
      · exact ⟨rfl, hs⟩

theorem boundaryKind_of_not_brace (h : ∀ t, s ≠ '\x7b' :: t) :
    boundaryKind ignore s = some (.wordBoundary, s) := by
  unfold boundaryKind
  split
  next t => exact absurd rfl (h t)
  next => rfl

def namedBoundary? : List Char × List Char → Option (Anchor × List Char)
  | (name, '\x7d' :: rest) =>
    if name = "start".toList then some (.wordStart, rest)
    else if name = "end".toList then some (.wordEnd, rest)
    else if name = "start-half".toList then some (.wordStartHalf, rest)
    else if name = "end-half".toList then some (.wordEndHalf, rest)
    else none
  | _ => none

theorem boundaryKind_of_brace {t : List Char} :
    boundaryKind ignore ('\x7b' :: t) =
      match pastBlanks ignore t with
      | [] => none
      | c :: u => if c.isAlpha || c = '-' then
          namedBoundary? (boundaryLetters ignore (u.length + 1) [] (c :: u))
        else some (.wordBoundary, '\x7b' :: t) := rfl

theorem namedBoundary?_agrees {x x' : List Char × List Char} (hname : x'.1 = x.1)
    (hs : Closes x.2 x'.2) : Agrees (namedBoundary? x) (namedBoundary? x') := by
  obtain ⟨name, s⟩ := x
  obtain ⟨_, s'⟩ := x'
  cases hname
  rcases hs.split (k := '\x7d') (by decide) with ⟨t, t', rfl, rfl, ht⟩ | ⟨hne, -⟩
  · exact .ite (.some _ ht) (.ite (.some _ ht) (.ite (.some _ ht) (.ite (.some _ ht) (.none _))))
  · unfold namedBoundary?
    split
    next heq => exact absurd (Prod.mk.inj heq).2 (hne _)
    next => exact .none _

theorem boundaryKind_agrees (hs : Closes s s') :
    Agrees (boundaryKind ignore s) (boundaryKind ignore s') := by
  rcases hs.split (k := '\x7b') (by decide) with ⟨t, t', rfl, rfl, hclose⟩ | ⟨hne, hne'⟩
  · rw [boundaryKind_of_brace, boundaryKind_of_brace]
    have hpast := hclose.pastBlanks ignore
    cases hu : pastBlanks ignore t with
    | nil => exact .none _
    | cons c u =>
      rw [hu] at hpast
      obtain ⟨u', hu', hclose'⟩ := hpast.of_cons
      rw [hu']
      obtain ⟨hname, hrest⟩ :=
        boundaryLetters_closes (hclose'.cons c) (Nat.le_refl _) (Nat.le_refl _)
      exact .ite (namedBoundary?_agrees hname hrest) (.some _ hs)
  · rw [boundaryKind_of_not_brace hne, boundaryKind_of_not_brace hne']
    exact .some _ hs

theorem escape_agrees (hs : Closes s s') :
    Agrees (escape ignore s) (escape ignore s') := by
  cases s with
  | nil => exact .none _
  | cons c s =>
    obtain ⟨t, rfl, ht⟩ := hs.of_cons
    refine .ite (.map _ (hexEscape_agrees ht)) (.ite
      (.map (fun name => Syntax.property name (c = 'P')) (propertyEscape_agrees ht))
      (.ite (.map _ (boundaryKind_agrees ht)) (.ite (.some _ ht) ?_)))
    cases perlEscape? c with
    | some p => exact .some _ ht
    | none =>
      cases controlEscape? c with
      | some n => exact .some _ ht
      | none =>
        cases anchorEscape? c with
        | some a => exact .some _ ht
        | none => exact .none _

theorem primitive_of_literal (h : c ∉ ['\\', '.', '^', '$']) :
    primitive ignore (c :: s) = some (.literal ⟨c.toNat, false⟩, s) := by
  unfold primitive
  split <;> simp_all

theorem primitive_agrees (hs : Closes s s') :
    Agrees (primitive ignore s) (primitive ignore s') := by
  cases s with
  | nil => exact .none _
  | cons c s =>
    obtain ⟨t, rfl, ht⟩ := hs.of_cons
    by_cases hc : c ∈ ['\\', '.', '^', '$']
    · simp only [List.mem_cons, List.not_mem_nil, or_false] at hc
      rcases hc with rfl | rfl | rfl | rfl
      · exact escape_agrees ht
      all_goals exact .some _ ht
    · rw [primitive_of_literal hc, primitive_of_literal hc]
      exact .some _ ht

end SoftFail.Regex
