import SoftFail.Proofs.Regex.Escape
import SoftFail.Regex.Bracket

/-! Classes in square brackets are read alike with a closing parenthesis behind them. -/

namespace SoftFail.Regex

open Text

variable {α : Type} {s s' r : List Char} {c : Char} {ignore : Bool}

theorem setPrimitive_of_literal (h : c ≠ '\\') :
    setPrimitive ignore (c :: s) = some (.literal ⟨c.toNat, false⟩, s) := by
  unfold setPrimitive
  split <;> simp_all

def setEscape : Syntax → Option SetSyntax
  | .literal l => some (.literal l)
  | .perl p negated => some (.perl p negated)
  | .property name negated => some (.property name negated)
  | _ => none

theorem setPrimitive_of_escape : setPrimitive ignore ('\\' :: s) =
    (escape ignore s).bind fun (e, t) => (setEscape e).bind fun x => some (x, t) := by
  rw [setPrimitive]
  rcases escape ignore s with _ | ⟨e, t⟩
  · rfl
  · cases e <;> rfl

theorem setPrimitive_agrees (hs : Closes s s') :
    Agrees (setPrimitive ignore s) (setPrimitive ignore s') := by
  cases s with
  | nil => exact .none _
  | cons c s =>
    obtain ⟨t, rfl, ht⟩ := hs.of_cons
    by_cases hc : c = '\\'
    · subst hc
      rw [setPrimitive_of_escape, setPrimitive_of_escape]
      exact .bind (escape_agrees ht) fun _ _ _ hu => .bind_left fun _ => .some _ hu
    · rw [setPrimitive_of_literal hc, setPrimitive_of_literal hc]
      exact .some _ ht

def pastSign (s : List Char) : List Char :=
  match s.dropWhile isBlank with
  | '#' :: t => t.dropWhile isBlank
  | t => t

theorem peekPast_eq (ignore : Bool) (s : List Char) : peekPast ignore s =
    if ignore then (pastSign s).head?.orElse fun _ => s.head? else s.head? := rfl

theorem pastSign_of_ne (hc : isBlank c = false) (hsign : c ≠ '#') : pastSign (c :: s) = c :: s := by
  rw [pastSign, List.dropWhile_cons_of_neg (by rw [hc]; decide)]
  split
  next heq => exact absurd (List.cons.inj heq).1 hsign
  rfl

theorem pastSign_append (s : List Char) : pastSign (s ++ [')']) = pastSign s ++ [')'] := by
  rw [pastSign, pastSign, dropWhile_isBlank_append]
  rcases s.dropWhile isBlank with _ | ⟨c, t⟩
  · rfl
  · by_cases hc : c = '#'
    · subst hc
      exact dropWhile_isBlank_append t
    · rw [List.cons_append]
      split
      next heq => exact absurd (List.cons.inj heq).1 hc
      split
      next heq => exact absurd (List.cons.inj heq).1 hc
      rfl

/-- A parenthesis is not mistaken for what would end a range. -/
theorem peekPast_closes (hs : Closes s s') {k : Char} (hk : k = ']' ∨ k = '-') :
    peekPast ignore s' = some k ↔ peekPast ignore s = some k := by
  have hblank : isBlank k = false ∧ k ≠ '#' ∧ k ≠ ')' := by
    rcases hk with rfl | rfl <;> decide
  have hhead (t : List Char) : (t ++ [')']).head? = some k ↔ t.head? = some k := by
    cases t with
    | nil => simpa using Ne.symm hblank.2.2
    | cons => rfl
  rcases hs with rfl | rfl
  · rfl
  · rw [peekPast_eq, peekPast_eq, pastSign_append]
    cases ignore with
    | false => exact hhead s
    | true =>
      cases hpast : pastSign s with
      | cons c t => rfl
      | nil =>
        -- Had the text begun with `k`, it would still do so.
        have hs : s.head? ≠ some k := fun h => by
          obtain ⟨t, rfl⟩ := List.head?_eq_some_iff.1 h
          rw [pastSign_of_ne hblank.1 hblank.2.1] at hpast
          cases hpast
        exact ⟨fun h => absurd (Option.some.inj h).symm hblank.2.2, fun h => absurd h hs⟩

theorem setItem_agrees (hs : Closes s s') :
    Agrees (setItem ignore s) (setItem ignore s') := by
  refine .bind (setPrimitive_agrees hs) fun low t t' ht => ?_
  have hpast := ht.pastBlanks ignore
  dsimp only
  cases hu : pastBlanks ignore t with
  | nil => exact .none _
  | cons c u =>
    rw [hu] at hpast
    obtain ⟨u', hu', hclose⟩ := hpast.of_cons
    rw [hu']
    simp only [peekPast_closes hclose (.inl rfl), peekPast_closes hclose (.inr rfl)]
    refine .ite (.some _ (hclose.cons c)) (.bind (setPrimitive_agrees (hclose.pastBlanks ignore))
      fun high _ _ hv => ?_)
    cases low <;> cases high <;> first | exact .none _ | exact .ite (.some _ hv) (.none _)

def namedClass? (negated : Bool) (s : List Char) : Option (SetSyntax × List Char) :=
  (dropPrefix? [':', ']'] (s.dropWhile (· ≠ ':'))).bind fun rest =>
    (asciiClasses.lookup (String.ofList (s.takeWhile (· ≠ ':')))).bind fun rs =>
      some (.ascii rs negated, rest)

/-- Something is read from both texts or from neither. -/
def Parallel (x y : Option (α × List Char)) : Prop :=
  x = none ∧ y = none ∨ ∃ a r r', x = some (a, r) ∧ y = some (a, r') ∧ Closes r r'

theorem namedClass?_parallel (negated : Bool) (hs : Closes s s') :
    Parallel (namedClass? negated s) (namedClass? negated s') := by
  have hdrop : dropPrefix? [':', ']'] (s.dropWhile (· ≠ ':')) = none ∧
      dropPrefix? [':', ']'] (s'.dropWhile (· ≠ ':')) = none ∨
      ∃ r r', dropPrefix? [':', ']'] (s.dropWhile (· ≠ ':')) = some r ∧
        dropPrefix? [':', ']'] (s'.dropWhile (· ≠ ':')) = some r' ∧ Closes r r' ∧
        s'.takeWhile (· ≠ ':') = s.takeWhile (· ≠ ':') := by
    rcases hs.cut (k := ':') (by decide) with ⟨h, h'⟩ | ⟨hclose, htake⟩
    · rw [h, h']
      exact .inl ⟨rfl, rfl⟩
    · refine (hclose.dropPrefix?_cases (by decide)).imp_right ?_
      rintro ⟨r, r', h, h', hr⟩
      exact ⟨r, r', h, h', hr, htake⟩
  rw [namedClass?, namedClass?]
  rcases hdrop with ⟨h, h'⟩ | ⟨r, r', h, h', hr, htake⟩
  · rw [h, h']
    exact .inl ⟨rfl, rfl⟩
  · rw [h, h', htake]
    cases asciiClasses.lookup (String.ofList (s.takeWhile (· ≠ ':'))) with
    | none => exact .inl ⟨rfl, rfl⟩
    | some rs => exact .inr ⟨_, _, _, rfl, rfl, hr⟩

theorem asciiClass?_of_negated : asciiClass? (':' :: '^' :: s) = namedClass? true s := rfl

theorem asciiClass?_of_colon (h : ∀ t, s ≠ '^' :: t) :
    asciiClass? (':' :: s) = namedClass? false s := by
  have hcolon : dropPrefix? [':'] (':' :: s) = some s := rfl
  rw [asciiClass?, hcolon]
  simp only [Option.bind_eq_bind, Option.bind_some]
  rfl

theorem asciiClass?_of_not_colon (h : ∀ t, s ≠ ':' :: t) : asciiClass? s = none := by
  have hcolon : dropPrefix? [':'] s = none := Option.eq_none_iff_forall_ne_some.2 fun t ht =>
    h t (dropPrefix?_eq_some_iff.1 ht)
  rw [asciiClass?, hcolon]
  rfl

theorem asciiClass?_parallel (hs : Closes s s') : Parallel (asciiClass? s) (asciiClass? s') := by
  rcases hs.split (k := ':') (by decide) with ⟨t, t', rfl, rfl, ht⟩ | ⟨hne, hne'⟩
  · rcases ht.split (k := '^') (by decide) with ⟨u, u', rfl, rfl, hu⟩ | ⟨hne, hne'⟩
    · rw [asciiClass?_of_negated, asciiClass?_of_negated]
      exact namedClass?_parallel true hu
    · rw [asciiClass?_of_colon hne, asciiClass?_of_colon hne']
      exact namedClass?_parallel false ht
  · exact .inl ⟨asciiClass?_of_not_colon hne, asciiClass?_of_not_colon hne'⟩

theorem leadingDashes_of_not_dash {fuel : Nat} {items : List (Tall SetSyntax)}
    (h : ∀ t, s ≠ '-' :: t) : leadingDashes ignore fuel items s = (items, s) := by
  cases fuel with
  | zero => rfl
  | succ fuel =>
    rw [leadingDashes]
    exact h

theorem leadingDashes_closes (ignore : Bool) {fuel fuel' : Nat} (items : List (Tall SetSyntax))
    (hs : Closes s s') (hfuel : s.length ≤ fuel) (hfuel' : s'.length ≤ fuel') :
    (leadingDashes ignore fuel' items s').1 = (leadingDashes ignore fuel items s).1 ∧
      Closes (leadingDashes ignore fuel items s).2 (leadingDashes ignore fuel' items s').2 := by
  induction fuel generalizing fuel' items s s' with
  | zero =>
    rcases hs.split (k := '-') (by decide) with ⟨t, t', rfl, rfl, ht⟩ | ⟨hne, hne'⟩
    · cases hfuel
    · rw [leadingDashes_of_not_dash hne, leadingDashes_of_not_dash hne']
      exact ⟨rfl, hs⟩
  | succ fuel ih =>
    rcases hs.split (k := '-') (by decide) with ⟨t, t', rfl, rfl, ht⟩ | ⟨hne, hne'⟩
    · rw [List.length_cons] at hfuel hfuel'
      obtain ⟨fuel', rfl⟩ : ∃ n, fuel' = n + 1 := ⟨fuel' - 1, by omega⟩
      have hle := length_pastBlanks_le ignore t
      have hle' := length_pastBlanks_le ignore t'
      exact ih _ (ht.pastBlanks ignore) (by omega) (by omega)
    · rw [leadingDashes_of_not_dash hne, leadingDashes_of_not_dash hne']
      exact ⟨rfl, hs⟩

def firstItems (ignore : Bool) (s : List Char) : List (Tall SetSyntax) × List Char :=
  match leadingDashes ignore s.length [] s with
  | ([], ']' :: t) => ([literalItem ']'], pastBlanks ignore t)
  | r => r

theorem firstItems_closes (hs : Closes s s') :
    (firstItems ignore s').1 = (firstItems ignore s).1 ∧
      Closes (firstItems ignore s).2 (firstItems ignore s').2 := by
  obtain ⟨hitems, hrest⟩ := leadingDashes_closes ignore [] hs
    (Nat.le_refl _) (Nat.le_refl _)
  unfold firstItems
  generalize leadingDashes ignore s.length [] s = x at *
  generalize leadingDashes ignore s'.length [] s' = x' at *
  obtain ⟨items, t⟩ := x
  obtain ⟨_, t'⟩ := x'
  cases hitems
  cases items with
  | cons => exact ⟨rfl, hrest⟩
  | nil =>
    rcases hrest.split (k := ']') (by decide) with ⟨u, u', hu, hu', hclose⟩ | ⟨hne, hne'⟩
    · cases hu
      cases hu'
      exact ⟨rfl, hclose.pastBlanks ignore⟩
    · split
      next heq => exact absurd (Prod.mk.inj heq).2 (hne' _)
      split
      next heq => exact absurd (Prod.mk.inj heq).2 (hne _)
      exact ⟨rfl, hrest⟩

theorem opening_of_negated {t : List Char} (h : pastBlanks ignore s = '^' :: t) :
    opening ignore s = (true, firstItems ignore (pastBlanks ignore t)) := by
  grind [opening, firstItems]

theorem opening_of_not_negated (h : ∀ t, pastBlanks ignore s ≠ '^' :: t) :
    opening ignore s = (false, firstItems ignore (pastBlanks ignore s)) := by
  grind [opening, firstItems]

theorem opening_closes (ignore : Bool) (hs : Closes s s') :
    (opening ignore s').1 = (opening ignore s).1 ∧
      (opening ignore s').2.1 = (opening ignore s).2.1 ∧
        Closes (opening ignore s).2.2 (opening ignore s').2.2 := by
  have hpast := hs.pastBlanks ignore
  rcases hpast.split (k := '^') (by decide) with ⟨t, t', ht, ht', hclose⟩ | ⟨hne, hne'⟩
  · rw [opening_of_negated ht, opening_of_negated ht']
    exact ⟨rfl, firstItems_closes (hclose.pastBlanks ignore)⟩
  · rw [opening_of_not_negated hne, opening_of_not_negated hne']
    exact ⟨rfl, firstItems_closes hpast⟩

def SetOperator.sign : SetOperator → Char
  | .inter => '&'
  | .diff => '-'
  | .symmDiff => '~'

variable {fuel fuel' : Nat} {stack : List SetFrame} {items : List (Tall SetSyntax)} {t : List Char}

theorem bracketFrom_open (h : pastBlanks ignore s = '[' :: t) :
    bracketFrom ignore (fuel + 1) stack items s =
      match asciiClass? t with
      | some (item, u) => bracketFrom ignore fuel stack (.leaf item :: items) u
      | none => bracketFrom ignore fuel (.bracket items (opening ignore t).1 :: stack)
          (opening ignore t).2.1 (opening ignore t).2.2 := by
  rw [bracketFrom, h]
  rfl

def afterClass (ignore : Bool) (fuel : Nat) (s : List Char) :
    Tall SetSyntax × List SetFrame → Option (Tall Syntax × List Char)
  | (inner, [.bracket _ negated]) =>
    (Tall.over (.bracket negated inner.node) [inner.height]).bind fun e => some (e, s)
  | (inner, .bracket around negated :: stack) =>
    (Tall.over (.bracket negated inner.node) [inner.height]).bind fun item =>
      bracketFrom ignore fuel stack (item :: around) s
  | _ => none

theorem bracketFrom_close (h : pastBlanks ignore s = ']' :: t) :
    bracketFrom ignore (fuel + 1) stack items s =
      (closeOperation stack items).bind (afterClass ignore fuel t) := by
  rw [bracketFrom, h]
  rcases closeOperation stack items with _ | ⟨inner, _ | ⟨_ | _, _ | _⟩⟩ <;> rfl

theorem bracketFrom_operation (op : SetOperator)
    (h : pastBlanks ignore s = op.sign :: op.sign :: t) :
    bracketFrom ignore (fuel + 1) stack items s =
      (closeOperation stack items).bind fun (first, stack) =>
        bracketFrom ignore fuel (.operation op first :: stack) [] t := by
  rw [bracketFrom, h]
  cases op <;> rfl

theorem bracketFrom_item (hopen : ∀ t, pastBlanks ignore s ≠ '[' :: t)
    (hclose : ∀ t, pastBlanks ignore s ≠ ']' :: t)
    (hop : ∀ op : SetOperator, dropPrefix? [op.sign, op.sign] (pastBlanks ignore s) = none) :
    bracketFrom ignore (fuel + 1) stack items s =
      (setItem ignore (pastBlanks ignore s)).bind fun (item, u) =>
        bracketFrom ignore fuel stack (.leaf item :: items) u := by
  have hne (op : SetOperator) (u : List Char) : pastBlanks ignore s ≠ op.sign :: op.sign :: u :=
    fun h => by
      have hsome := dropPrefix?_eq_some_iff (p := [op.sign, op.sign]) (r := u).2 h
      rw [hop op] at hsome
      cases hsome
  rw [bracketFrom]
  split
  next h =>
    rw [h]
    rfl
  next h => exact absurd h (hopen _)
  next h => exact absurd h (hclose _)
  next h => exact absurd h (hne .inter _)
  next h => exact absurd h (hne .diff _)
  next h => exact absurd h (hne .symmDiff _)
  next => rfl

theorem bracketFrom_agrees (hfuel : fuel ≤ fuel') (hs : Closes s s') :
    Agrees (bracketFrom ignore fuel stack items s) (bracketFrom ignore fuel' stack items s') := by
  induction fuel generalizing fuel' stack items s s' with
  | zero => exact .none _
  | succ fuel ih =>
    obtain ⟨fuel', rfl⟩ : ∃ n, fuel' = n + 1 := ⟨fuel' - 1, by omega⟩
    have hle : fuel ≤ fuel' := by omega
    have hpast := hs.pastBlanks ignore
    rcases hpast.split (k := '[') (by decide) with ⟨t, t', ht, ht', hclose⟩ | ⟨hopen, hopen'⟩
    · rw [bracketFrom_open ht, bracketFrom_open ht']
      rcases asciiClass?_parallel hclose with ⟨h, h'⟩ | ⟨x, r, r', h, h', hr⟩
      · rw [h, h']
        obtain ⟨hneg, hitems, hrest⟩ := opening_closes ignore hclose
        rw [hneg, hitems]
        exact ih hle hrest
      · rw [h, h']
        exact ih hle hr
    rcases hpast.split (k := ']') (by decide) with ⟨t, t', ht, ht', hclose⟩ | ⟨hend, hend'⟩
    · rw [bracketFrom_close ht, bracketFrom_close ht']
      refine .bind_left fun (inner, stack) => ?_
      rcases stack with _ | ⟨_ | _, _ | _⟩
      · exact .none _
      · exact .bind_left fun _ => .some _ hclose
      · exact .bind_left fun _ => ih hle hclose
      all_goals exact .none _
    by_cases hop : ∃ (op : SetOperator) (t : List Char),
        dropPrefix? [op.sign, op.sign] (pastBlanks ignore s) = some t
    · obtain ⟨op, t, ht⟩ := hop
      obtain ⟨t', ht', hclose⟩ := hpast.dropPrefix? ht
      rw [bracketFrom_operation op (dropPrefix?_eq_some_iff.1 ht),
        bracketFrom_operation op (dropPrefix?_eq_some_iff.1 ht')]
      exact .bind_left fun _ => ih hle hclose
    · have hnone (op : SetOperator) : dropPrefix? [op.sign, op.sign] (pastBlanks ignore s) = none :=
        Option.eq_none_iff_forall_ne_some.2 fun t ht => hop ⟨op, t, ht⟩
      rw [bracketFrom_item hopen hend hnone, bracketFrom_item hopen' hend' fun op =>
        hpast.dropPrefix?_eq_none (by cases op <;> decide) (hnone op)]
      exact .bind (setItem_agrees hpast) fun _ _ _ hu => ih hle hu

theorem bracket_agrees (hs : Closes s s') : Agrees (bracket ignore s) (bracket ignore s') := by
  obtain ⟨hneg, hitems, hrest⟩ := opening_closes ignore hs
  have heq (u : List Char) : bracket ignore u = bracketFrom ignore (u.length + 1)
      [.bracket [] (opening ignore u).1] (opening ignore u).2.1 (opening ignore u).2.2 := rfl
  rw [heq, heq, hneg, hitems]
  exact bracketFrom_agrees (Nat.succ_le_succ hs.length_le) hrest

end SoftFail.Regex
