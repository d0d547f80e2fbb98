import SoftFail.Proofs.Regex.Bracket
import SoftFail.Proofs.Regex.Meaning
import SoftFail.Regex.Parser

/-! Reading an expression in a group: what is read without the group is read inside it, with all
groups counted from one more. -/

namespace SoftFail.Regex

open Text

/-! Syntax and states, with one more group around them. -/

def Tall.renumbered (e : Tall Syntax) : Tall Syntax := ⟨e.node.renumbered, e.height⟩

theorem Tall.over_renumbered (e : Syntax) (heights : List Nat) :
    Tall.over e.renumbered heights = (Tall.over e heights).map Tall.renumbered := by
  rw [Tall.over, Tall.over]
  split_ifs <;> rfl

theorem Syntax.ofConcat_renumbered (es : List (Tall Syntax)) :
    Syntax.ofConcat (es.map Tall.renumbered) = (Syntax.ofConcat es).map Tall.renumbered := by
  obtain _ | ⟨e, _ | ⟨e', es⟩⟩ := es
  · simp [ofConcat, Tall.leaf, Tall.renumbered, renumbered]
  · rfl
  · rw [List.map_cons, List.map_cons, ofConcat, ofConcat, ← Tall.over_renumbered, renumbered,
      allRenumbered_eq_map]
    · simp [Tall.renumbered, Function.comp_def]
    all_goals nofun

theorem Syntax.ofBranches_renumbered (es : List (Tall Syntax)) :
    Syntax.ofBranches (es.map Tall.renumbered) = (Syntax.ofBranches es).map Tall.renumbered := by
  obtain _ | ⟨e, _ | ⟨e', es⟩⟩ := es
  · rw [List.map_nil, ofBranches, ← Tall.over_renumbered, renumbered, allRenumbered_eq_map]
    · rfl
    · nofun
  · rfl
  · rw [List.map_cons, List.map_cons, ofBranches, ofBranches, ← Tall.over_renumbered, renumbered,
      allRenumbered_eq_map]
    · simp [Tall.renumbered, Function.comp_def]
    all_goals nofun

def GroupKind.renumbered : GroupKind → GroupKind
  | .capture i => .capture (i + 1)
  | .plain fs => .plain fs

def Frame.renumbered (f : Frame) : Frame :=
  ⟨f.kind.renumbered, f.items.map .renumbered, f.branches.map .renumbered, f.ignore⟩

namespace State

variable {st st' : State}

/-- The state when a group was opened before anything was read. -/
def inGroup (st : State) : State where
  stack := st.stack.map .renumbered ++ [⟨.capture 1, [], [], false⟩]
  items := st.items.map .renumbered
  branches := st.branches.map .renumbered
  ignore := st.ignore
  captures := st.captures + 1
  names := st.names

theorem push_inGroup (st : State) (e : Tall Syntax) :
    (st.push e).inGroup = st.inGroup.push e.renumbered := rfl

theorem whole_inGroup (st : State) : st.inGroup.whole = st.whole.map Tall.renumbered := by
  simp only [whole, inGroup, Option.bind_eq_bind, ← List.map_reverse, Syntax.ofConcat_renumbered]
  rcases Syntax.ofConcat st.items.reverse with _ | e
  · rfl
  · simp only [Option.map_some, Option.bind_some, ← List.map_cons, ← List.map_reverse,
      Syntax.ofBranches_renumbered]

theorem branch_inGroup (st : State) : st.inGroup.branch = st.branch.map inGroup := by
  simp only [branch, inGroup, Option.bind_eq_bind, ← List.map_reverse, Syntax.ofConcat_renumbered]
  rcases Syntax.ofConcat st.items.reverse with _ | e <;> rfl

theorem closeGroup_inGroup (h : st.closeGroup = some st') :
    st.inGroup.closeGroup = some st'.inGroup := by
  rw [closeGroup] at h ⊢
  cases hstack : st.stack with
  | nil =>
    rw [hstack] at h
    cases h
  | cons f stack =>
    have hstack' : st.inGroup.stack =
        f.renumbered :: (stack.map .renumbered ++ [⟨.capture 1, [], [], false⟩]) := by
      rw [inGroup, hstack]
      rfl
    rw [hstack] at h
    rw [hstack', whole_inGroup]
    obtain ⟨e, he, h⟩ := Option.bind_eq_some_iff.1 h
    obtain ⟨group, hgroup, h⟩ := Option.bind_eq_some_iff.1 h
    cases h
    have hover {node : Syntax} (h : Tall.over node [e.height] = some group) :
        Tall.over node.renumbered [e.renumbered.height] = some group.renumbered := by
      rw [Tall.renumbered, Tall.over_renumbered, h]
      rfl
    obtain ⟨kind, items, branches, ignore⟩ := f
    rw [he]
    refine Option.bind_eq_some_iff.2 ⟨e.renumbered, rfl, ?_⟩
    refine Option.bind_eq_some_iff.2 ⟨group.renumbered, ?_, rfl⟩
    cases kind with
    | capture i | plain fs => exact hover hgroup

/-- One more group may be one too many. -/
theorem openGroup_inGroup {kind : GroupKind} {ignore : Bool}
    (h : st.openGroup kind ignore = some st') :
    st.inGroup.openGroup kind.renumbered ignore = none ∨
      st.inGroup.openGroup kind.renumbered ignore = some st'.inGroup := by
  rw [openGroup] at h ⊢
  split_ifs at h ⊢
  · cases h
    exact .inr rfl
  · exact .inl rfl

theorem openCapture_inGroup (h : st.openCapture = some st') :
    st.inGroup.openCapture = none ∨ st.inGroup.openCapture = some st'.inGroup :=
  openGroup_inGroup h

theorem repeatLast_inGroup {min : Nat} {max : Option Nat} {greedy : Bool}
    (h : st.repeatLast min max greedy = some st') :
    st.inGroup.repeatLast min max greedy = some st'.inGroup := by
  rw [repeatLast] at h ⊢
  cases hitems : st.items with
  | nil =>
    rw [hitems] at h
    cases h
  | cons e items =>
    have hitems' : st.inGroup.items = e.renumbered :: items.map .renumbered := by
      rw [inGroup, hitems]
      rfl
    rw [hitems] at h
    rw [hitems']
    obtain ⟨node, height⟩ := e
    cases node with
    | empty | setFlags => cases h
    | _ =>
      obtain ⟨again, hagain, h⟩ := Option.bind_eq_some_iff.1 h
      cases h
      refine Option.bind_eq_some_iff.2 ⟨again.renumbered, ?_, rfl⟩
      exact (Tall.over_renumbered _ [height]).trans (congrArg (Option.map Tall.renumbered) hagain)

end State

/-! Readers of groups and repetitions. -/

variable {s s' r : List Char} {ignore : Bool}

theorem readFlags_agrees {done : FlagSetting} {off dash : Bool} (hs : Closes s s') :
    Agrees (readFlags done off dash s) (readFlags done off dash s') := by
  induction s generalizing done off dash s' with
  | nil => exact .none _
  | cons c s ih =>
    obtain ⟨t, rfl, ht⟩ := hs.of_cons
    exact .ite (.ite (.none _) (.some _ hs)) (.ite (.ite (.none _) (ih ht))
      (.bind_left fun _ => .ite (.none _) (ih ht)))

theorem readFlags_ne_nil {fs done : FlagSetting} {off dash : Bool}
    (h : readFlags done off dash s = some (fs, r)) : r ≠ [] := by
  induction s generalizing done off dash with
  | nil => cases h
  | cons c s ih =>
    rw [readFlags] at h
    split_ifs at h
    · cases h
      nofun
    · exact ih h
    · obtain ⟨f, -, h⟩ := Option.bind_eq_some_iff.1 h
      split_ifs at h
      exact ih h

theorem readName_agrees (hs : Closes s s') : Agrees (readName s) (readName s') := by
  rw [readName, readName]
  rcases hs.cut (k := '>') (by decide) with ⟨h, h'⟩ | ⟨hclose, hname⟩
  · rw [h, h']
    exact .none _
  · rw [hname]
    rcases hrest : s.dropWhile (· ≠ '>') with _ | ⟨c, t⟩
    · exact .none _
    · rw [hrest] at hclose
      obtain ⟨t', ht', ht⟩ := hclose.of_cons
      rw [ht']
      rcases s.takeWhile (· ≠ '>') with _ | ⟨c, cs⟩
      · exact .none _
      · exact .ite (.some _ ht) (.none _)

theorem lazyMark_closes (hs : Closes s s') :
    (lazyMark s').1 = (lazyMark s).1 ∧ Closes (lazyMark s).2 (lazyMark s').2 := by
  have hplain {s : List Char} (h : ∀ t, s ≠ '?' :: t) : lazyMark s = (true, s) := by
    unfold lazyMark
    split
    next t => exact absurd rfl (h t)
    rfl
  rcases hs.split (k := '?') (by decide) with ⟨t, t', rfl, rfl, ht⟩ | ⟨hne, hne'⟩
  · exact ⟨rfl, ht⟩
  · rw [hplain hne, hplain hne']
    exact ⟨rfl, hs⟩

theorem trailing_nil {fuel fuel' : Nat} (hs : Closes [] s') :
    Closes (readCount.trailing ignore fuel []) (readCount.trailing ignore fuel' s') := by
  have hnil (n : Nat) : readCount.trailing ignore n [] = [] := by cases n <;> rfl
  have hclosed (n : Nat) : readCount.trailing ignore n [')'] = [')'] := by cases n <;> rfl
  rcases hs.of_nil with rfl | rfl
  · rw [hnil, hnil]
    exact hs
  · rw [hnil, hclosed]
    exact hs

theorem trailing_closes {fuel fuel' : Nat} (hs : Closes s s') (hfuel : s.length ≤ fuel)
    (hfuel' : s'.length ≤ fuel') :
    Closes (readCount.trailing ignore fuel s) (readCount.trailing ignore fuel' s') := by
  induction fuel generalizing fuel' s s' with
  | zero =>
    obtain rfl : s = [] := List.length_eq_zero_iff.1 (by omega)
    exact trailing_nil hs
  | succ fuel ih =>
    cases s with
    | nil => exact trailing_nil hs
    | cons c s =>
      obtain ⟨t, rfl, ht⟩ := hs.of_cons
      rw [List.length_cons] at hfuel hfuel'
      obtain ⟨fuel', rfl⟩ : ∃ n, fuel' = n + 1 := ⟨fuel' - 1, by omega⟩
      have hle := length_pastBlanks_le ignore s
      have hle' := length_pastBlanks_le ignore t
      rw [readCount.trailing, readCount.trailing]
      split_ifs
      · exact ih (ht.pastBlanks ignore) (by omega) (by omega)
      · exact hs

theorem finish_agrees {n : Option Nat} (hs : Closes s s') :
    Agrees (readCount.finish ignore n s) (readCount.finish ignore n s') :=
  .bind_left fun _ => .ite
    (.some _ (trailing_closes hs (Nat.le_succ _) (Nat.le_succ _))) (.none _)

theorem go_agrees {fuel fuel' : Nat} {n : Option Nat} (hfuel : fuel ≤ fuel') (hs : Closes s s') :
    Agrees (readCount.go ignore fuel n s) (readCount.go ignore fuel' n s') := by
  induction fuel generalizing fuel' n s s' with
  | zero => exact .none _
  | succ fuel ih =>
    obtain ⟨fuel', rfl⟩ : ∃ n, fuel' = n + 1 := ⟨fuel' - 1, by omega⟩
    cases s with
    | nil => rcases hs.of_nil with rfl | rfl <;> exact finish_agrees hs
    | cons c s =>
      obtain ⟨t, rfl, ht⟩ := hs.of_cons
      exact .ite (ih (by omega) (ht.pastBlanks ignore)) (finish_agrees hs)

theorem readCount_agrees (hs : Closes s s') :
    Agrees (readCount ignore s) (readCount ignore s') :=
  go_agrees (Nat.succ_le_succ hs.length_le) hs.dropWhile_isBlank

def upperCount (ignore : Bool) (min : Nat) (s : List Char) : Option (Option Nat × List Char) :=
  match s with
  | ',' :: s =>
    match pastBlanks ignore s with
    | '\x7d' :: s => some (none, '\x7d' :: s)
    | s => (readCount ignore s).map fun (n, s) => (some n, s)
  | s => some (some min, s)

theorem readCounts_eq (ignore : Bool) (s : List Char) : readCounts ignore s =
    (readCount ignore (pastBlanks ignore s)).bind fun (min, s) =>
      (upperCount ignore min s).bind fun (max, s) =>
        (dropPrefix? ['\x7d'] s).bind fun s =>
          if max.any (· < min) then none
          else some (min, max, lazyMark (pastBlanks ignore s)) := by
  rw [readCounts]
  rcases readCount ignore (pastBlanks ignore s) with _ | ⟨min, t⟩
  · rfl
  simp only [Option.bind_eq_bind, Option.bind_some]
  grind [upperCount, lazyMark]

theorem upperCount_of_not_comma {min : Nat} (h : ∀ t, s ≠ ',' :: t) :
    upperCount ignore min s = some (some min, s) := by
  unfold upperCount
  split
  next t => exact absurd rfl (h t)
  rfl

theorem upperCount_of_brace {min : Nat} {t : List Char} (h : pastBlanks ignore s = '\x7d' :: t) :
    upperCount ignore min (',' :: s) = some (none, '\x7d' :: t) := by
  simp only [upperCount, h]

theorem upperCount_of_not_brace {min : Nat} (h : ∀ t, pastBlanks ignore s ≠ '\x7d' :: t) :
    upperCount ignore min (',' :: s) =
      (readCount ignore (pastBlanks ignore s)).map fun (n, s) => (some n, s) := by
  simp only [upperCount]

theorem upperCount_agrees {min : Nat} (hs : Closes s s') :
    Agrees (upperCount ignore min s) (upperCount ignore min s') := by
  rcases hs.split (k := ',') (by decide) with ⟨t, t', rfl, rfl, ht⟩ | ⟨hne, hne'⟩
  · have hpast := ht.pastBlanks ignore
    rcases hpast.split (k := '\x7d') (by decide) with ⟨u, u', hu, hu', hclose⟩ | ⟨hne, hne'⟩
    · rw [upperCount_of_brace hu, upperCount_of_brace hu']
      exact .some _ (hclose.cons _)
    · rw [upperCount_of_not_brace hne, upperCount_of_not_brace hne']
      exact .map _ (readCount_agrees hpast)
  · rw [upperCount_of_not_comma hne, upperCount_of_not_comma hne']
    exact .some _ hs

theorem readCounts_agrees {min : Nat} {max : Option Nat} {greedy : Bool} (hs : Closes s s')
    (h : readCounts ignore s = some (min, max, greedy, r)) :
    ∃ r', readCounts ignore s' = some (min, max, greedy, r') ∧ Closes r r' := by
  rw [readCounts_eq] at h ⊢
  obtain ⟨⟨low, t⟩, hlow, h⟩ := Option.bind_eq_some_iff.1 h
  obtain ⟨t', hlow', ht⟩ := readCount_agrees (hs.pastBlanks ignore) _ _ hlow
  obtain ⟨⟨high, u⟩, hhigh, h⟩ := Option.bind_eq_some_iff.1 h
  obtain ⟨u', hhigh', hu⟩ := upperCount_agrees ht _ _ hhigh
  obtain ⟨v, hv, h⟩ := Option.bind_eq_some_iff.1 h
  obtain ⟨v', hv', hclose⟩ := hu.dropPrefix? hv
  obtain ⟨hgreedy, hrest⟩ := lazyMark_closes (hclose.pastBlanks ignore)
  split_ifs at h with hcounts
  simp only [Option.some.injEq, Prod.mk.injEq] at h
  obtain ⟨rfl, rfl, hmark⟩ := h
  rcases hmark' : lazyMark (pastBlanks ignore v') with ⟨greedy', r'⟩
  rw [hmark, hmark'] at hgreedy hrest
  obtain rfl : greedy' = greedy := hgreedy
  exact ⟨r', by simp only [hlow', hhigh', hv', Option.bind_some, if_neg hcounts, hmark'], hrest⟩

/-! Items. -/

variable {st st' : State} {c : Char}

/-- What is read of an expression is read inside the group too, unless groups are nested too deep
there. -/
def Enters (x y : Option (State × List Char)) : Prop :=
  ∀ st r, x = some (st, r) → y = none ∨ ∃ r', y = some (st.inGroup, r') ∧ Closes r r'

namespace Enters

theorem none (y : Option (State × List Char)) : Enters none y := nofun

theorem some (st : State) (hs : Closes s s') : Enters (some (st, s)) (some (st.inGroup, s')) := by
  rintro _ _ ⟨⟩
  exact .inr ⟨s', rfl, hs⟩

theorem bind {α : Type} {x y : Option (α × List Char)}
    {f g : α × List Char → Option (State × List Char)} (h : Agrees x y)
    (hfg : ∀ a s s', Closes s s' → x = .some (a, s) → Enters (f (a, s)) (g (a, s'))) :
    Enters (x.bind f) (y.bind g) := by
  intro st r hst
  obtain ⟨⟨a, s⟩, hx, hf⟩ := Option.bind_eq_some_iff.1 hst
  obtain ⟨s', rfl, hs⟩ := h a s hx
  exact hfg a s s' hs hx st r hf

theorem ite {p : Prop} [Decidable p] {x y x' y' : Option (State × List Char)} (h : Enters x y)
    (h' : Enters x' y') : Enters (if p then x else x') (if p then y else y') := by
  split_ifs
  · exact h
  · exact h'

theorem of_state {x y : Option State} (h : ∀ st, x = .some st → y = .none ∨ y = .some st.inGroup)
    (hs : Closes s s') :
    Enters (x.bind fun st => .some (st, s)) (y.bind fun st => .some (st, s')) := by
  intro st r hst
  obtain ⟨st, hx, hst⟩ := Option.bind_eq_some_iff.1 hst
  cases hst
  rcases h st hx with rfl | rfl
  · exact .inl rfl
  · exact .inr ⟨s', rfl, hs⟩

end Enters

def behindFlags (st : State) : FlagSetting × List Char → Option (State × List Char)
  | (fs, ')' :: s) =>
    if fs.isEmpty then none
    else some ({ st with ignore := ignoresBlanks fs st.ignore }.push (.leaf (.setFlags fs)), s)
  | (fs, s) => (st.openGroup (.plain fs) (ignoresBlanks fs st.ignore)).bind fun st =>
      some (st, s.drop 1)

theorem behindFlags_of_ne {fs : FlagSetting} (hc : c ≠ ')') : behindFlags st (fs, c :: s) =
    (st.openGroup (.plain fs) (ignoresBlanks fs st.ignore)).bind fun st => some (st, s) := by
  unfold behindFlags
  split
  next heq => exact absurd (List.cons.inj (Prod.mk.inj heq).2).1 hc
  next heq =>
    cases heq
    rfl

/-- The beginnings of groups that look around, which are refused. -/
def looksAround (s : List Char) : Bool :=
  [['?', '='], ['?', '!'], ['?', '<', '='], ['?', '<', '!']].any fun p => startsWith p s

def nameOpening? (s : List Char) : Option (List Char) :=
  (dropPrefix? ['?', 'P', '<'] s).orElse fun _ => dropPrefix? ['?', '<'] s

def openNamed (st : State) : List Char × List Char → Option (State × List Char)
  | (name, s) =>
    if st.names.contains name then none
    else ({ st with names := name :: st.names }.openCapture).bind fun st => some (st, s)

theorem readGroup_eq (st : State) (s : List Char) : readGroup st s =
    let s := pastBlanks st.ignore s
    if looksAround s then none
    else match nameOpening? s, dropPrefix? ['?'] s with
      | some s, _ => (readName s).bind (openNamed st)
      | none, some s => (readFlags [] false false s).bind (behindFlags st)
      | none, none => st.openCapture.bind fun st => some (st, s) := by
  unfold readGroup
  generalize pastBlanks st.ignore s = t
  by_cases hlook : looksAround t = true
  · exact (if_pos hlook).trans (if_pos hlook).symm
  · refine (if_neg hlook).trans (Eq.trans ?_ (if_neg hlook).symm)
    cases hname : nameOpening? t with
    | some u =>
      unfold nameOpening? at hname
      simp only [hname]
      rfl
    | none =>
      unfold nameOpening? at hname
      by_cases hflags : ∃ u, t = '?' :: u
      · obtain ⟨u, rfl⟩ := hflags
        have hdrop : dropPrefix? ['?'] ('?' :: u) = some u := rfl
        simp only [hname, hdrop]
        refine congrArg _ (funext fun (fs, v) => ?_)
        cases v with
        | nil => rfl
        | cons c v =>
          by_cases hc : c = ')'
          · subst hc
            rfl
          · rw [behindFlags_of_ne hc]
            split
            next heq => exact absurd (List.cons.inj heq).1 hc
            rfl
      · have hdrop : dropPrefix? ['?'] t = none := Option.eq_none_iff_forall_ne_some.2 fun u hu =>
          hflags ⟨u, dropPrefix?_eq_some_iff.1 hu⟩
        simp only [hname, hdrop]
        split
        next heq => cases heq
        next v _ => exact absurd ⟨v, rfl⟩ hflags
        next => rfl

theorem Closes.startsWith {p : List Char} (hs : Closes s s') (hp : ')' ∉ p) :
    startsWith p s' = startsWith p s := by
  rw [Text.startsWith, Text.startsWith]
  rcases hs.dropPrefix?_cases hp with ⟨h, h'⟩ | ⟨t, t', h, h', -⟩
  · rw [h, h']
  · rw [h, h']
    rfl

theorem looksAround_closes (hs : Closes s s') : looksAround s' = looksAround s := by
  simp only [looksAround, List.any_cons, List.any_nil]
  rw [hs.startsWith (by decide), hs.startsWith (by decide), hs.startsWith (by decide),
    hs.startsWith (by decide)]

theorem nameOpening?_closes (hs : Closes s s') :
    nameOpening? s = none ∧ nameOpening? s' = none ∨
      ∃ t t', nameOpening? s = some t ∧ nameOpening? s' = some t' ∧ Closes t t' := by
  unfold nameOpening?
  rcases hs.dropPrefix?_cases (p := ['?', 'P', '<']) (by decide) with
    ⟨h, h'⟩ | ⟨t, t', h, h', ht⟩
  · rw [h, h']
    exact hs.dropPrefix?_cases (by decide)
  · rw [h, h']
    exact .inr ⟨t, t', rfl, rfl, ht⟩

theorem openNamed_enters {name : List Char} (hs : Closes s s') :
    Enters (openNamed st (name, s)) (openNamed st.inGroup (name, s')) :=
  .ite (.none _) (.of_state (fun _ h => State.openCapture_inGroup h) hs)

theorem behindFlags_enters {fs : FlagSetting} (hne : s ≠ []) (hs : Closes s s') :
    Enters (behindFlags st (fs, s)) (behindFlags st.inGroup (fs, s')) := by
  obtain ⟨c, s, rfl⟩ := List.exists_cons_of_ne_nil hne
  obtain ⟨t, rfl, ht⟩ := hs.of_cons
  by_cases hc : c = ')'
  · subst hc
    refine .ite (.none _) (.some _ ht)
  · rw [behindFlags_of_ne hc, behindFlags_of_ne hc]
    exact .of_state (fun _ h => State.openGroup_inGroup h) ht

theorem readGroup_enters (hs : Closes s s') :
    Enters (readGroup st s) (readGroup st.inGroup s') := by
  have hpast := hs.pastBlanks st.ignore
  have hignore : st.inGroup.ignore = st.ignore := rfl
  rw [readGroup_eq, readGroup_eq, hignore]
  generalize pastBlanks st.ignore s = t at *
  generalize pastBlanks st.ignore s' = t' at *
  dsimp only
  rw [looksAround_closes hpast]
  refine .ite (.none _) ?_
  rcases nameOpening?_closes hpast with ⟨h, h'⟩ | ⟨u, u', h, h', hu⟩
  · rw [h, h']
    rcases hpast.dropPrefix?_cases (p := ['?']) (by decide) with
      ⟨h, h'⟩ | ⟨v, v', h, h', hv⟩
    · rw [h, h']
      exact .of_state (fun _ h => State.openCapture_inGroup h) hpast
    · rw [h, h']
      exact .bind (readFlags_agrees hv) fun _ _ _ hw hread =>
        behindFlags_enters (readFlags_ne_nil hread) hw
  · rw [h, h']
    exact .bind (readName_agrees hu) fun _ _ _ hv _ => openNamed_enters hv

def operators : List Char := ['(', ')', '|', '[', '?', '*', '+', '\x7b']

theorem readItem_of_primitive (hc : c ∉ operators) : readItem st c s =
    (primitive st.ignore (c :: s)).map fun (e, s) => (st.push (.leaf e), s) := by
  unfold readItem
  split
  dsimp only
  split
  all_goals first | exact absurd (by decide) hc | rfl

theorem enters_map {x y : Option State} (h : ∀ st, x = some st → y = some st.inGroup)
    (hs : Closes s s') :
    Enters (x.map fun st => (st, s)) (y.map fun st => (st, s')) := by
  cases x with
  | none => exact .none _
  | some st =>
    rw [h st rfl]
    exact .some st hs

theorem repetition_enters {min : Nat} {max : Option Nat} (hs : Closes s s') :
    Enters ((st.repeatLast min max (lazyMark s).1).map fun st => (st, (lazyMark s).2))
      ((st.inGroup.repeatLast min max (lazyMark s').1).map fun st => (st, (lazyMark s').2)) := by
  obtain ⟨hgreedy, hrest⟩ := lazyMark_closes hs
  rw [hgreedy]
  exact enters_map (fun _ h => State.repeatLast_inGroup h) hrest

def Syntax.IsPlain (e : Syntax) : Prop := e.renumbered = e

theorem push_enters {α : Type} {f : α → Tall Syntax} {x y : Option (α × List Char)}
    (h : Agrees x y) (hplain : ∀ a r, x = some (a, r) → (f a).node.IsPlain) :
    Enters (x.map fun (a, s) => (st.push (f a), s))
      (y.map fun (a, s) => (st.inGroup.push (f a), s)) := by
  intro st' r hst
  obtain ⟨⟨a, s⟩, hx, hst⟩ := Option.map_eq_some_iff.1 hst
  cases hst
  obtain ⟨s', hy, hs⟩ := h a _ hx
  refine .inr ⟨s', ?_, hs⟩
  rw [hy, State.push_inGroup, Tall.renumbered, hplain a _ hx]
  rfl

theorem isPlain_of_map {α : Type} {f : α → Syntax} {x : Option (α × List Char)} {e : Syntax}
    (h : (x.map fun (a, s) => (f a, s)) = some (e, r)) (hplain : ∀ a, (f a).IsPlain) :
    e.IsPlain := by
  obtain ⟨⟨a, t⟩, -, h⟩ := Option.map_eq_some_iff.1 h
  cases h
  exact hplain a

theorem escape_isPlain {e : Syntax} (h : escape ignore s = some (e, r)) : e.IsPlain := by
  cases s with
  | nil => cases h
  | cons c s =>
    rw [escape] at h
    split_ifs at h
    · exact isPlain_of_map h fun _ => rfl
    · exact isPlain_of_map (f := fun name => .property name (c = 'P')) h fun _ => rfl
    · exact isPlain_of_map h fun _ => rfl
    · cases h
      rfl
    · split at h <;> cases h <;> rfl

theorem primitive_isPlain {e : Syntax} (h : primitive ignore s = some (e, r)) : e.IsPlain := by
  unfold primitive at h
  split at h
  · cases h
  · exact escape_isPlain h
  all_goals
    cases h
    rfl

theorem over_isPlain {negated : Bool} {members : SetSyntax} {heights : List Nat} {e : Tall Syntax}
    (h : Tall.over (.bracket negated members) heights = some e) : e.node.IsPlain := by
  rw [Tall.over] at h
  split_ifs at h
  cases h
  rfl

theorem bracketFrom_isPlain {fuel : Nat} {stack : List SetFrame} {items : List (Tall SetSyntax)}
    {e : Tall Syntax} (h : bracketFrom ignore fuel stack items s = some (e, r)) :
    e.node.IsPlain := by
  induction fuel generalizing stack items s with
  | zero => cases h
  | succ fuel ih =>
    rw [bracketFrom] at h
    split at h
    · cases h
    · split at h
      · exact ih h
      · exact ih h
    · obtain ⟨⟨inner, stack⟩, -, h⟩ := Option.bind_eq_some_iff.1 h
      dsimp only at h
      split at h
      · obtain ⟨e, he, h⟩ := Option.bind_eq_some_iff.1 h
        cases h
        exact over_isPlain he
      · obtain ⟨item, -, h⟩ := Option.bind_eq_some_iff.1 h
        exact ih h
      · cases h
    all_goals
      obtain ⟨_, -, h⟩ := Option.bind_eq_some_iff.1 h
      exact ih h

theorem readItem_enters (hs : Closes s s') :
    Enters (readItem st c s) (readItem st.inGroup c s') := by
  by_cases hc : c ∈ operators
  · simp only [operators, List.mem_cons, List.not_mem_nil, or_false] at hc
    rcases hc with rfl | rfl | rfl | rfl | rfl | rfl | rfl | rfl
    · exact readGroup_enters hs
    · exact enters_map (fun _ h => State.closeGroup_inGroup h) hs
    · exact enters_map (fun st h => by rw [State.branch_inGroup, h]; rfl) hs
    · exact push_enters (f := fun e => e) (bracket_agrees hs) fun _ _ => bracketFrom_isPlain
    · exact repetition_enters hs
    · exact repetition_enters hs
    · exact repetition_enters hs
    · rintro st' r hst
      obtain ⟨⟨min, max, greedy, t⟩, hcounts, hst⟩ := Option.bind_eq_some_iff.1 hst
      obtain ⟨t', hcounts', ht⟩ := readCounts_agrees hs hcounts
      obtain ⟨st₁, hrepeat, hst⟩ := Option.bind_eq_some_iff.1 hst
      cases hst
      refine .inr ⟨t', ?_, ht⟩
      refine Option.bind_eq_some_iff.2 ⟨_, hcounts', ?_⟩
      exact Option.bind_eq_some_iff.2 ⟨_, State.repeatLast_inGroup hrepeat, rfl⟩
  · rw [readItem_of_primitive hc, readItem_of_primitive hc]
    exact push_enters (primitive_agrees (hs.cons c)) fun _ _ => primitive_isPlain

theorem readFrom_item {fuel captures : Nat} {names : List (List Char)} {item : Tall Syntax}
    {e : Syntax} (h : readFrom fuel ⟨[], [item], [], false, captures, names⟩ [] = some e) :
    e = item.node := by
  cases fuel with
  | zero => cases h
  | succ fuel => exact (Option.some.inj h).symm

/-- The parenthesis at the end closes the group around the expression. -/
theorem closeGroup_outermost {st' : State} {e : Tall Syntax} (hstack : st.stack = [])
    (hwhole : st.whole = some e) (h : st.inGroup.closeGroup = some st') :
    ∃ group : Tall Syntax, group.node = .capture 1 e.node.renumbered ∧
      st' = ⟨[], [group], [], false, st.captures + 1, st.names⟩ := by
  have hstack' : st.inGroup.stack = [⟨.capture 1, [], [], false⟩] := by
    rw [State.inGroup, hstack]
    rfl
  rw [State.closeGroup, hstack', State.whole_inGroup, hwhole] at h
  obtain ⟨_, ⟨⟩, h⟩ := Option.bind_eq_some_iff.1 h
  obtain ⟨group, hgroup, h⟩ := Option.bind_eq_some_iff.1 h
  cases h
  rw [Tall.over] at hgroup
  split_ifs at hgroup
  cases hgroup
  exact ⟨_, rfl, rfl⟩

theorem readFrom_inGroup {fuel fuel' : Nat} {e e' : Syntax} (hs : Closes s s')
    (h : readFrom fuel st s = some e) (h' : readFrom fuel' st.inGroup s' = some e') :
    e' = .capture 1 e.renumbered := by
  induction fuel generalizing fuel' st s s' with
  | zero => cases h
  | succ fuel ih =>
    obtain _ | fuel' := fuel'
    · cases h'
    rw [readFrom] at h h'
    have hpast := hs.pastBlanks st.ignore
    have hignore : st.inGroup.ignore = st.ignore := rfl
    rw [hignore] at h'
    cases ht : pastBlanks st.ignore s with
    | cons c t =>
      rw [ht] at h hpast
      obtain ⟨t', ht', hclose⟩ := hpast.of_cons
      rw [ht'] at h'
      obtain ⟨⟨st₁, r⟩, hread, h⟩ := Option.bind_eq_some_iff.1 h
      obtain ⟨⟨st₂, r'⟩, hread', h'⟩ := Option.bind_eq_some_iff.1 h'
      rcases readItem_enters hclose st₁ r hread with hnone | ⟨r'', hsome, hr⟩
      · rw [hnone] at hread'
        cases hread'
      · rw [hsome] at hread'
        cases hread'
        exact ih hr h h'
    | nil =>
      rw [ht] at h hpast
      obtain ⟨hstack, h⟩ := Option.ite_none_right_eq_some.1 h
      obtain ⟨whole, hwhole, rfl⟩ := Option.map_eq_some_iff.1 h
      rcases hpast.of_nil with ht' | ht'
      · -- The group is still open.
        rw [ht'] at h'
        obtain ⟨hstack', -⟩ := Option.ite_none_right_eq_some.1 h'
        simp [State.inGroup] at hstack'
      · rw [ht'] at h'
        obtain ⟨⟨st₁, r⟩, hread, h'⟩ := Option.bind_eq_some_iff.1 h'
        obtain ⟨st₂, hclose, hread⟩ := Option.map_eq_some_iff.1 hread
        cases hread
        obtain ⟨group, hgroup, rfl⟩ :=
          closeGroup_outermost (List.isEmpty_iff.1 hstack) hwhole hclose
        exact (readFrom_item h').trans hgroup

theorem ne_of_parse? {e : Syntax} (h : Syntax.parse? s = some e) (t : List Char) :
    s ≠ '?' :: t := by
  rintro rfl
  rw [Syntax.parse?, readFrom] at h
  obtain ⟨_, hread, -⟩ := Option.bind_eq_some_iff.1 h
  have hrepeat : readItem .start '?' t =
      (State.start.repeatLast 0 (some 1) (lazyMark t).1).map fun st => (st, (lazyMark t).2) := rfl
  rw [hrepeat] at hread
  cases hread

/-- What an expression is in a group, if it is an expression by itself. -/
theorem Syntax.parse?_group {e e' : Syntax} (h : Syntax.parse? s = some e)
    (h' : Syntax.parse? ('(' :: (s ++ [')'])) = some e') : e' = .capture 1 e.renumbered := by
  have hclose : Closes s (s ++ [')']) := .inr rfl
  have hne : ∀ t, s ++ [')'] ≠ '?' :: t := by
    rcases hclose.split (k := '?') (by decide) with ⟨t, t', hs, -, -⟩ | ⟨-, hne⟩
    · exact absurd hs (ne_of_parse? h t)
    · exact hne
  have hdrop (p : List Char) : dropPrefix? ('?' :: p) (s ++ [')']) = none :=
    Option.eq_none_iff_forall_ne_some.2 fun t ht => hne _ (dropPrefix?_eq_some_iff.1 ht)
  have hopen : readItem .start '(' (s ++ [')']) = some (State.start.inGroup, s ++ [')']) := by
    have hpast : pastBlanks false (s ++ [')']) = s ++ [')'] := by
      cases s <;> rfl
    change readGroup .start (s ++ [')']) = _
    rw [readGroup_eq]
    simp only [State.start, hpast, looksAround, startsWith, hdrop, nameOpening?, List.any_cons,
      List.any_nil, Option.isSome_none, Bool.or_self, Bool.false_eq_true, if_false,
      Option.orElse_none]
    rfl
  obtain ⟨⟨st, r⟩, hread, h'⟩ := Option.bind_eq_some_iff.1 h'
  rw [hopen] at hread
  cases hread
  exact readFrom_inGroup hclose h h'

end SoftFail.Regex
