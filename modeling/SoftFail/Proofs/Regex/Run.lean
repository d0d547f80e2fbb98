import SoftFail.Proofs.Regex.CharSet
import SoftFail.Proofs.Regex.Division
import SoftFail.Proofs.Text.Template

/-! Words and runs of characters as expressions read them. -/

namespace SoftFail.Regex

open Text

namespace Cursor

variable {here : Cursor} {c : Char} {r q : List Char}

/-- The place that leaves `r` of what follows. -/
def leaving (here : Cursor) (r : List Char) : Cursor :=
  ⟨(here.rest.take (here.rest.length - r.length)).getLast?.or here.before,
    here.offset + (here.rest.length - r.length), r⟩

theorem leaving_rest (here : Cursor) : here.leaving here.rest = here := by
  rw [leaving, Nat.sub_self, List.take_zero]
  rfl

theorem leaving_of_rest_eq (hrest : here.rest = c :: r) :
    here.leaving r = ⟨some c, here.offset + 1, r⟩ := by
  rw [leaving, hrest, List.length_cons, Nat.add_sub_cancel_left, List.take_succ_cons,
    List.take_zero]
  rfl

theorem leaving_leaving (hr : r <:+ here.rest) (hq : q <:+ r) :
    (here.leaving r).leaving q = here.leaving q := by
  obtain ⟨v, rfl⟩ := hq
  obtain ⟨u, hu⟩ := hr
  have htake (x y : List Char) : (x ++ y).take ((x ++ y).length - y.length) = x := by
    rw [List.length_append, Nat.add_sub_cancel, List.take_left]
  simp only [leaving, ← hu, htake]
  rw [← List.append_assoc, htake, List.getLast?_append, Option.or_assoc]
  simp only [List.length_append, mk.injEq, and_true, true_and]
  omega

end Cursor

theorem prefer_none_left (greedy : Bool) (r : Option Match) : prefer greedy none r = r := by
  cases greedy with
  | true => exact Option.none_or
  | false => exact Option.or_none

theorem prefer_none_right (greedy : Bool) (r : Option Match) : prefer greedy r none = r := by
  cases greedy with
  | true => exact Option.or_none
  | false => exact Option.none_or

theorem prefer_self (greedy : Bool) (r : Option Match) : prefer greedy r r = r := by
  cases greedy <;> exact Option.or_self

namespace Onward

variable {here : Cursor} {t : Thread} {s : CharSet} {p : Char → Bool} {next : Onward}
  {greedy : Bool} {c : Char} {r : List Char}

theorem take_nil (hrest : here.rest = []) : take s next here t = none := by
  rw [take, hrest]

theorem take_cons (hs : s.Is p) (hrest : here.rest = c :: r) :
    take s next here t = if p c then next (here.leaving r) t else none := by
  rw [take, hrest, Cursor.leaving_of_rest_eq hrest, ← hs c]

def FailsAt (p : Char → Bool) (next : Onward) : Prop :=
  ∀ (here : Cursor) (t : Thread), here.rest.head?.any p = true → next here t = none

theorem failsAt_take {q : Char → Bool} (hs : s.Is q) (hpq : ∀ c, p c = true → q c = false) :
    FailsAt p (take s next) := by
  intro here t hp
  cases hrest : here.rest with
  | nil => exact take_nil hrest
  | cons c r =>
    rw [hrest] at hp
    rw [take_cons hs hrest, if_neg (by rw [hpq c hp]; decide)]

theorem star_take (here : Cursor) (t : Thread) : star greedy (take s) next here t =
    prefer greedy (take s (star greedy (take s) next) here t) (next here t) := by
  rw [star, optional]
  congr 1
  cases hrest : here.rest with
  | nil => rw [take_nil hrest, take_nil hrest]
  | cons c r =>
    rw [take, take, hrest]
    dsimp only
    rw [dif_pos (by rw [List.length_cons]; exact Nat.lt_succ_self _)]

/-- A run is taken to its end, if no less of it will do, or if more of it is preferred and all of it
will do. -/
theorem star_run (hs : s.Is p)
    (hnext : FailsAt p next ∨ greedy = true ∧ ∀ here t, (next here t).isSome = true)
    (here : Cursor) (t : Thread) :
    star greedy (take s) next here t = next (here.leaving (here.rest.dropWhile p)) t := by
  induction hrest : here.rest generalizing here with
  | nil =>
    rw [star_take, take_nil hrest, prefer_none_left, List.dropWhile_nil, ← hrest,
      Cursor.leaving_rest]
  | cons c r ih =>
    rw [star_take, take_cons hs hrest, List.dropWhile_cons]
    cases hc : p c with
    | true =>
      have hsuffix : r <:+ here.rest := hrest ▸ List.suffix_cons c r
      rw [if_pos rfl, if_pos rfl, ih (here.leaving r) rfl,
        Cursor.leaving_leaving hsuffix (List.dropWhile_suffix p)]
      rcases hnext with hfails | ⟨rfl, hsome⟩
      · rw [hfails here t (by rw [hrest]; exact hc), prefer_none_right]
      · exact Option.or_of_isSome (hsome _ _)
    | false =>
      rw [if_neg (by decide), if_neg (by decide), prefer_none_left, ← hrest, Cursor.leaving_rest]

end Onward

def Expr.concat : List Expr → Expr
  | [] => .empty
  | [e] => e
  | e :: es => .seq e (concat es)

theorem Expr.read_concat (es : List Expr) (next : Onward) :
    (concat es).read next = es.foldr read next := by
  induction es with
  | nil => rfl
  | cons e es ih =>
    cases es with
    | nil => rfl
    | cons e' es => exact congrArg e.read ih

theorem Expr.advances_concat (es : List Expr) : (concat es).advances = es.all advances := by
  induction es with
  | nil => rfl
  | cons e es ih =>
    cases es with
    | nil => exact (Bool.and_true _).symm
    | cons e' es => exact congrArg (e.advances && ·) ih

def Shortens (f : List Char → Option (List Char)) : Prop := ∀ s r, f s = some r → r <:+ s

def Reads (es : List Expr) (f : List Char → Option (List Char)) (next : Onward) : Prop :=
  ∀ (here : Cursor) (t : Thread), es.foldr Expr.read next here t =
    (f here.rest).bind fun r => next (here.leaving r) t

def behind? (p : Char → Bool) (f : List Char → Option (List Char)) :
    List Char → Option (List Char)
  | [] => none
  | c :: r => if p c then f r else none

section Reading

variable {es es' : List Expr} {f g : List Char → Option (List Char)} {next : Onward}
  {here : Cursor} {t : Thread} {s : CharSet} {p : Char → Bool} {greedy : Bool} {c : Char}
  {r : List Char}

theorem Shortens.bind_leaving (hf : Shortens f) (next : Onward) (t : Thread)
    (hr : r <:+ here.rest) :
    ((f r).bind fun q => next ((here.leaving r).leaving q) t) =
      (f r).bind fun q => next (here.leaving q) t := by
  cases hq : f r with
  | none => rfl
  | some q => rw [Option.bind_some, Option.bind_some, Cursor.leaving_leaving hr (hf r q hq)]

theorem Shortens.bind (hf : Shortens f) (hg : Shortens g) : Shortens fun s => (f s).bind g := by
  intro s q hq
  obtain ⟨r, hr, hq⟩ := Option.bind_eq_some_iff.1 hq
  exact (hg r q hq).trans (hf s r hr)

theorem Shortens.behind? (hf : Shortens f) (p : Char → Bool) : Shortens (behind? p f) := by
  intro s r h
  cases s with
  | nil => cases h
  | cons c s =>
    exact (hf s r (Option.ite_none_right_eq_some.1 h).2).trans (List.suffix_cons c s)

namespace Reads

theorem nil (next : Onward) : Reads [] some next := fun here t => by
  rw [List.foldr_nil, Option.bind_some, Cursor.leaving_rest]

theorem append (h : Reads es f (es'.foldr Expr.read next)) (h' : Reads es' g next)
    (hf : Shortens f) (hg : Shortens g) : Reads (es ++ es') (fun s => (f s).bind g) next := by
  intro here t
  rw [List.foldr_append, h, Option.bind_assoc]
  cases hr : f here.rest with
  | none => rfl
  | some r =>
    rw [Option.bind_some, Option.bind_some, h', ← hg.bind_leaving next t (hf _ _ hr)]
    rfl

theorem set (h : Reads es f next) (hf : Shortens f) (hs : s.Is p) :
    Reads (.set s :: es) (behind? p f) next := by
  intro here t
  rw [List.foldr_cons, Expr.read]
  cases hrest : here.rest with
  | nil => exact Onward.take_nil hrest
  | cons c r =>
    rw [Onward.take_cons hs hrest, behind?]
    split
    · exact (h (here.leaving r) t).trans (hf.bind_leaving next t (hrest ▸ List.suffix_cons c r))
    · rfl

theorem at? (h : Reads es f .done) (here : Cursor) : (Expr.concat es).at? here =
    (f here.rest).map fun r => ⟨here.span (here.leaving r), none, here.leaving r⟩ := by
  rw [Expr.at?, Expr.read_concat, h, Option.map_eq_bind]
  rfl

theorem scanned (h : Reads es f .done) {look : (s : List Char) → Look s Unit}
    (hlook : ∀ s, (look s).said = (f s).map fun r => some ((), r))
    (hshorter : ∀ s r, f s = some r → r.length < s.length) :
    (Expr.concat es).Scanned look fun _ => () := by
  intro here
  have hat := h.at? here
  rw [hlook]
  cases hr : f here.rest with
  | none =>
    rw [hr] at hat
    exact .pass hat
  | some r =>
    rw [hr] at hat
    have hlt := hshorter _ _ hr
    refine .found hat rfl ?_
    show here.offset < here.offset + (here.rest.length - r.length)
    omega

end Reads

theorem shortens_dropPrefix? (text : List Char) : Shortens (dropPrefix? text) := by
  intro s r h
  exact ⟨text, (dropPrefix?_eq_some_iff.1 h).symm⟩

theorem shortens_dropWord? (text : List Char) : Shortens (dropWord? text) := by
  intro s r h
  obtain ⟨m, rfl, -⟩ := dropWord?_eq_some_iff_fold.1 h
  exact List.suffix_append m r

def Expr.literal (text : List Char) : List Expr := text.map fun a => .set (.single a.toNat)

def Expr.word (text : List Char) : List Expr :=
  text.map fun a => .set (.ofList (Unicode.caseVariants a.toNat))

theorem reads_literal (text : List Char) (next : Onward) :
    Reads (Expr.literal text) (dropPrefix? text) next := by
  induction text with
  | nil => exact .nil next
  | cons a text ih =>
    have hcons : dropPrefix? (a :: text) = behind? (· = a) (dropPrefix? text) := funext fun s => by
      cases s with
      | nil => rfl
      | cons c s => simp only [dropPrefix?, behind?, decide_eq_true_eq, @eq_comm _ a c]
    rw [hcons]
    exact ih.set (shortens_dropPrefix? text) (CharSet.is_single a)

theorem reads_word {text : List Char} (htext : text.all CharSet.isPlain = true) (next : Onward) :
    Reads (Expr.word text) (dropWord? text) next := by
  induction text with
  | nil => exact .nil next
  | cons a text ih =>
    obtain ⟨ha, htext⟩ := Bool.and_eq_true_iff.1 htext
    have hcons : dropWord? (a :: text) = behind? (foldLetter · = a) (dropWord? text) :=
      funext fun s => by
        cases s with
        | nil => rfl
        | cons c s => simp only [dropWord?, behind?, decide_eq_true_eq]
    rw [hcons]
    exact (ih htext).set (shortens_dropWord? text) (CharSet.is_letter ha)

theorem shortens_dropWhile (p : Char → Bool) : Shortens fun s => some (s.dropWhile p) := by
  intro s r h
  obtain rfl := Option.some.inj h
  exact List.dropWhile_suffix p

theorem reads_run (hs : s.Is p)
    (hnext : Onward.FailsAt p next ∨ greedy = true ∧ ∀ here t, (next here t).isSome = true) :
    Reads [.repeated (.set s) 0 none greedy] (fun s => some (s.dropWhile p)) next :=
  fun here t => Onward.star_run hs hnext here t

theorem reads_run_one (hs : s.Is p)
    (hnext : Onward.FailsAt p next ∨ greedy = true ∧ ∀ here t, (next here t).isSome = true) :
    Reads [.repeated (.set s) 1 none greedy]
      (fun s => if s.head?.any p then some (s.dropWhile p) else none) next := by
  have hone : (fun s => if s.head?.any p then some (s.dropWhile p) else none) =
      behind? p fun s => some (s.dropWhile p) := funext fun s => by
    cases s with
    | nil => rfl
    | cons c s =>
      rw [List.head?_cons, Option.any_some, behind?, List.dropWhile_cons]
      split <;> rfl
  rw [hone]
  exact (reads_run hs hnext).set (shortens_dropWhile p) hs

theorem shortens_past? (stop : Char) : Shortens (past? stop) := by
  intro s r h
  obtain ⟨u, rfl, -⟩ := past?_eq_some_iff.1 h
  exact ⟨u ++ [stop], by rw [List.append_assoc]; rfl⟩

variable {s' : CharSet} {stop : Char}

theorem reads_past (greedy : Bool) (hs : s.Is (· ≠ stop)) (hs' : s'.Is (· = stop)) (next : Onward) :
    Reads [.repeated (.set s) 0 none greedy, .set s'] (past? stop) next := by
  intro here t
  have hfails : Onward.FailsAt (· ≠ stop) (.take s' next) :=
    Onward.failsAt_take hs' fun c hc => decide_eq_false (of_decide_eq_true hc)
  have hread : [Expr.repeated (.set s) 0 none greedy, .set s'].foldr Expr.read next here t =
      Onward.star greedy (.take s) (.take s' next) here t := rfl
  rw [hread, Onward.star_run hs (.inl hfails)]
  cases hpast : past? stop here.rest with
  | none =>
    have hnil : here.rest.dropWhile (· ≠ stop) = [] := by
      unfold past? at hpast
      split at hpast
      · assumption
      · cases hpast
    rw [hnil]
    exact Onward.take_nil rfl
  | some r =>
    obtain ⟨u, hrest, hu⟩ := past?_eq_some_iff.1 hpast
    have hdrop : here.rest.dropWhile (· ≠ stop) = stop :: r :=
      (takeWhile_dropWhile_iff.2 ⟨hrest, hu, by simp⟩).2
    rw [hdrop, Onward.take_cons hs' rfl, if_pos (decide_eq_true rfl), Option.bind_some,
      Cursor.leaving_leaving ⟨u, hrest.symm⟩ (List.suffix_cons stop r)]

theorem dropWord?_bind_past? {w : List Char} (hw : foldLetter stop ∉ w) (x : List Char) :
    (dropWord? w x).bind (past? stop) =
      if (dropWord? w (x.takeWhile (· ≠ stop))).isSome then past? stop x else none := by
  cases hpast : past? stop x with
  | none =>
    rw [ite_self, Option.bind_eq_none_iff]
    intro r hr
    obtain ⟨m, rfl, -⟩ := dropWord?_eq_some_iff_fold.1 hr
    rw [past?_eq_none_iff] at hpast ⊢
    exact fun hmem => hpast (List.mem_append_right m hmem)
  | some y =>
    obtain ⟨u, rfl, hu⟩ := past?_eq_some_iff.1 hpast
    have htake : (u ++ stop :: y).takeWhile (· ≠ stop) = u :=
      (takeWhile_dropWhile_iff.2 ⟨rfl, hu, by simp⟩).1
    rw [htake, dropWord?_append_cons hw]
    cases hr : dropWord? w u with
    | none => rfl
    | some r =>
      obtain ⟨m, rfl, -⟩ := dropWord?_eq_some_iff_fold.1 hr
      refine past?_append_cons (fun hmem => ?_) y
      exact of_decide_eq_true (hu stop (List.mem_append_right m hmem)) rfl

theorem reads_value (greedy : Bool) (hs : s.Is (· ≠ stop)) (hs' : s'.Is (· = stop)) {w : List Char}
    (hw : w.all CharSet.isPlain = true) (hstop : foldLetter stop ∉ w) (next : Onward) :
    Reads (.repeated (.set s) 0 none greedy ::
        (Expr.word w ++ [.repeated (.set s) 0 none greedy, .set s']))
      (fun x => if (cutWord? w (x.takeWhile (· ≠ stop))).isSome then past? stop x else none)
      next := by
  have hinner : Reads (Expr.word w ++ [.repeated (.set s) 0 none greedy, .set s'])
      (fun x => if (dropWord? w (x.takeWhile (· ≠ stop))).isSome then past? stop x else none)
      next := by
    have h := (reads_word hw _).append (reads_past greedy hs hs' next)
      (shortens_dropWord? w) (shortens_past? stop)
    simpa only [dropWord?_bind_past? hstop] using h
  generalize Expr.word w ++ [.repeated (.set s) 0 none greedy, .set s'] = es at hinner
  have hread (here : Cursor) (t : Thread) :
      (Expr.repeated (.set s) 0 none greedy :: es).foldr Expr.read next here t =
        Onward.star greedy (.take s) (es.foldr Expr.read next) here t := rfl
  intro here t
  rw [hread]
  dsimp only
  induction hrest : here.rest generalizing here with
  | nil =>
    rw [Onward.star_take, Onward.take_nil hrest, prefer_none_left, hinner, hrest]
    dsimp only
    rw [List.takeWhile_nil, isSome_cutWord?_nil]
  | cons c r ih =>
    have hleft := ih (here.leaving r) rfl
    rw [Onward.star_take, Onward.take_cons hs hrest, hinner, hrest]
    dsimp only
    rw [List.takeWhile_cons]
    cases hc : decide (c ≠ stop) with
    | false =>
      rw [if_neg Bool.false_ne_true, if_neg Bool.false_ne_true, prefer_none_left,
        isSome_cutWord?_nil]
    | true =>
      -- The word begins here or further on, and all is taken up to the same place.
      rw [if_pos rfl, if_pos rfl, hleft, isSome_cutWord?_cons, past?_cons,
        if_neg (of_decide_eq_true hc)]
      have hback := (shortens_past? stop).bind_leaving next t (hrest ▸ List.suffix_cons c r)
      cases (dropWord? w (c :: r.takeWhile (· ≠ stop))).isSome <;>
        cases (cutWord? w (r.takeWhile (· ≠ stop))).isSome
      · exact prefer_none_left _ _
      · exact (prefer_none_right _ _).trans hback
      · exact prefer_none_left _ _
      · simp only [Bool.or_self, if_true, hback]
        exact prefer_self _ _

theorem star_cut (hs : s.Is fun _ => true) {w : List Char} {found : Cursor → List Char → Match}
    (hnext : ∀ here, next here t = (dropWord? w here.rest).map (found here)) (here : Cursor) :
    Onward.star false (.take s) next here t = (cutWord? w here.rest).map fun p =>
      found (here.leaving (here.rest.drop p.1.length)) p.2 := by
  induction hrest : here.rest generalizing here with
  | nil =>
    have hhere : here.leaving [] = here := hrest ▸ here.leaving_rest
    rw [Onward.star_take, Onward.take_nil hrest, prefer_none_left, hnext, hrest, cutWord?_nil,
      Option.map_map]
    congr 1
    funext r
    rw [Function.comp_apply, List.drop_nil, hhere]
  | cons c r ih =>
    have hhere : here.leaving (c :: r) = here := hrest ▸ here.leaving_rest
    rw [Onward.star_take, Onward.take_cons hs hrest, if_pos rfl, ih (here.leaving r) rfl, hnext,
      hrest, cutWord?_cons, Option.map_or, Option.map_map, Option.map_map, prefer,
      if_neg Bool.false_ne_true]
    congr 2
    · funext q
      rw [Function.comp_apply, List.length_nil, List.drop_zero, hhere]
    · funext p
      exact congrArg (found · p.2) (Cursor.leaving_leaving (hrest ▸ List.suffix_cons c r)
        (List.drop_suffix p.1.length r))

end Reading

end SoftFail.Regex
