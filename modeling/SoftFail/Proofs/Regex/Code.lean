import Mathlib.Logic.Function.Basic
import SoftFail.Regex.Program

/-! The program of an expression, with and without its groups. Without them it is the same program,
less the instructions at which groups begin and end. -/

namespace SoftFail.Regex

def Expr.ungrouped : Expr → Expr
  | .empty => .empty
  | .set s => .set s
  | .place p => .place p
  | .seq a b => .seq a.ungrouped b.ungrouped
  | .alt a b => .alt a.ungrouped b.ungrouped
  | .repeated e min max greedy => .repeated e.ungrouped min max greedy
  | .capture _ e => e.ungrouped

theorem Expr.nullable_ungrouped (e : Expr) : e.ungrouped.nullable = e.nullable := by
  induction e <;> simp_all [ungrouped, nullable]

theorem Expr.ungrouped_of_captures {e : Expr} (h : e.captures = false) : e.ungrouped = e := by
  induction e <;> simp_all [ungrouped, captures]

namespace Instr

/-- The instruction behind one at which a group begins or ends. -/
def passed? : Instr → Option Nat
  | openGroup next | closeGroup next => some next
  | set .. | place .. | split .. | matched => none

def targets : Instr → List Nat
  | set _ next | place _ next | openGroup next | closeGroup next => [next]
  | split first second => [first, second]
  | matched => []

theorem targets_of_passed? {a : Instr} {n : Nat} (h : a.passed? = some n) : a.targets = [n] := by
  cases a <;> simp_all [passed?, targets]

/-- The instruction where all others have got new places. -/
def moved (f : Nat → Nat) : Instr → Instr
  | set s next => set s (f next)
  | place p next => place p (f next)
  | split first second => split (f first) (f second)
  | openGroup next => openGroup (f next)
  | closeGroup next => closeGroup (f next)
  | matched => matched

theorem moved_congr {f g : Nat → Nat} {i : Instr} (h : ∀ t ∈ i.targets, f t = g t) :
    i.moved f = i.moved g := by
  cases i <;> simp_all [moved, targets]

end Instr

namespace Code

variable {grouped plain : Code} {f g : Nat → Nat} {i j n : Nat} {a b : Instr}

theorem moved_choice (greedy : Bool) (enter leave : Nat) :
    (choice greedy enter leave).moved f = choice greedy (f enter) (f leave) := by
  cases greedy <;> rfl

theorem passed?_choice (greedy : Bool) (enter leave : Nat) :
    (choice greedy enter leave).passed? = none := by
  cases greedy <;> rfl

theorem forall_mem_targets_choice {greedy : Bool} {enter leave : Nat} {P : Nat → Prop} :
    (∀ t ∈ (choice greedy enter leave).targets, P t) ↔ P enter ∧ P leave := by
  cases greedy <;> simp [choice, Instr.targets, and_comm]

theorem lt_of_getElem?_eq (h : grouped[i]? = some a) : i < grouped.size :=
  (Array.getElem?_eq_some_iff.1 h).1

theorem of_getElem?_push (h : (grouped.push a)[i]? = some b) :
    i = grouped.size ∧ b = a ∨ i < grouped.size ∧ grouped[i]? = some b := by
  rw [Array.getElem?_push] at h
  split at h
  next hi => exact .inl ⟨hi, (Option.some.inj h).symm⟩
  next => exact .inr ⟨lt_of_getElem?_eq h, h⟩

theorem update_size_of_lt {m : Nat} (h : i < grouped.size) :
    Function.update f grouped.size m i = f i :=
  Function.update_of_ne (Nat.ne_of_lt h) _ _

def Keeps (code more : Code) : Prop :=
  ∀ (i : Nat) (a : Instr), code[i]? = some a → more[i]? = some a

theorem Keeps.trans {code more most : Code} (h : code.Keeps more) (h' : more.Keeps most) :
    code.Keeps most :=
  fun i a ha => h' i a (h i a ha)

theorem Keeps.size_le {code more : Code} (h : code.Keeps more) : code.size ≤ more.size := by
  rcases Nat.eq_zero_or_pos code.size with hzero | hpos
  · exact hzero ▸ Nat.zero_le _
  · have hlast : code.size - 1 < code.size := by omega
    have := lt_of_getElem?_eq (h _ _ (Array.getElem?_eq_getElem hlast))
    omega

theorem Keeps.getElem?_eq {code more : Code} (h : code.Keeps more) (hi : i < code.size) :
    more[i]? = code[i]? := by
  rw [Array.getElem?_eq_getElem hi]
  exact h i _ (Array.getElem?_eq_getElem hi)

theorem keeps_push (code : Code) (a : Instr) : code.Keeps (code.push a) := by
  intro i b hi
  rwa [Array.getElem?_push, if_neg (Nat.ne_of_lt (lt_of_getElem?_eq hi))]

theorem Keeps.set {code more : Code} (h : code.Keeps more) (a : Instr) :
    code.Keeps (more.setIfInBounds code.size a) := by
  intro i b hi
  rw [← h i b hi]
  exact Array.getElem?_setIfInBounds_ne (Nat.ne_of_gt (lt_of_getElem?_eq hi))

/-- One program is another without the instructions at which groups begin and end; `f` tells where
each instruction is found. -/
structure Erases (grouped plain : Code) (f : Nat → Nat) : Prop where
  targets (i : Nat) (a : Instr) : grouped[i]? = some a → ∀ t ∈ a.targets, t < grouped.size
  passed (i n : Nat) (a : Instr) : grouped[i]? = some a → a.passed? = some n → n < i ∧ f i = f n
  kept (i : Nat) (a : Instr) : grouped[i]? = some a → a.passed? = none →
    plain[f i]? = some (a.moved f)
  unique (i j : Nat) (a b : Instr) : grouped[i]? = some a → a.passed? = none →
    grouped[j]? = some b → b.passed? = none → f i = f j → i = j

namespace Erases

theorem lt (h : Erases grouped plain f) (hi : i < grouped.size) : f i < plain.size := by
  induction i using Nat.strongRecOn with
  | _ i ih =>
    have ha : grouped[i]? = some grouped[i] := Array.getElem?_eq_getElem hi
    rcases hp : grouped[i].passed? with _ | n
    · exact lt_of_getElem?_eq (h.kept i _ ha hp)
    · obtain ⟨hn, hf⟩ := h.passed i n _ ha hp
      exact hf ▸ ih n hn (Nat.lt_trans hn hi)

theorem push (h : Erases grouped plain f) (ha : a.passed? = none)
    (htargets : ∀ t ∈ a.targets, t < grouped.size) :
    Erases (grouped.push a) (plain.push (a.moved f))
      (Function.update f grouped.size plain.size) := by
  have hmoved {b : Instr} (hb : ∀ t ∈ b.targets, t < grouped.size) :
      b.moved (Function.update f grouped.size plain.size) = b.moved f :=
    Instr.moved_congr fun t ht => update_size_of_lt (hb t ht)
  refine ⟨fun i b hb t ht => ?_, fun i n b hb hn => ?_, fun i b hb hp => ?_,
    fun i j b c hb hbp hc hcp hij => ?_⟩
  · rw [Array.size_push]
    rcases of_getElem?_push hb with ⟨-, rfl⟩ | ⟨-, hb⟩
    · exact Nat.lt_succ_of_lt (htargets t ht)
    · exact Nat.lt_succ_of_lt (h.targets i b hb t ht)
  · rcases of_getElem?_push hb with ⟨-, rfl⟩ | ⟨hi, hb⟩
    · rw [ha] at hn
      cases hn
    · obtain ⟨hlt, hf⟩ := h.passed i n b hb hn
      exact ⟨hlt, by rw [update_size_of_lt hi, update_size_of_lt (Nat.lt_trans hlt hi), hf]⟩
  · rcases of_getElem?_push hb with ⟨rfl, rfl⟩ | ⟨hi, hb⟩
    · rw [Function.update_self, Array.getElem?_push_size, hmoved htargets]
    · rw [update_size_of_lt hi, hmoved (h.targets i b hb), Array.getElem?_push,
        if_neg (Nat.ne_of_lt (h.lt hi))]
      exact h.kept i b hb hp
  · rcases of_getElem?_push hb with ⟨rfl, rfl⟩ | ⟨hi, hb⟩ <;>
      rcases of_getElem?_push hc with ⟨rfl, rfl⟩ | ⟨hj, hc⟩
    · rfl
    · rw [Function.update_self, update_size_of_lt hj] at hij
      exact absurd hij (Nat.ne_of_gt (h.lt hj))
    · rw [Function.update_self, update_size_of_lt hi] at hij
      exact absurd hij (Nat.ne_of_lt (h.lt hi))
    · rw [update_size_of_lt hi, update_size_of_lt hj] at hij
      exact h.unique i j b c hb hbp hc hcp hij

/-- An instruction at which a group begins or ends is added to one of them. -/
theorem pushPassed (h : Erases grouped plain f) (ha : a.passed? = some n)
    (hn : n < grouped.size) :
    Erases (grouped.push a) plain (Function.update f grouped.size (f n)) := by
  have hold {i : Nat} {b : Instr} (hb : (grouped.push a)[i]? = some b) (hp : b.passed? = none) :
      i < grouped.size ∧ grouped[i]? = some b := by
    rcases of_getElem?_push hb with ⟨-, rfl⟩ | hb
    · rw [ha] at hp
      cases hp
    · exact hb
  refine ⟨fun i b hb t ht => ?_, fun i m b hb hm => ?_, fun i b hb hp => ?_,
    fun i j b c hb hbp hc hcp hij => ?_⟩
  · rw [Array.size_push]
    rcases of_getElem?_push hb with ⟨-, rfl⟩ | ⟨-, hb⟩
    · rw [Instr.targets_of_passed? ha, List.mem_singleton] at ht
      exact ht ▸ Nat.lt_succ_of_lt hn
    · exact Nat.lt_succ_of_lt (h.targets i b hb t ht)
  · rcases of_getElem?_push hb with ⟨rfl, rfl⟩ | ⟨hi, hb⟩
    · obtain rfl : n = m := Option.some.inj (ha.symm.trans hm)
      exact ⟨hn, by rw [Function.update_self, update_size_of_lt hn]⟩
    · obtain ⟨hlt, hf⟩ := h.passed i m b hb hm
      exact ⟨hlt, by rw [update_size_of_lt hi, update_size_of_lt (Nat.lt_trans hlt hi), hf]⟩
  · obtain ⟨hi, hb⟩ := hold hb hp
    rw [update_size_of_lt hi,
      Instr.moved_congr fun t ht => update_size_of_lt (h.targets i b hb t ht)]
    exact h.kept i b hb hp
  · obtain ⟨hi, hb⟩ := hold hb hbp
    obtain ⟨hj, hc⟩ := hold hc hcp
    rw [update_size_of_lt hi, update_size_of_lt hj] at hij
    exact h.unique i j b c hb hbp hc hcp hij

theorem set (h : Erases grouped plain f) (ha : grouped[i]? = some a) (hap : a.passed? = none)
    (hb : b.passed? = none) (htargets : ∀ t ∈ b.targets, t < grouped.size) :
    Erases (grouped.setIfInBounds i b) (plain.setIfInBounds (f i) (b.moved f)) f := by
  have hi : i < grouped.size := lt_of_getElem?_eq ha
  -- What stands at a place was there before, but for the new instruction.
  have hcases {j : Nat} {c : Instr} (hc : (grouped.setIfInBounds i b)[j]? = some c) :
      j = i ∧ c = b ∨ j ≠ i ∧ grouped[j]? = some c := by
    rw [Array.getElem?_setIfInBounds] at hc
    split at hc
    next hj => exact .inl ⟨hj.symm, (Option.some.inj hc).symm⟩
    next hj => exact .inr ⟨fun h => hj h.symm, hc⟩
  have hplace {j : Nat} {c : Instr} (hc : (grouped.setIfInBounds i b)[j]? = some c)
      (hcp : c.passed? = none) : ∃ d, grouped[j]? = some d ∧ d.passed? = none := by
    rcases hcases hc with ⟨rfl, rfl⟩ | ⟨-, hc⟩
    · exact ⟨a, ha, hap⟩
    · exact ⟨c, hc, hcp⟩
  refine ⟨fun j c hc t ht => ?_, fun j n c hc hn => ?_, fun j c hc hp => ?_,
    fun j k c d hc hcp hd hdp hjk => ?_⟩
  · rw [Array.size_setIfInBounds]
    rcases hcases hc with ⟨-, rfl⟩ | ⟨-, hc⟩
    · exact htargets t ht
    · exact h.targets j c hc t ht
  · rcases hcases hc with ⟨-, rfl⟩ | ⟨-, hc⟩
    · rw [hb] at hn
      cases hn
    · exact h.passed j n c hc hn
  · rcases hcases hc with ⟨rfl, rfl⟩ | ⟨hj, hc⟩
    · rw [Array.getElem?_setIfInBounds, if_pos rfl, if_pos (h.lt hi)]
    · rw [Array.getElem?_setIfInBounds,
        if_neg fun hf => hj (h.unique j i c a hc hp ha hap hf.symm)]
      exact h.kept j c hc hp
  · obtain ⟨c', hc', hcp'⟩ := hplace hc hcp
    obtain ⟨d', hd', hdp'⟩ := hplace hd hdp
    exact h.unique j k c' d' hc' hcp' hd' hdp' hjk

end Erases

/-! Parts of programs, put in front of an instruction. -/

structure Widens (grouped : Code) (f : Nat → Nat) (new new' : Nat × Code) (g : Nat → Nat) :
    Prop where
  erases : Erases new.2 new'.2 g
  start_lt : new.1 < new.2.size
  start : new'.1 = g new.1
  keeps : grouped.Keeps new.2
  same : ∀ i < grouped.size, g i = f i

theorem Widens.refl (h : Erases grouped plain f) (hn : n < grouped.size) :
    Widens grouped f (n, grouped) (f n, plain) f :=
  ⟨h, hn, rfl, fun _ _ ha => ha, fun _ _ => rfl⟩

theorem Widens.trans {f g k : Nat → Nat} {new new' newer newer' : Nat × Code}
    (h : Widens grouped f new new' g) (h' : Widens new.2 g newer newer' k) :
    Widens grouped f newer newer' k :=
  ⟨h'.erases, h'.start_lt, h'.start, h.keeps.trans h'.keeps, fun i hi => by
    rw [h'.same i (Nat.lt_of_lt_of_le hi h.keeps.size_le), h.same i hi]⟩

def Same (part part' : Nat → Code → Nat × Code) : Prop :=
  ∀ (grouped plain : Code) (f : Nat → Nat) (n : Nat), Erases grouped plain f → n < grouped.size →
    ∃ g, Widens grouped f (part n grouped) (part' (f n) plain) g

theorem widens_add (h : Erases grouped plain f) (ha : a.passed? = none)
    (htargets : ∀ t ∈ a.targets, t < grouped.size) :
    ∃ g, Widens grouped f (grouped.add a) (plain.add (a.moved f)) g :=
  ⟨_, h.push ha htargets, by simp [add], by simp [add], keeps_push _ _,
    fun _ => update_size_of_lt⟩

theorem widens_choice (h : Erases grouped plain f) (greedy : Bool) {enter leave : Nat}
    (henter : enter < grouped.size) (hleave : leave < grouped.size) :
    ∃ g, Widens grouped f (grouped.add (choice greedy enter leave))
      (plain.add (choice greedy (f enter) (f leave))) g := by
  rw [← moved_choice]
  exact widens_add h (passed?_choice _ _ _) (forall_mem_targets_choice.2 ⟨henter, hleave⟩)

theorem widens_addPassed (h : Erases grouped plain f) (ha : a.passed? = some n)
    (hn : n < grouped.size) : ∃ g, Widens grouped f (grouped.add a) (f n, plain) g :=
  ⟨_, h.pushPassed ha hn, by simp [add], by simp [add], keeps_push _ _,
    fun _ => update_size_of_lt⟩

variable {part part' : Nat → Code → Nat × Code}

theorem Same.copies (h : Same part part') (k : Nat) :
    Same (Code.copies part k) (Code.copies part' k) := by
  induction k with
  | zero => exact fun _ _ f _ he hn => ⟨f, .refl he hn⟩
  | succ k ih =>
    intro grouped plain f n he hn
    obtain ⟨g, hg⟩ := h grouped plain f n he hn
    obtain ⟨g', hg'⟩ := ih _ _ g _ hg.erases hg.start_lt
    rw [← hg.start] at hg'
    exact ⟨g', hg.trans hg'⟩

theorem Same.options (h : Same part part') (greedy : Bool) (k : Nat) {n follow : Nat}
    (he : Erases grouped plain f) (hn : n < grouped.size) (hfollow : follow < grouped.size) :
    ∃ g, Widens grouped f (Code.options part greedy n k follow grouped)
      (Code.options part' greedy (f n) k (f follow) plain) g := by
  induction k generalizing grouped plain f follow with
  | zero => exact ⟨f, .refl he hfollow⟩
  | succ k ih =>
    obtain ⟨g, hg⟩ := h grouped plain f follow he hfollow
    have hn' := Nat.lt_of_lt_of_le hn hg.keeps.size_le
    obtain ⟨g₁, hg₁⟩ := widens_choice hg.erases greedy hg.start_lt hn'
    rw [← hg.start, hg.same n hn] at hg₁
    have hwidens := hg.trans hg₁
    obtain ⟨g₂, hg₂⟩ := ih hwidens.erases (Nat.lt_of_lt_of_le hn hwidens.keeps.size_le)
      hwidens.start_lt
    rw [← hwidens.start, hwidens.same n hn] at hg₂
    exact ⟨g₂, hwidens.trans hg₂⟩

theorem Same.loop (h : Same part part') (greedy : Bool) (he : Erases grouped plain f)
    (hn : n < grouped.size) :
    let new := Code.loop part greedy n grouped
    let new' := Code.loop part' greedy (f n) plain
    ∃ g, Widens grouped f (new.1, new.2.2) (new'.1, new'.2.2) g ∧
      Widens grouped f (new.2.1, new.2.2) (new'.2.1, new'.2.2) g := by
  intro new new'
  obtain ⟨g₁, hg₁⟩ := widens_add he (a := .matched) rfl nofun
  obtain ⟨g, hg⟩ := h _ _ _ _ hg₁.erases hg₁.start_lt
  rw [← hg₁.start] at hg
  have hwidens := hg₁.trans hg
  have hn' := Nat.lt_of_lt_of_le hn hwidens.keeps.size_le
  -- What stands for the choice until it is known where the part begins.
  have hagain : (part grouped.size (grouped.push .matched)).2[grouped.size]? = some .matched :=
    hg.keeps _ _ Array.getElem?_push_size
  have hplace : g grouped.size = plain.size := (hg.same _ hg₁.start_lt).trans hg₁.start.symm
  have herases : Erases new.2.2 new'.2.2 g := by
    have hset := hwidens.erases.set hagain rfl
      (passed?_choice greedy (part grouped.size (grouped.push .matched)).1 n)
      (forall_mem_targets_choice.2 ⟨hg.start_lt, hn'⟩)
    rw [moved_choice, hplace, hwidens.same n hn] at hset
    have hstart : new'.1 = g (part grouped.size (grouped.push .matched)).1 := hwidens.start
    rw [← hstart] at hset
    exact hset
  have hsize : new.2.2.size = (part grouped.size (grouped.push .matched)).2.size :=
    Array.size_setIfInBounds
  have hkeeps : grouped.Keeps new.2.2 := hwidens.keeps.set _
  exact ⟨g, ⟨herases, hsize ▸ hwidens.start_lt, hwidens.start, hkeeps, hwidens.same⟩,
    ⟨herases, hsize ▸ lt_of_getElem?_eq hagain, hplace.symm, hkeeps, hwidens.same⟩⟩

end Code

open Code

theorem Expr.code_capture_of_ne {i : Nat} (hi : i ≠ 1) (e : Expr) :
    (Expr.capture i e).code = e.code := by
  funext next code
  rw [Expr.code]
  exact hi

theorem Expr.same_code (e : Expr) : Same e.code e.ungrouped.code := by
  induction e with
  | empty => exact fun _ _ f _ he hn => ⟨f, .refl he hn⟩
  | set s => exact fun _ _ _ n he hn => widens_add he (a := .set s n) rfl (by simpa [Instr.targets])
  | place p =>
    exact fun _ _ _ n he hn => widens_add he (a := .place p n) rfl (by simpa [Instr.targets])
  | seq a b iha ihb =>
    intro grouped plain f n he hn
    obtain ⟨g, hg⟩ := ihb grouped plain f n he hn
    obtain ⟨g', hg'⟩ := iha _ _ g _ hg.erases hg.start_lt
    rw [← hg.start] at hg'
    exact ⟨g', hg.trans hg'⟩
  | alt a b iha ihb =>
    intro grouped plain f n he hn
    obtain ⟨g, hg⟩ := iha grouped plain f n he hn
    obtain ⟨g', hg'⟩ := ihb _ _ g _ hg.erases (Nat.lt_of_lt_of_le hn hg.keeps.size_le)
    have hfirst := Nat.lt_of_lt_of_le hg.start_lt hg'.keeps.size_le
    obtain ⟨g'', hg''⟩ := widens_add hg'.erases
      (a := .split (a.code n grouped).1 (b.code n (a.code n grouped).2).1) rfl (by
        simpa [Instr.targets] using ⟨hfirst, hg'.start_lt⟩)
    rw [Instr.moved, hg'.same _ hg.start_lt, ← hg'.start, ← hg.start, hg.same n hn] at hg''
    exact ⟨g'', (hg.trans hg').trans hg''⟩
  | repeated e min max greedy ih =>
    intro grouped plain f n he hn
    cases max with
    | some max =>
      obtain ⟨g, hg⟩ := ih.options greedy (max - min) he hn hn
      obtain ⟨g', hg'⟩ := ih.copies min _ _ g _ hg.erases hg.start_lt
      rw [← hg.start] at hg'
      exact ⟨g', hg.trans hg'⟩
    | none =>
      obtain ⟨g, hstart, hagain⟩ := ih.loop greedy he hn
      cases min with
      | succ min =>
        obtain ⟨g', hg'⟩ := ih.copies min _ _ g _ hstart.erases hstart.start_lt
        rw [← hstart.start] at hg'
        exact ⟨g', hstart.trans hg'⟩
      | zero =>
        rw [ungrouped, code, code, nullable_ungrouped]
        cases e.nullable with
        | false => exact ⟨g, hagain⟩
        | true =>
          obtain ⟨g', hg'⟩ := widens_choice hstart.erases greedy hstart.start_lt
            (Nat.lt_of_lt_of_le hn hstart.keeps.size_le)
          rw [← hstart.start, hstart.same n hn] at hg'
          exact ⟨g', hstart.trans hg'⟩
  | capture i e ih =>
    intro grouped plain f n he hn
    by_cases hi : i = 1
    · subst hi
      obtain ⟨g, hg⟩ := widens_addPassed he (a := .closeGroup n) rfl hn
      obtain ⟨g₁, hg₁⟩ := ih _ _ g _ hg.erases hg.start_lt
      rw [← hg.start] at hg₁
      have hwidens := hg.trans hg₁
      obtain ⟨g₂, hg₂⟩ := widens_addPassed hwidens.erases (a := .openGroup _) rfl hwidens.start_lt
      rw [← hwidens.start] at hg₂
      exact ⟨g₂, hwidens.trans hg₂⟩
    · rw [code_capture_of_ne hi]
      exact ih grouped plain f n he hn

theorem Expr.erases_program (e : Expr) :
    ∃ f, Erases e.program.code e.ungrouped.program.code f ∧
      e.program.start < e.program.code.size ∧ f e.program.start = e.ungrouped.program.start := by
  have hempty : Erases #[] #[] id := by
    refine ⟨?_, ?_, ?_, ?_⟩ <;> simp
  have hmatched := hempty.push (a := .matched) rfl nofun
  obtain ⟨g, hg⟩ := e.same_code _ _ _ 0 hmatched (by simp)
  rw [Array.size_empty, Function.update_self] at hg
  exact ⟨g, hg.erases, hg.start_lt, hg.start.symm⟩

end SoftFail.Regex
