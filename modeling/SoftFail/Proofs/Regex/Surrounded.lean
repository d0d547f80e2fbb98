import SoftFail.Proofs.Regex.Search

/-! A group around a whole expression takes part in every match, and is all of it. -/

namespace SoftFail.Regex

namespace Code

variable {code : Code} {low next t m : Nat} {a : Instr} {part : Nat → Code → Nat × Code}

def Reaches (low next : Nat) (code : Code) (t : Nat) : Prop :=
  t = next ∨ low ≤ t ∧ t < code.size

/-- From `low` on, no group begins or ends and nothing matches, and `next` is the only way out. -/
def Inside (low next : Nat) (code : Code) : Prop :=
  ∀ (i : Nat) (a : Instr), low ≤ i → code[i]? = some a →
    a.passed? = none ∧ a ≠ .matched ∧ ∀ t ∈ a.targets, Reaches low next code t

structure Stays (low next : Nat) (code : Code) (new : Nat × Code) : Prop where
  inside : Inside low next new.2
  reaches : Reaches low next new.2 new.1
  keeps : code.Keeps new.2

def Closed (part : Nat → Code → Nat × Code) : Prop :=
  ∀ (low next : Nat) (code : Code) (m : Nat), low ≤ code.size → Inside low next code →
    Reaches low next code m → Stays low next code (part m code)

theorem Reaches.mono {more : Code} (h : Reaches low next code t) (hkeeps : code.Keeps more) :
    Reaches low next more t :=
  h.imp_right fun ht => ⟨ht.1, Nat.lt_of_lt_of_le ht.2 hkeeps.size_le⟩

theorem Stays.refl (h : Inside low next code) (hm : Reaches low next code m) :
    Stays low next code (m, code) :=
  ⟨h, hm, fun _ _ ha => ha⟩

theorem Stays.trans {new newer : Nat × Code} (h : Stays low next code new)
    (h' : Stays low next new.2 newer) : Stays low next code newer :=
  ⟨h'.inside, h'.reaches, h.keeps.trans h'.keeps⟩

theorem stays_add (hlow : low ≤ code.size) (h : Inside low next code) (ha : a.passed? = none)
    (hmatched : a ≠ .matched) (htargets : ∀ t ∈ a.targets, Reaches low next code t) :
    Stays low next code (code.add a) := by
  have hkeeps := keeps_push code a
  refine ⟨fun i b hi hb => ?_, .inr ⟨hlow, by simp [add]⟩, hkeeps⟩
  rcases of_getElem?_push hb with ⟨-, rfl⟩ | ⟨-, hb⟩
  · exact ⟨ha, hmatched, fun t ht => (htargets t ht).mono hkeeps⟩
  · obtain ⟨hp, hne, hold⟩ := h i b hi hb
    exact ⟨hp, hne, fun t ht => (hold t ht).mono hkeeps⟩

theorem choice_ne_matched (greedy : Bool) (enter leave : Nat) :
    choice greedy enter leave ≠ .matched := by
  cases greedy <;> nofun

theorem stays_choice (hlow : low ≤ code.size) (h : Inside low next code) (greedy : Bool)
    {enter leave : Nat} (henter : Reaches low next code enter)
    (hleave : Reaches low next code leave) :
    Stays low next code (code.add (choice greedy enter leave)) :=
  stays_add hlow h (passed?_choice _ _ _) (choice_ne_matched _ _ _)
    (forall_mem_targets_choice.2 ⟨henter, hleave⟩)

theorem Closed.copies (h : Closed part) (k : Nat) : Closed (Code.copies part k) := by
  induction k with
  | zero => exact fun _ _ _ _ _ hinside hm => .refl hinside hm
  | succ k ih =>
    intro low next code m hlow hinside hm
    have hpart := h low next code m hlow hinside hm
    exact hpart.trans (ih _ _ _ _ (Nat.le_trans hlow hpart.keeps.size_le) hpart.inside
      hpart.reaches)

theorem Closed.options (h : Closed part) (greedy : Bool) (k : Nat) {follow : Nat}
    (hlow : low ≤ code.size) (hinside : Inside low next code) (hm : Reaches low next code m)
    (hfollow : Reaches low next code follow) :
    Stays low next code (Code.options part greedy m k follow code) := by
  induction k generalizing code follow with
  | zero => exact .refl hinside hfollow
  | succ k ih =>
    have hpart := h low next code follow hlow hinside hfollow
    have hlow' := Nat.le_trans hlow hpart.keeps.size_le
    have hchoice := hpart.trans
      (stays_choice hlow' hpart.inside greedy hpart.reaches (hm.mono hpart.keeps))
    exact hchoice.trans (ih (Nat.le_trans hlow hchoice.keeps.size_le) hchoice.inside
      (hm.mono hchoice.keeps) hchoice.reaches)

theorem Closed.loop (h : Closed part) (greedy : Bool) (hlow : low ≤ code.size)
    (hinside : Inside low next code) (hm : Reaches low next code m) :
    let new := Code.loop part greedy m code
    Stays low next code (new.1, new.2.2) ∧ Stays low next code (new.2.1, new.2.2) := by
  intro new
  -- Seen from the part, the choice is the only way out.
  have hpart : Stays (code.size + 1) code.size (code.push .matched)
      (part code.size (code.push .matched)) := by
    refine h _ _ _ _ (by simp) (fun i a hi ha => ?_) (.inl rfl)
    have := lt_of_getElem?_eq ha
    rw [Array.size_push] at this
    omega
  have hsize : new.2.2.size = (part code.size (code.push .matched)).2.size :=
    Array.size_setIfInBounds
  have hlt : code.size < new.2.2.size := by
    rw [hsize]
    exact Nat.lt_of_lt_of_le (by simp) hpart.keeps.size_le
  have hkeeps : code.Keeps new.2.2 := ((keeps_push code .matched).trans hpart.keeps).set _
  have hout {t : Nat} (ht : Reaches (code.size + 1) code.size
      (part code.size (code.push .matched)).2 t) : Reaches low next new.2.2 t := by
    rcases ht with rfl | ⟨ht, ht'⟩
    · exact .inr ⟨hlow, hlt⟩
    · exact .inr ⟨by omega, hsize ▸ ht'⟩
  have hnew : Inside low next new.2.2 := by
    intro i a hi ha
    rcases Nat.lt_trichotomy i code.size with hlt | rfl | hgt
    · rw [hkeeps.getElem?_eq hlt] at ha
      obtain ⟨hp, hne, htargets⟩ := hinside i a hi ha
      exact ⟨hp, hne, fun t ht => (htargets t ht).mono hkeeps⟩
    · obtain rfl : choice greedy (part code.size (code.push .matched)).1 m = a :=
        Option.some.inj ((Array.getElem?_setIfInBounds_self_of_lt (hsize ▸ hlt)).symm.trans ha)
      exact ⟨passed?_choice _ _ _, choice_ne_matched _ _ _,
        forall_mem_targets_choice.2 ⟨hout hpart.reaches, hm.mono hkeeps⟩⟩
    · obtain ⟨hp, hne, htargets⟩ := hpart.inside i a hgt
        ((Array.getElem?_setIfInBounds_ne (Nat.ne_of_lt hgt)).symm.trans ha)
      exact ⟨hp, hne, fun t ht => hout (htargets t ht)⟩
  exact ⟨⟨hnew, hout hpart.reaches, hkeeps⟩, ⟨hnew, .inr ⟨hlow, hlt⟩, hkeeps⟩⟩

end Code

open Code

theorem Expr.closed_code {e : Expr} (h : e.captures = false) : Closed e.code := by
  induction e with
  | empty => exact fun _ _ _ _ _ hinside hm => .refl hinside hm
  | set s =>
    exact fun _ _ _ n hlow hinside hm => stays_add hlow hinside (a := .set s n) rfl (by simp) (by
      simpa [Instr.targets] using hm)
  | place p =>
    exact fun _ _ _ n hlow hinside hm => stays_add hlow hinside (a := .place p n) rfl (by simp) (by
      simpa [Instr.targets] using hm)
  | seq a b iha ihb =>
    rw [captures, Bool.or_eq_false_iff] at h
    intro low next code m hlow hinside hm
    have hb := ihb h.2 low next code m hlow hinside hm
    exact hb.trans (iha h.1 _ _ _ _ (Nat.le_trans hlow hb.keeps.size_le) hb.inside hb.reaches)
  | alt a b iha ihb =>
    rw [captures, Bool.or_eq_false_iff] at h
    intro low next code m hlow hinside hm
    have ha := iha h.1 low next code m hlow hinside hm
    have hlow' := Nat.le_trans hlow ha.keeps.size_le
    have hb := ihb h.2 _ _ _ _ hlow' ha.inside (hm.mono ha.keeps)
    refine (ha.trans hb).trans (stays_add (Nat.le_trans hlow' hb.keeps.size_le) hb.inside
      (a := .split _ _) rfl (by simp) ?_)
    simpa [Instr.targets] using ⟨ha.reaches.mono hb.keeps, hb.reaches⟩
  | repeated e min max greedy ih =>
    intro low next code m hlow hinside hm
    have he := ih h
    cases max with
    | some max =>
      have hoptions := he.options greedy (max - min) hlow hinside hm hm
      exact hoptions.trans (he.copies min _ _ _ _ (Nat.le_trans hlow hoptions.keeps.size_le)
        hoptions.inside hoptions.reaches)
    | none =>
      obtain ⟨hstart, hagain⟩ := he.loop greedy hlow hinside hm
      have hlow' := Nat.le_trans hlow hstart.keeps.size_le
      cases min with
      | succ min => exact hstart.trans (he.copies min _ _ _ _ hlow' hstart.inside hstart.reaches)
      | zero =>
        rw [Expr.code]
        cases e.nullable with
        | false => exact hagain
        | true =>
          exact hstart.trans
            (stays_choice hlow' hstart.inside greedy hstart.reaches (hm.mono hstart.keeps))
  | capture => cases h

structure Program.IsGroup (p : Program) : Prop where
  matched : p.code[0]? = some .matched
  close : p.code[1]? = some (.closeGroup 0)
  opened : ∃ first, p.code[p.start]? = some (.openGroup first) ∧ 0 < first ∧ first < p.start
  inside (i : Nat) (a : Instr) : 1 < i → i < p.start → p.code[i]? = some a →
    a.passed? = none ∧ a ≠ .matched ∧ ∀ t ∈ a.targets, 0 < t ∧ t < p.start

theorem Expr.isGroup_program {e : Expr} (h : e.captures = false) :
    (Expr.capture 1 e).program.IsGroup := by
  have hbody := e.closed_code h 2 1 #[.matched, .closeGroup 0] 1 (by simp) (fun i a hi ha => by
    have := lt_of_getElem?_eq ha
    simp at this
    omega) (.inl rfl)
  generalize hnew : e.code 1 #[.matched, .closeGroup 0] = new at hbody
  have hprogram : (Expr.capture 1 e).program = ⟨new.2.push (.openGroup new.1), new.2.size⟩ := by
    rw [← hnew]
    rfl
  have hsize := hbody.keeps.size_le
  have hkeeps := hbody.keeps.trans (keeps_push new.2 (.openGroup new.1))
  rw [hprogram]
  refine ⟨hkeeps 0 _ rfl, hkeeps 1 _ rfl, ⟨new.1, Array.getElem?_push_size, ?_⟩,
    fun i a hi hlt ha => ?_⟩
  · have := hbody.reaches
    simp only [Reaches] at this ⊢
    simp at hsize
    omega
  · rcases of_getElem?_push ha with ⟨rfl, -⟩ | ⟨-, ha⟩
    · exact absurd hlt (Nat.lt_irrefl _)
    · obtain ⟨hp, hne, htargets⟩ := hbody.inside i a hi ha
      refine ⟨hp, hne, fun t ht => ?_⟩
      have := htargets t ht
      simp only [Reaches] at this ⊢
      simp at hsize
      omega

namespace Program

variable {p : Program} {here : Cursor}

inductive InGroup (p : Program) (here : Cursor) (t : Thread) : Prop where
  | before (hpc : t.pc = p.start) (hstart : t.start = here)
  | inside (hpc : 0 < t.pc ∧ t.pc < p.start) (hopened : t.opened = some t.start)
  | behind (hpc : t.pc = 0) (hgroup : t.group = some (t.start.span here))

theorem InGroup.cases_instr (hp : p.IsGroup) {t : Thread} {i : Instr} (ht : p.InGroup here t)
    (hi : p.code[t.pc]? = some i) :
    (∃ first, i = .openGroup first ∧ (0 < first ∧ first < p.start) ∧ t.start = here) ∨
    i = .closeGroup 0 ∧ t.opened = some t.start ∨
    (i.passed? = none ∧ i ≠ .matched ∧ (∀ n ∈ i.targets, 0 < n ∧ n < p.start) ∧
      t.opened = some t.start) ∨
    i = .matched ∧ t.group = some (t.start.span here) := by
  cases ht with
  | before hpc hstart =>
    obtain ⟨first, hfirst, hinside⟩ := hp.opened
    rw [hpc, hfirst] at hi
    exact .inl ⟨first, (Option.some.inj hi).symm, hinside, hstart⟩
  | inside hpc hopened =>
    by_cases hone : t.pc = 1
    · rw [hone, hp.close] at hi
      exact .inr (.inl ⟨(Option.some.inj hi).symm, hopened⟩)
    · obtain ⟨hpassed, hne, htargets⟩ := hp.inside t.pc i (by omega) hpc.2 hi
      exact .inr (.inr (.inl ⟨hpassed, hne, htargets, hopened⟩))
  | behind hpc hgroup =>
    rw [hpc, hp.matched] at hi
    exact .inr (.inr (.inr ⟨(Option.some.inj hi).symm, hgroup⟩))

theorem IsGroup.invariant (hp : p.IsGroup) :
    p.Invariant p.InGroup fun m => m.group = some m.whole where
  start here := .before rfl rfl
  ways here t i ht hi u hu := by
    rcases ht.cases_instr hp hi with ⟨first, rfl, hfirst, hstart⟩ | ⟨rfl, hopened⟩ |
      ⟨hpassed, -, htargets, hopened⟩ | ⟨rfl, -⟩
    · obtain rfl := List.mem_singleton.1 hu
      exact .inside hfirst (congrArg some hstart.symm)
    · obtain rfl := List.mem_singleton.1 hu
      exact .behind rfl (by rw [hopened]; rfl)
    · have hpc := htargets u.pc (Instr.pc_mem_targets hu)
      rw [Instr.eq_of_mem_ways hpassed hu] at hpc ⊢
      exact .inside hpc hopened
    · cases hu
  take here there t s next ht hi := by
    rcases ht.cases_instr hp hi with ⟨_, ⟨⟩, -⟩ | ⟨⟨⟩, -⟩ | ⟨-, -, htargets, hopened⟩ | ⟨⟨⟩, -⟩
    exact .inside (htargets next (by simp [Instr.targets])) hopened
  matched here t ht hi := by
    rcases ht.cases_instr hp hi with ⟨_, ⟨⟩, -⟩ | ⟨⟨⟩, -⟩ | ⟨-, hne, -⟩ | ⟨-, hgroup⟩
    · exact absurd rfl hne
    · exact hgroup

end Program

/-- A group around a whole expression is all of each match. -/
theorem Expr.group_of_mem_allMatches {e : Expr} (h : e.captures = false) (s : List Char) :
    ∀ m ∈ (Expr.capture 1 e).program.allMatches s, m.group = some m.whole :=
  (isGroup_program h).invariant.allMatches s

end SoftFail.Regex
