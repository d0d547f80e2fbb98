import SoftFail.Proofs.Regex.Code
import SoftFail.Regex.Search

/-! Searching with and without groups: the matches are the same, in the same order. -/

namespace SoftFail.Regex

def Thread.bare (f : Nat → Nat) (t : Thread) : Thread := ⟨f t.pc, t.start, none, none⟩

def Match.bare (m : Match) : Match := { m with group := none }

def Instr.goesOn : Instr → Bool
  | set .. | matched => false
  | place .. | split .. | openGroup _ | closeGroup _ => true

theorem Instr.cases_goesOn (i : Instr) :
    (∃ s next, i = set s next) ∨ i = matched ∨ i.goesOn = true := by
  cases i <;> simp [goesOn]

def Instr.ways (here : Cursor) (t : Thread) : Instr → List Thread
  | set .. | matched => []
  | place c next => if c.holds here.before here.rest.head? then [{ t with pc := next }] else []
  | split first second => [{ t with pc := first }, { t with pc := second }]
  | openGroup next => [{ t with pc := next, opened := some here }]
  | closeGroup next => [{ t with pc := next, group := t.opened.map fun start => start.span here }]

variable {here : Cursor} {t : Thread} {i : Instr} {f : Nat → Nat} {threads done : List Thread}
  {seen seen' : Array Bool} {fuel : Nat}

theorem Instr.length_ways_le (here : Cursor) (t : Thread) (i : Instr) :
    (i.ways here t).length ≤ 2 := by
  cases i <;> simp only [ways] <;> (try split) <;> simp

theorem Instr.pc_mem_targets {u : Thread} (hu : u ∈ i.ways here t) : u.pc ∈ i.targets := by
  cases i with
  | set | matched => cases hu
  | place c next =>
    rw [ways] at hu
    split at hu
    · exact List.mem_map_of_mem hu
    · cases hu
  | split first second => exact List.mem_map_of_mem hu
  | openGroup | closeGroup => exact List.mem_map_of_mem hu

theorem Instr.ways_bare (hi : i.passed? = none) :
    (i.moved f).ways here (t.bare f) = (i.ways here t).map (Thread.bare f) := by
  cases i with
  | place c next => simp only [moved, ways, apply_ite (List.map _)]; rfl
  | openGroup | closeGroup => cases hi
  | _ => rfl

theorem Instr.eq_of_mem_ways (hi : i.passed? = none) {u : Thread} (hu : u ∈ i.ways here t) :
    u = { t with pc := u.pc } := by
  cases i with
  | set | matched => cases hu
  | place c next =>
    rw [ways] at hu
    split at hu
    · rw [List.mem_singleton.1 hu]
    · cases hu
  | split first second =>
    rw [ways, List.mem_cons, List.mem_singleton] at hu
    rcases hu with rfl | rfl <;> rfl
  | openGroup | closeGroup => cases hi

theorem map_orElse_bare (m best : Option Match) :
    ((m.map .bare).orElse fun _ => best.map .bare) = (m.orElse fun _ => best).map Match.bare := by
  cases m <;> rfl

namespace Program

variable {p : Program}

theorem follow_nil (p : Program) (here : Cursor) (fuel : Nat) (seen : Array Bool)
    (done : List Thread) : p.follow here fuel [] seen done = (done.reverse, none) := by
  cases fuel <;> rfl

theorem follow_of_seen (h : seen[t.pc]? ≠ some false) :
    p.follow here (fuel + 1) (t :: threads) seen done = p.follow here fuel threads seen done := by
  rw [follow, Array.getD_eq_getD_getElem?]
  cases hseen : seen[t.pc]? with
  | none => rfl
  | some b =>
    cases b with
    | false => exact absurd hseen h
    | true => rfl

/-! One step to an instruction that was not come to before. -/

theorem follow_of_set {s : CharSet} {next : Nat} (h : seen[t.pc]? = some false)
    (hi : p.code[t.pc]? = some (.set s next)) :
    p.follow here (fuel + 1) (t :: threads) seen done =
      p.follow here fuel threads (seen.setIfInBounds t.pc true) (t :: done) := by
  rw [follow, Array.getD_eq_getD_getElem?, h, hi]
  rfl

theorem follow_of_matched (h : seen[t.pc]? = some false) (hi : p.code[t.pc]? = some .matched) :
    p.follow here (fuel + 1) (t :: threads) seen done =
      (done.reverse, some ⟨t.start.span here, t.group, here⟩) := by
  rw [follow, Array.getD_eq_getD_getElem?, h, hi]
  rfl

theorem follow_of_goesOn (h : seen[t.pc]? = some false) (hi : p.code[t.pc]? = some i)
    (hon : i.goesOn = true) : p.follow here (fuel + 1) (t :: threads) seen done =
      p.follow here fuel (i.ways here t ++ threads) (seen.setIfInBounds t.pc true) done := by
  rw [follow, Array.getD_eq_getD_getElem?, h, hi]
  cases i with
  | set | matched => cases hon
  | place c next =>
    simp only [Instr.ways]
    cases c.holds here.before here.rest.head? <;> rfl
  | split | openGroup | closeGroup => rfl

/-- Where instructions were come to in a program and in the one without groups. Behind those at
which groups begin and end, only the one that is next may be missing. -/
structure SeenAs (code : Code) (f : Nat → Nat) (next? : Option Nat) (seen seen' : Array Bool) :
    Prop where
  size : seen.size = code.size
  kept (i : Nat) (a : Instr) : code[i]? = some a → a.passed? = none → seen'[f i]? = seen[i]?
  passed (i n : Nat) (a : Instr) : code[i]? = some a → a.passed? = some n →
    seen[i]? = some true → seen[n]? = some true ∨ next? = some n

namespace SeenAs

variable {code plain : Code} {next? : Option Nat} {pc n : Nat} {a : Instr}

theorem seen_of_seen (he : Code.Erases code plain f) (h : SeenAs code f (some pc) seen seen')
    (hpc : seen[pc]? = some true) : seen'[f pc]? = some true := by
  -- Down from `pc`, all is seen to the first instruction that is no end of a group.
  suffices hdown : ∀ i ≤ pc, seen[i]? = some true → seen'[f i]? = some true from
    hdown pc (Nat.le_refl pc) hpc
  intro i
  induction i using Nat.strongRecOn with
  | _ i ih =>
    intro hle hi
    have hsize : i < code.size := h.size ▸ (Array.getElem?_eq_some_iff.1 hi).1
    have ha := Array.getElem?_eq_getElem hsize
    rcases hp : code[i].passed? with _ | n
    · rw [h.kept i _ ha hp, hi]
    · obtain ⟨hn, hf⟩ := he.passed i n _ ha hp
      rcases h.passed i n _ ha hp hi with hseen | hnext
      · exact hf ▸ ih n hn (by omega) hseen
      · have := Option.some.inj hnext
        omega

theorem drop (h : SeenAs code f (some pc) seen seen') (hpc : seen[pc]? = some true) :
    SeenAs code f next? seen seen' :=
  ⟨h.size, h.kept, fun i n a ha hp hi => .inl ((h.passed i n a ha hp hi).elim id fun hn =>
    Option.some.inj hn ▸ hpc)⟩

theorem markKept (he : Code.Erases code plain f) (h : SeenAs code f (some pc) seen seen')
    (ha : code[pc]? = some a) (hp : a.passed? = none) :
    SeenAs code f next? (seen.setIfInBounds pc true) (seen'.setIfInBounds (f pc) true) := by
  have hpc : pc < seen.size := h.size ▸ Code.lt_of_getElem?_eq ha
  have hpc' : f pc < seen'.size := (Array.getElem?_eq_some_iff.1
    ((h.kept pc a ha hp).trans (Array.getElem?_eq_getElem hpc))).1
  have hmark {i : Nat} (hi : seen[i]? = some true ∨ i = pc) :
      (seen.setIfInBounds pc true)[i]? = some true := by
    rw [Array.getElem?_setIfInBounds]
    split
    · rfl
    next hne => exact hi.resolve_right (Ne.symm hne)
  refine ⟨by rw [Array.size_setIfInBounds, h.size], fun i b hb hbp => ?_,
    fun i n b hb hn hi => .inl (hmark ?_)⟩
  · by_cases hi : i = pc
    · subst hi
      rw [Array.getElem?_setIfInBounds_self_of_lt hpc,
        Array.getElem?_setIfInBounds_self_of_lt hpc']
    · rw [Array.getElem?_setIfInBounds_ne (Ne.symm hi), Array.getElem?_setIfInBounds_ne
        fun hf => hi (he.unique i pc b a hb hbp ha hp hf.symm)]
      exact h.kept i b hb hbp
  · have hne : pc ≠ i := by
      rintro rfl
      rw [ha] at hb
      rw [← Option.some.inj hb, hp] at hn
      cases hn
    rw [Array.getElem?_setIfInBounds_ne hne] at hi
    exact (h.passed i n b hb hn hi).imp_right fun hnext => (Option.some.inj hnext).symm

theorem markPassed (h : SeenAs code f (some pc) seen seen') (ha : code[pc]? = some a)
    (hp : a.passed? = some n) : SeenAs code f (some n) (seen.setIfInBounds pc true) seen' := by
  have hpc : pc < seen.size := h.size ▸ Code.lt_of_getElem?_eq ha
  refine ⟨by rw [Array.size_setIfInBounds, h.size], fun i b hb hbp => ?_,
    fun i m b hb hm hi => ?_⟩
  · rw [h.kept i b hb hbp, Array.getElem?_setIfInBounds_ne]
    rintro rfl
    rw [ha] at hb
    rw [← Option.some.inj hb, hp] at hbp
    cases hbp
  · by_cases hi' : pc = i
    · subst hi'
      rw [ha] at hb
      rw [← Option.some.inj hb, hp] at hm
      exact .inr hm
    · rw [Array.getElem?_setIfInBounds_ne hi'] at hi
      refine .inl ?_
      rw [Array.getElem?_setIfInBounds]
      split
      · rfl
      next hne => exact (h.passed i m b hb hm hi).resolve_right fun hm => hne (Option.some.inj hm)

end SeenAs

theorem count_mark {pc : Nat} (h : seen[pc]? = some false) :
    (seen.setIfInBounds pc true).count false + 1 = seen.count false := by
  obtain ⟨hlt, hfalse⟩ := Array.getElem?_eq_some_iff.1 h
  have hpos : 0 < seen.count false := Array.count_pos_iff.2 (Array.mem_of_getElem? h)
  rw [Array.setIfInBounds_def, dif_pos hlt, Array.count_set hlt, hfalse,
    if_pos (beq_self_eq_true false), if_neg (by decide : ¬(true == false) = true)]
  omega

variable {q : Program}

/-- Groups do not change how threads are followed. There is fuel enough for what was not seen. -/
theorem follow_bare (he : Code.Erases p.code q.code f) {fuel' : Nat}
    (hthreads : ∀ t ∈ threads, t.pc < p.code.size)
    (hseen : SeenAs p.code f (threads.head?.map Thread.pc) seen seen')
    (hfuel : threads.length + 2 * seen.count false ≤ fuel)
    (hfuel' : threads.length + 2 * seen'.count false ≤ fuel') :
    q.follow here fuel' (threads.map (.bare f)) seen' (done.map (.bare f)) =
      ((p.follow here fuel threads seen done).1.map (.bare f),
        (p.follow here fuel threads seen done).2.map .bare) := by
  induction fuel generalizing fuel' threads seen seen' done with
  | zero =>
    obtain rfl : threads = [] := List.length_eq_zero_iff.1 (by omega)
    simp only [List.map_nil, follow_nil, List.map_reverse, Option.map_none]
  | succ fuel ih =>
    obtain _ | ⟨t, threads⟩ := threads
    · simp only [List.map_nil, follow_nil, List.map_reverse, Option.map_none]
    obtain ⟨ht, hthreads⟩ := List.forall_mem_cons.1 hthreads
    rw [List.length_cons] at hfuel hfuel'
    obtain ⟨fuel', rfl⟩ : ∃ n, fuel' = n + 1 := ⟨fuel' - 1, by omega⟩
    obtain ⟨a, ha⟩ : ∃ a, p.code[t.pc]? = some a := ⟨_, Array.getElem?_eq_getElem ht⟩
    obtain ⟨b, hb⟩ : ∃ b, seen[t.pc]? = some b :=
      ⟨_, Array.getElem?_eq_getElem (hseen.size ▸ ht)⟩
    rw [List.map_cons]
    cases b with
    | true =>
      have hb' : seen'[(t.bare f).pc]? = some true := hseen.seen_of_seen he hb
      rw [follow_of_seen (t := t.bare f) (hb' ▸ by decide), follow_of_seen (hb ▸ by decide)]
      exact ih hthreads (hseen.drop hb) (by omega) (by omega)
    | false =>
      have hcount := count_mark hb
      rcases hp : a.passed? with _ | n
      · -- The instruction is in both programs.
        have ha' : q.code[(t.bare f).pc]? = some (a.moved f) := he.kept _ a ha hp
        have hb' : seen'[(t.bare f).pc]? = some false := (hseen.kept _ a ha hp).trans hb
        have hcount' := count_mark hb'
        rcases a.cases_goesOn with ⟨s, next, rfl⟩ | rfl | hon
        · rw [follow_of_set hb ha, follow_of_set hb' ha', ← List.map_cons]
          exact ih hthreads (hseen.markKept he ha hp) (by omega) (by omega)
        · rw [follow_of_matched hb ha, follow_of_matched hb' ha', List.map_reverse]
          rfl
        · have hon' : (a.moved f).goesOn = true := by cases a <;> first | rfl | cases hon
          rw [follow_of_goesOn hb ha hon, follow_of_goesOn hb' ha' hon', Instr.ways_bare hp,
            ← List.map_append]
          have hways := a.length_ways_le here t
          refine ih ?_ (hseen.markKept he ha hp) ?_ ?_
          · exact List.forall_mem_append.2 ⟨fun u hu =>
              he.targets _ a ha _ (Instr.pc_mem_targets hu), hthreads⟩
          all_goals rw [List.length_append]; omega
      · -- The instruction is in the first program alone.
        obtain ⟨hn, hf⟩ := he.passed _ n a ha hp
        obtain ⟨u, hu, rfl, hbare⟩ : ∃ u, a.ways here t = [u] ∧ u.pc = n ∧
            u.bare f = t.bare f := by
          cases a <;> simp_all [Instr.passed?, Instr.ways, Thread.bare]
        have hon : a.goesOn = true := by cases a <;> first | rfl | cases hp
        rw [follow_of_goesOn hb ha hon, hu, ← hbare]
        refine ih (List.forall_mem_cons.2 ⟨by omega, hthreads⟩) ?_ ?_ ?_
        · exact hseen.markPassed ha hp
        all_goals rw [List.length_cons]; omega

/-- What holds of threads wherever they go on holds of those that are left, which have come to
characters, and of the one that matches. -/
theorem follow_spec {Good : Thread → Prop}
    (hways : ∀ t i, Good t → p.code[t.pc]? = some i → ∀ u ∈ i.ways here t, Good u)
    (hthreads : ∀ t ∈ threads, Good t)
    (hdone : ∀ t ∈ done, Good t ∧ ∃ s next, p.code[t.pc]? = some (.set s next)) :
    (∀ t ∈ (p.follow here fuel threads seen done).1,
      Good t ∧ ∃ s next, p.code[t.pc]? = some (.set s next)) ∧
    ∀ m ∈ (p.follow here fuel threads seen done).2, ∃ t, Good t ∧
      p.code[t.pc]? = some .matched ∧ m = ⟨t.start.span here, t.group, here⟩ := by
  induction fuel generalizing threads seen done with
  | zero => exact ⟨fun t ht => hdone t (List.mem_reverse.1 ht), nofun⟩
  | succ fuel ih =>
    obtain _ | ⟨t, threads⟩ := threads
    · exact ⟨fun t ht => hdone t (List.mem_reverse.1 ht), nofun⟩
    obtain ⟨ht, hthreads⟩ := List.forall_mem_cons.1 hthreads
    by_cases hb : seen[t.pc]? = some false
    · rcases hi : p.code[t.pc]? with _ | i
      · rw [follow, Array.getD_eq_getD_getElem?, hb, hi]
        exact ih hthreads hdone
      · rcases i.cases_goesOn with ⟨s, next, rfl⟩ | rfl | hon
        · rw [follow_of_set hb hi]
          exact ih hthreads (List.forall_mem_cons.2 ⟨⟨ht, s, next, hi⟩, hdone⟩)
        · rw [follow_of_matched hb hi]
          refine ⟨fun t ht => hdone t (List.mem_reverse.1 ht), fun m hm => ?_⟩
          exact ⟨t, ht, hi, (Option.some.inj hm).symm⟩
        · rw [follow_of_goesOn hb hi hon]
          exact ih (List.forall_mem_append.2 ⟨hways t i ht hi, hthreads⟩) hdone
    · rw [follow_of_seen hb]
      exact ih hthreads hdone

/-! From places to whole texts. -/

theorem take_bare (he : Code.Erases p.code q.code f) (c : Char)
    (hset : ∀ t ∈ threads, ∃ s next, p.code[t.pc]? = some (.set s next)) :
    q.take c (threads.map (.bare f)) = (p.take c threads).map (.bare f) := by
  induction threads with
  | nil => rfl
  | cons t threads ih =>
    obtain ⟨⟨s, next, hi⟩, hset⟩ := List.forall_mem_cons.1 hset
    have hi' : q.code[(t.bare f).pc]? = some (.set s (f next)) := he.kept _ _ hi rfl
    rw [take, take] at ih ⊢
    rw [List.map_cons, List.filterMap_cons, List.filterMap_cons, ih hset, hi, hi']
    dsimp only
    cases s.contains c.toNat <;> rfl

theorem exists_of_mem_take {c : Char} (ht : t ∈ p.take c threads) :
    ∃ u ∈ threads, ∃ s next, p.code[u.pc]? = some (.set s next) ∧ t = { u with pc := next } := by
  obtain ⟨u, hu, hu'⟩ := List.mem_filterMap.1 ht
  split at hu'
  next s next hi =>
    split at hu'
    · exact ⟨u, hu, s, next, hi, (Option.some.inj hu').symm⟩
    · cases hu'
  · cases hu'

theorem pc_lt_of_mem_take (he : Code.Erases p.code q.code f) {c : Char}
    (ht : t ∈ p.take c threads) : t.pc < p.code.size := by
  obtain ⟨u, -, s, next, hi, rfl⟩ := exists_of_mem_take ht
  exact he.targets _ _ hi next (by simp [Instr.targets])

def threadsAt (p : Program) (here : Cursor) (threads : List Thread) (best : Option Match) :
    List Thread :=
  if best.isNone then threads ++ [.at here p.start] else threads

def followAt (p : Program) (here : Cursor) (threads : List Thread) : List Thread × Option Match :=
  p.follow here (threads.length + 2 * p.code.size + 1) threads
    (Array.replicate p.code.size false) []

variable {best : Option Match} {before : Option Char} {offset : Nat} {rest : List Char} {c : Char}

theorem run_of_nil (h : p.threadsAt ⟨before, offset, rest⟩ threads best = []) :
    p.run threads best before offset rest = best := by
  rw [threadsAt] at h
  unfold run
  simp only [h]

theorem run_nil (h : p.threadsAt ⟨before, offset, []⟩ threads best ≠ []) :
    p.run threads best before offset [] =
      (p.followAt ⟨before, offset, []⟩
        (p.threadsAt ⟨before, offset, []⟩ threads best)).2.orElse fun _ => best := by
  obtain ⟨t, ts, hts⟩ := List.exists_cons_of_ne_nil h
  rw [hts]
  rw [threadsAt] at hts
  unfold run
  simp only [hts]
  rfl

theorem run_cons (h : p.threadsAt ⟨before, offset, c :: rest⟩ threads best ≠ []) :
    p.run threads best before offset (c :: rest) =
      (let left := p.followAt ⟨before, offset, c :: rest⟩
        (p.threadsAt ⟨before, offset, c :: rest⟩ threads best)
      p.run (p.take c left.1) (left.2.orElse fun _ => best) (some c) (offset + 1) rest) := by
  obtain ⟨t, ts, hts⟩ := List.exists_cons_of_ne_nil h
  rw [hts]
  rw [threadsAt] at hts
  conv => lhs; unfold run
  simp only [hts]
  rfl

theorem threadsAt_bare (hstart : f p.start = q.start) (here : Cursor) (threads : List Thread)
    (best : Option Match) : q.threadsAt here (threads.map (.bare f)) (best.map .bare) =
      (p.threadsAt here threads best).map (.bare f) := by
  cases best with
  | none => simp [threadsAt, Thread.at, Thread.bare, hstart]
  | some m => rfl

theorem followAt_bare (he : Code.Erases p.code q.code f) (here : Cursor)
    (hthreads : ∀ t ∈ threads, t.pc < p.code.size) :
    q.followAt here (threads.map (.bare f)) =
      ((p.followAt here threads).1.map (.bare f), (p.followAt here threads).2.map .bare) := by
  have hseen : SeenAs p.code f (threads.head?.map Thread.pc)
      (Array.replicate p.code.size false) (Array.replicate q.code.size false) := by
    refine ⟨Array.size_replicate, fun i a ha _ => ?_, fun i n a _ _ hi => ?_⟩
    · have hi := Code.lt_of_getElem?_eq ha
      rw [Array.getElem?_replicate, Array.getElem?_replicate, if_pos hi, if_pos (he.lt hi)]
    · rw [Array.getElem?_replicate] at hi
      split at hi <;> cases hi
  rw [followAt, followAt, List.length_map, ← follow_bare he hthreads hseen, List.map_nil]
  all_goals rw [Array.count_replicate_self]; omega

theorem followAt_spec {Good : Thread → Prop}
    (hways : ∀ t i, Good t → p.code[t.pc]? = some i → ∀ u ∈ i.ways here t, Good u)
    (hthreads : ∀ t ∈ threads, Good t) :
    (∀ t ∈ (p.followAt here threads).1,
      Good t ∧ ∃ s next, p.code[t.pc]? = some (.set s next)) ∧
    ∀ m ∈ (p.followAt here threads).2, ∃ t, Good t ∧
      p.code[t.pc]? = some .matched ∧ m = ⟨t.start.span here, t.group, here⟩ :=
  follow_spec hways hthreads nofun

theorem set_of_mem_followAt (ht : t ∈ (p.followAt here threads).1) :
    ∃ s next, p.code[t.pc]? = some (.set s next) :=
  ((followAt_spec (fun _ _ _ _ _ _ => trivial) fun _ _ => trivial).1 t ht).2

theorem mem_threadsAt (ht : t ∈ p.threadsAt here threads best) :
    t ∈ threads ∨ t = .at here p.start := by
  rw [threadsAt] at ht
  split at ht
  · exact (List.mem_append.1 ht).imp_right List.mem_singleton.1
  · exact .inl ht

theorem run_bare (he : Code.Erases p.code q.code f) (hstart : p.start < p.code.size)
    (hstart' : f p.start = q.start) (hthreads : ∀ t ∈ threads, t.pc < p.code.size) :
    q.run (threads.map (.bare f)) (best.map .bare) before offset rest =
      (p.run threads best before offset rest).map .bare := by
  induction rest generalizing threads best before offset with
  | nil =>
    have hall := threadsAt_bare hstart' ⟨before, offset, []⟩ threads best
    by_cases hnil : p.threadsAt ⟨before, offset, []⟩ threads best = []
    · rw [run_of_nil hnil, run_of_nil (by rw [hall, hnil, List.map_nil])]
    · rw [run_nil hnil, run_nil (by rwa [hall, ne_eq, List.map_eq_nil_iff]), hall,
        followAt_bare he _ fun t ht => ?_, map_orElse_bare]
      exact (mem_threadsAt ht).elim (hthreads t) fun h => h ▸ hstart
  | cons c rest ih =>
    have hall := threadsAt_bare hstart' ⟨before, offset, c :: rest⟩ threads best
    by_cases hnil : p.threadsAt ⟨before, offset, c :: rest⟩ threads best = []
    · rw [run_of_nil hnil, run_of_nil (by rw [hall, hnil, List.map_nil])]
    · rw [run_cons hnil, run_cons (by rwa [hall, ne_eq, List.map_eq_nil_iff]), hall,
        followAt_bare he _ fun t ht => ?_]
      · dsimp only
        rw [take_bare he c fun t ht => (set_of_mem_followAt ht), map_orElse_bare]
        exact ih fun t ht => pc_lt_of_mem_take he ht
      · exact (mem_threadsAt ht).elim (hthreads t) fun h => h ▸ hstart

/-- What holds of threads all along, and of matches for that reason. -/
structure Invariant (p : Program) (Good : Cursor → Thread → Prop) (Fine : Match → Prop) : Prop where
  start (here : Cursor) : Good here (.at here p.start)
  ways (here : Cursor) (t : Thread) (i : Instr) : Good here t → p.code[t.pc]? = some i →
    ∀ u ∈ i.ways here t, Good here u
  take (here there : Cursor) (t : Thread) (s : CharSet) (next : Nat) : Good here t →
    p.code[t.pc]? = some (.set s next) → Good there { t with pc := next }
  matched (here : Cursor) (t : Thread) : Good here t → p.code[t.pc]? = some .matched →
    Fine ⟨t.start.span here, t.group, here⟩

namespace Invariant

variable {Good : Cursor → Thread → Prop} {Fine : Match → Prop}

theorem mem_take (h : p.Invariant Good Fine) {there : Cursor}
    (hthreads : ∀ t ∈ threads, Good here t) (ht : t ∈ p.take c threads) : Good there t := by
  obtain ⟨u, hu, s, next, hi, rfl⟩ := exists_of_mem_take ht
  exact h.take here there u s next (hthreads u hu) hi

theorem followAt (h : p.Invariant Good Fine) (best : Option Match)
    (hthreads : ∀ t ∈ threads, Good here t) :
    (∀ t ∈ (p.followAt here (p.threadsAt here threads best)).1, Good here t) ∧
      ∀ m ∈ (p.followAt here (p.threadsAt here threads best)).2, Fine m := by
  have hall : ∀ t ∈ p.threadsAt here threads best, Good here t := fun t ht =>
    (mem_threadsAt ht).elim (hthreads t) fun h' => h' ▸ h.start here
  obtain ⟨hleft, hfound⟩ := followAt_spec (h.ways here) hall
  refine ⟨fun t ht => (hleft t ht).1, fun m hm => ?_⟩
  obtain ⟨t, ht, hi, rfl⟩ := hfound m hm
  exact h.matched here t ht hi

theorem mem_orElse {found : Option Match} (hfound : ∀ m ∈ found, Fine m)
    (hbest : ∀ m ∈ best, Fine m) : ∀ m ∈ found.orElse fun _ => best, Fine m := by
  cases found with
  | none => exact hbest
  | some m => exact hfound

theorem run (h : p.Invariant Good Fine) (hthreads : ∀ t ∈ threads, Good ⟨before, offset, rest⟩ t)
    (hbest : ∀ m ∈ best, Fine m) : ∀ m ∈ p.run threads best before offset rest, Fine m := by
  induction rest generalizing threads best before offset with
  | nil =>
    by_cases hnil : p.threadsAt ⟨before, offset, []⟩ threads best = []
    · rwa [run_of_nil hnil]
    · rw [run_nil hnil]
      exact mem_orElse (h.followAt best hthreads).2 hbest
  | cons c rest ih =>
    by_cases hnil : p.threadsAt ⟨before, offset, c :: rest⟩ threads best = []
    · rwa [run_of_nil hnil]
    · rw [run_cons hnil]
      obtain ⟨hleft, hfound⟩ := h.followAt best hthreads
      exact ih (fun t ht => h.mem_take hleft ht) (mem_orElse hfound hbest)

theorem first? (h : p.Invariant Good Fine) (c : Cursor) : ∀ m ∈ p.first? c, Fine m :=
  h.run (List.forall_mem_nil _) nofun

theorem next? (h : p.Invariant Good Fine) (last : Option Nat) (c : Cursor) :
    ∀ m ∈ p.next? last c, Fine m := by
  intro m hm
  obtain ⟨n, hn, hm⟩ := Option.bind_eq_some_iff.1 hm
  split at hm
  · obtain ⟨c', -, hm⟩ := Option.bind_eq_some_iff.1 hm
    exact h.first? c' m hm
  · cases hm
    exact h.first? c _ hn

theorem allMatches (h : p.Invariant Good Fine) (s : List Char) : ∀ m ∈ p.allMatches s, Fine m := by
  suffices hfrom : ∀ fuel last c found, (∀ m ∈ found, Fine m) →
      ∀ m ∈ p.matchesFrom fuel last c found, Fine m from hfrom _ _ _ [] (List.forall_mem_nil _)
  intro fuel
  induction fuel with
  | zero => exact fun _ _ found hfound m hm => hfound m (List.mem_reverse.1 hm)
  | succ fuel ih =>
    intro last c found hfound m hm
    rw [matchesFrom] at hm
    cases hn : p.next? last c with
    | none =>
      rw [hn] at hm
      exact hfound m (List.mem_reverse.1 hm)
    | some n =>
      rw [hn] at hm
      exact ih _ _ _ (List.forall_mem_cons.2 ⟨h.next? last c n hn, hfound⟩) m hm

end Invariant

variable (he : Code.Erases p.code q.code f) (hstart : p.start < p.code.size)
  (hstart' : f p.start = q.start)

include he hstart hstart'

theorem first?_bare (c : Cursor) : q.first? c = (p.first? c).map .bare := by
  rw [first?, first?, ← run_bare he hstart hstart' (List.forall_mem_nil _), List.map_nil,
    Option.map_none]

theorem next?_bare (last : Option Nat) (c : Cursor) :
    q.next? last c = (p.next? last c).map .bare := by
  rw [next?, next?, first?_bare he hstart hstart']
  cases p.first? c with
  | none => rfl
  | some m =>
    have hempty : m.bare.whole.length = m.whole.length ∧ m.bare.stop = m.stop := ⟨rfl, rfl⟩
    simp only [Option.map_some, Option.bind_eq_bind, Option.bind_some, hempty]
    split
    · cases c.next? with
      | none => rfl
      | some c => exact first?_bare he hstart hstart' c
    · rfl

theorem matchesFrom_bare (fuel : Nat) (last : Option Nat) (c : Cursor) (found : List Match) :
    q.matchesFrom fuel last c (found.map .bare) =
      (p.matchesFrom fuel last c found).map .bare := by
  induction fuel generalizing last c found with
  | zero => exact List.map_reverse.symm
  | succ fuel ih =>
    rw [matchesFrom, matchesFrom, next?_bare he hstart hstart']
    cases p.next? last c with
    | none => exact List.map_reverse.symm
    | some m => exact ih _ _ (m :: found)

theorem allMatches_bare (s : List Char) : q.allMatches s = (p.allMatches s).map .bare :=
  matchesFrom_bare he hstart hstart' _ _ _ []

end Program

/-- Without groups an expression has the same matches. -/
theorem Expr.allMatches_ungrouped (e : Expr) (s : List Char) :
    e.ungrouped.program.allMatches s = (e.program.allMatches s).map .bare := by
  obtain ⟨f, he, hstart, hstart'⟩ := e.erases_program
  exact Program.allMatches_bare he hstart hstart' s

end SoftFail.Regex
