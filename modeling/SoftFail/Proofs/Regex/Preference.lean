import Mathlib.Order.Lattice
import SoftFail.Proofs.Regex.Search

/-! What a search prefers. A thread leads to the match of the first way on that leads to one. All
threads are followed side by side, and to no instruction twice at one place, but the match that is
found is the one that the first of them leads to. -/

namespace SoftFail.Regex

/-- Where a thread leads: to a match or to none. The number is that of the instructions on its
longest way to a character. -/
inductive Leads (code : Code) : Cursor → Thread → ℕ → Option Match → Prop where
  | taken {here : Cursor} {t : Thread} {s : CharSet} {next : ℕ} {c : Char} {rest : List Char}
      {n : ℕ} {r : Option Match} (hi : code[t.pc]? = some (.set s next))
      (hrest : here.rest = c :: rest) (hc : s.contains c.toNat = true)
      (h : Leads code ⟨some c, here.offset + 1, rest⟩ { t with pc := next } n r) :
      Leads code here t 0 r
  | stuck {here : Cursor} {t : Thread} {s : CharSet} {next : ℕ}
      (hi : code[t.pc]? = some (.set s next))
      (hc : ∀ c ∈ here.rest.head?, s.contains c.toNat = false) : Leads code here t 0 none
  | matched {here : Cursor} {t : Thread} (hi : code[t.pc]? = some .matched) :
      Leads code here t 0 (some ⟨t.start.span here, t.group, here⟩)
  | barred {here : Cursor} {t : Thread} {i : Instr} (hi : code[t.pc]? = some i)
      (hon : i.goesOn = true) (hways : i.ways here t = []) : Leads code here t 0 none
  | one {here : Cursor} {t u : Thread} {i : Instr} {n : ℕ} {r : Option Match}
      (hi : code[t.pc]? = some i) (hon : i.goesOn = true) (hways : i.ways here t = [u])
      (h : Leads code here u n r) : Leads code here t (n + 1) r
  | two {here : Cursor} {t u v : Thread} {i : Instr} {n m : ℕ} {r q : Option Match}
      (hi : code[t.pc]? = some i) (hon : i.goesOn = true) (hways : i.ways here t = [u, v])
      (hu : Leads code here u n r) (hv : Leads code here v m q) :
      Leads code here t (max n m + 1) (r.or q)

variable {code : Code} {here : Cursor} {t u : Thread} {i : Instr} {n m : ℕ} {r q : Option Match}

theorem Instr.map_pc_ways (i : Instr) (here : Cursor) (t u : Thread) :
    (i.ways here t).map Thread.pc = (i.ways here u).map Thread.pc := by
  cases i with
  | place c next =>
    rw [ways, ways]
    split <;> rfl
  | _ => rfl

namespace Leads

theorem of_set {s : CharSet} {next : ℕ} (h : Leads code here t n r)
    (hi : code[t.pc]? = some (.set s next)) :
    n = 0 ∧ ((∃ c rest m, here.rest = c :: rest ∧ s.contains c.toNat = true ∧
      Leads code ⟨some c, here.offset + 1, rest⟩ { t with pc := next } m r) ∨
      (∀ c ∈ here.rest.head?, s.contains c.toNat = false) ∧ r = none) := by
  cases h with
  | taken hi' hrest hc h =>
    rw [hi] at hi'
    cases hi'
    exact ⟨rfl, .inl ⟨_, _, _, hrest, hc, h⟩⟩
  | stuck hi' hc =>
    rw [hi] at hi'
    cases hi'
    exact ⟨rfl, .inr ⟨hc, rfl⟩⟩
  | matched hi' =>
    rw [hi] at hi'
    cases hi'
  | barred hi' hon | one hi' hon | two hi' hon =>
    rw [hi] at hi'
    cases hi'
    cases hon

theorem of_matched (h : Leads code here t n r) (hi : code[t.pc]? = some .matched) :
    n = 0 ∧ r = some ⟨t.start.span here, t.group, here⟩ := by
  cases h with
  | matched => exact ⟨rfl, rfl⟩
  | taken hi' | stuck hi' =>
    rw [hi] at hi'
    cases hi'
  | barred hi' hon | one hi' hon | two hi' hon =>
    rw [hi] at hi'
    cases hi'
    cases hon

theorem of_goesOn (h : Leads code here t n r) (hi : code[t.pc]? = some i)
    (hon : i.goesOn = true) :
    i.ways here t = [] ∧ n = 0 ∧ r = none ∨
      (∃ u k, i.ways here t = [u] ∧ Leads code here u k r ∧ n = k + 1) ∨
      ∃ u v k k' r₁ r₂, i.ways here t = [u, v] ∧ Leads code here u k r₁ ∧ Leads code here v k' r₂ ∧
        n = max k k' + 1 ∧ r = r₁.or r₂ := by
  cases h with
  | taken hi' | stuck hi' | matched hi' =>
    rw [hi] at hi'
    cases hi'
    cases hon
  | barred hi' _ hways =>
    rw [hi] at hi'
    cases hi'
    exact .inl ⟨hways, rfl, rfl⟩
  | one hi' _ hways h =>
    rw [hi] at hi'
    cases hi'
    exact .inr (.inl ⟨_, _, hways, h, rfl⟩)
  | two hi' _ hways hu hv =>
    rw [hi] at hi'
    cases hi'
    exact .inr (.inr ⟨_, _, _, _, _, _, hways, hu, hv, rfl, rfl⟩)

theorem same (h : Leads code here t n r) (h' : Leads code here u m q) (hpc : t.pc = u.pc) :
    n = m ∧ r.isSome = q.isSome ∧ (t = u → r = q) := by
  induction h generalizing u m q with
  | taken hi hrest hc _ ih =>
    obtain ⟨rfl, ⟨c, rest, k, hrest', -, h'⟩ | ⟨hc', -⟩⟩ := h'.of_set (hpc ▸ hi)
    · rw [hrest] at hrest'
      cases hrest'
      obtain ⟨-, hsome, heq⟩ := ih h' rfl
      exact ⟨rfl, hsome, fun htu => heq (by rw [htu])⟩
    · rw [hrest] at hc'
      exact absurd (hc' _ rfl) (by simp [hc])
  | stuck hi hc =>
    obtain ⟨rfl, ⟨c, rest, k, hrest, hc', -⟩ | ⟨-, rfl⟩⟩ := h'.of_set (hpc ▸ hi)
    · rw [hrest] at hc
      exact absurd (hc _ rfl) (by simp [hc'])
    · exact ⟨rfl, rfl, fun _ => rfl⟩
  | matched hi =>
    obtain ⟨rfl, rfl⟩ := h'.of_matched (hpc ▸ hi)
    exact ⟨rfl, rfl, fun htu => by rw [htu]⟩
  | @barred here t i hi hon hways =>
    have hpcs := i.map_pc_ways here t u
    rcases h'.of_goesOn (hpc ▸ hi) hon with ⟨-, rfl, rfl⟩ | ⟨_, _, hways', -⟩ |
      ⟨_, _, _, _, _, _, hways', -⟩
    · exact ⟨rfl, rfl, fun _ => rfl⟩
    all_goals
      rw [hways, hways'] at hpcs
      cases hpcs
  | @one here t v i n r hi hon hways _ ih =>
    have hpcs := i.map_pc_ways here t u
    rw [hways] at hpcs
    rcases h'.of_goesOn (hpc ▸ hi) hon with ⟨hways', -⟩ | ⟨_, _, hways', hv, rfl⟩ |
      ⟨_, _, _, _, _, _, hways', -⟩ <;> rw [hways'] at hpcs
    · cases hpcs
    · obtain ⟨rfl, hsome, heq⟩ := ih hv (List.cons.inj hpcs).1
      refine ⟨rfl, hsome, fun htu => heq ?_⟩
      rw [htu, hways'] at hways
      exact (List.cons.inj hways).1.symm
    · cases (List.cons.inj hpcs).2
  | @two here t v w i n m r q hi hon hways _ _ ihv ihw =>
    have hpcs := i.map_pc_ways here t u
    rw [hways] at hpcs
    rcases h'.of_goesOn (hpc ▸ hi) hon with ⟨hways', -⟩ | ⟨_, _, hways', -⟩ |
      ⟨_, _, _, _, _, _, hways', hv, hw, rfl, rfl⟩ <;> rw [hways'] at hpcs
    · cases hpcs
    · cases (List.cons.inj hpcs).2
    · obtain ⟨hpcv, hpcs⟩ := List.cons.inj hpcs
      obtain ⟨rfl, hsomev, heqv⟩ := ihv hv hpcv
      obtain ⟨rfl, hsomew, heqw⟩ := ihw hw (List.cons.inj hpcs).1
      refine ⟨rfl, by rw [Option.isSome_or, Option.isSome_or, hsomev, hsomew], fun htu => ?_⟩
      rw [htu, hways'] at hways
      cases hways
      rw [heqv rfl, heqw rfl]

end Leads

/-! Answers: where threads lead, of those that lead somewhere. -/

def Settled (code : Code) (here : Cursor) (t : Thread) : Prop := ∃ n r, Leads code here t n r

open Classical in
noncomputable def answer (code : Code) (here : Cursor) (t : Thread) : Option Match :=
  if h : Settled code here t then h.choose_spec.choose else none

open Classical in
noncomputable def height (code : Code) (here : Cursor) (t : Thread) : ℕ :=
  if h : Settled code here t then h.choose else 0

theorem Leads.settled (h : Leads code here t n r) : Settled code here t := ⟨n, r, h⟩

theorem Settled.leads (h : Settled code here t) :
    Leads code here t (height code here t) (answer code here t) := by
  rw [height, answer, dif_pos h, dif_pos h]
  exact h.choose_spec.choose_spec

theorem Settled.instr (h : Settled code here t) : ∃ i, code[t.pc]? = some i := by
  obtain ⟨n, r, h⟩ := h
  cases h with
  | taken hi | stuck hi | matched hi | barred hi | one hi | two hi => exact ⟨_, hi⟩

theorem Leads.answer_eq (h : Leads code here t n r) : answer code here t = r :=
  (h.settled.leads.same h rfl).2.2 rfl

theorem Leads.height_eq (h : Leads code here t n r) : height code here t = n :=
  (h.settled.leads.same h rfl).1

theorem Settled.congr (h : Settled code here t) (h' : Settled code here u) (hpc : t.pc = u.pc) :
    height code here t = height code here u ∧
      (answer code here t).isSome = (answer code here u).isSome :=
  have hsame := h.leads.same h'.leads hpc
  ⟨hsame.1, hsame.2.1⟩

theorem Settled.ways (h : Settled code here t) (hi : code[t.pc]? = some i)
    (hon : i.goesOn = true) :
    (∀ u ∈ i.ways here t, Settled code here u ∧ height code here u < height code here t) ∧
      answer code here t = (i.ways here t).findSome? (answer code here) := by
  rcases h.leads.of_goesOn hi hon with ⟨hways, -, hr⟩ | ⟨u, k, hways, hu, hn⟩ |
    ⟨u, v, k, k', r, q, hways, hu, hv, hn, hr⟩ <;> rw [hways]
  · exact ⟨List.forall_mem_nil _, hr⟩
  · refine ⟨List.forall_mem_singleton.2 ⟨hu.settled, ?_⟩, ?_⟩
    · rw [hn, hu.height_eq]
      exact Nat.lt_succ_self k
    · rw [List.findSome?_singleton, hu.answer_eq]
  · refine ⟨List.forall_mem_cons.2 ⟨⟨hu.settled, ?_⟩, List.forall_mem_singleton.2 ⟨hv.settled, ?_⟩⟩,
      ?_⟩
    · rw [hn, hu.height_eq]
      exact Nat.lt_succ_of_le (le_max_left k k')
    · rw [hn, hv.height_eq]
      exact Nat.lt_succ_of_le (le_max_right k k')
    · rw [hr, List.findSome?_cons, List.findSome?_singleton, hu.answer_eq, hv.answer_eq]
      cases r <;> rfl

namespace Program

variable {p : Program} {threads done : List Thread} {seen : Array Bool} {fuel : ℕ}

def AnyMatch (code : Code) (here : Cursor) (threads : List Thread) : Prop :=
  ∃ t ∈ threads, (answer code here t).isSome = true

/-- A thread that leads to a match has come to a character, or stands in front of all threads that
are `n` instructions away from one or more. -/
def Reached (code : Code) (here : Cursor) (threads done : List Thread) (n : ℕ) : Prop :=
  AnyMatch code here done ∨ ∃ front back, threads = front ++ back ∧
    (∀ t ∈ front, height code here t < n) ∧ AnyMatch code here front

/-- What was come to and leads to a match is reached. -/
def Covered (code : Code) (here : Cursor) (threads : List Thread) (seen : Array Bool)
    (done : List Thread) : Prop :=
  ∀ t, Settled code here t → (answer code here t).isSome = true → seen[t.pc]? = some true →
    Reached code here threads done (height code here t)

theorem seen_mark {pc k : ℕ} (h : (seen.setIfInBounds pc true)[k]? = some true) :
    k = pc ∨ seen[k]? = some true := by
  rw [Array.getElem?_setIfInBounds] at h
  split at h
  next hk => exact .inl hk.symm
  next => exact .inr h

theorem Reached.step {done' : List Thread} (ways : List Thread)
    (h : Reached p.code here (t :: threads) done n)
    (hdone : AnyMatch p.code here done → AnyMatch p.code here done')
    (hheight : ∀ u ∈ ways, height p.code here u ≤ height p.code here t)
    (hways : (answer p.code here t).isSome = true →
      AnyMatch p.code here done' ∨ AnyMatch p.code here ways) :
    Reached p.code here (ways ++ threads) done' n := by
  rcases h with hmatch | ⟨front, back, hthreads, hlt, u, hu, hsome⟩
  · exact .inl (hdone hmatch)
  cases front with
  | nil => cases hu
  | cons v front =>
    obtain ⟨rfl, rfl⟩ := List.cons.inj hthreads
    obtain ⟨ht, hlt⟩ := List.forall_mem_cons.1 hlt
    have hfront : ∀ u ∈ ways ++ front, height p.code here u < n :=
      List.forall_mem_append.2 ⟨fun u hu => Nat.lt_of_le_of_lt (hheight u hu) ht, hlt⟩
    have hin (hmatch : AnyMatch p.code here (ways ++ front)) :
        Reached p.code here (ways ++ (front ++ back)) done' n :=
      .inr ⟨ways ++ front, back, (List.append_assoc _ _ _).symm, hfront, hmatch⟩
    rcases List.mem_cons.1 hu with rfl | hu
    · rcases hways hsome with hmatch | ⟨x, hx, hsome⟩
      · exact .inl hmatch
      · exact hin ⟨x, List.mem_append_left _ hx, hsome⟩
    · exact hin ⟨u, List.mem_append_right _ hu, hsome⟩

namespace Covered

/-- A thread that comes to an instruction again is not missed. -/
theorem anyMatch_done (h : Covered p.code here (t :: threads) seen done)
    (ht : Settled p.code here t) (hseen : seen[t.pc]? = some true)
    (hsome : (answer p.code here t).isSome = true) : AnyMatch p.code here done := by
  refine (h t ht hsome hseen).resolve_right ?_
  rintro ⟨front, back, hthreads, hlt, u, hu, -⟩
  cases front with
  | nil => cases hu
  | cons v front =>
    obtain ⟨rfl, -⟩ := List.cons.inj hthreads
    exact absurd (hlt t List.mem_cons_self) (Nat.lt_irrefl _)

theorem drop (h : Covered p.code here (t :: threads) seen done) (ht : Settled p.code here t)
    (hseen : seen[t.pc]? = some true) : Covered p.code here threads seen done :=
  fun v hv hsome hv' => (h v hv hsome hv').step [] id (List.forall_mem_nil _)
    fun hsome => .inl (h.anyMatch_done ht hseen hsome)

theorem mark {done' : List Thread} (ways : List Thread)
    (h : Covered p.code here (t :: threads) seen done)
    (ht : Settled p.code here t)
    (hdone : AnyMatch p.code here done → AnyMatch p.code here done')
    (hheight : ∀ u ∈ ways, height p.code here u < height p.code here t)
    (hways : (answer p.code here t).isSome = true →
      AnyMatch p.code here done' ∨ AnyMatch p.code here ways) :
    Covered p.code here (ways ++ threads) (seen.setIfInBounds t.pc true) done' := by
  intro v hv hsome hseen
  rcases seen_mark hseen with hpc | hseen
  · obtain ⟨hheightv, hanswer⟩ := hv.congr ht hpc
    rw [hheightv]
    exact (hways (hanswer ▸ hsome)).imp id fun hmatch => ⟨ways, threads, rfl, hheight, hmatch⟩
  · exact (h v hv hsome hseen).step ways hdone (fun u hu => Nat.le_of_lt (hheight u hu)) hways

end Covered

theorem findSome?_cons_eq_or (f : Thread → Option Match) (t : Thread) (threads : List Thread) :
    (t :: threads).findSome? f = (f t).or (threads.findSome? f) := by
  rw [List.findSome?_cons]
  cases f t <;> rfl

theorem findSome?_append_cons (f : Thread → Option Match) {front back : List Thread}
    (h : (f t).isSome = true → ∃ u ∈ front, (f u).isSome = true) :
    (front ++ t :: back).findSome? f = (front ++ back).findSome? f := by
  rw [List.findSome?_append, List.findSome?_append, findSome?_cons_eq_or, ← Option.or_assoc]
  cases ht : f t with
  | none => rw [Option.or_none]
  | some m =>
    obtain ⟨m', hm'⟩ := Option.isSome_iff_exists.1
      (List.findSome?_isSome_iff.2 (h (by rw [ht]; rfl)))
    rw [hm', Option.some_or]

/-- Following threads finds the first answer of all that there are. -/
theorem follow_answers (hsize : seen.size = p.code.size)
    (hfuel : threads.length + 2 * seen.count false ≤ fuel)
    (hthreads : ∀ t ∈ threads, Settled p.code here t) (hdone : ∀ t ∈ done, Settled p.code here t)
    (hseen : Covered p.code here threads seen done) :
    (∀ t ∈ (p.follow here fuel threads seen done).1, Settled p.code here t) ∧
      (done.reverse ++ threads).findSome? (answer p.code here) =
        ((p.follow here fuel threads seen done).1.findSome? (answer p.code here)).or
          (p.follow here fuel threads seen done).2 := by
  induction fuel generalizing threads seen done with
  | zero =>
    obtain rfl : threads = [] := List.length_eq_zero_iff.1 (by omega)
    rw [follow_nil, List.append_nil, Option.or_none]
    exact ⟨fun t ht => hdone t (List.mem_reverse.1 ht), rfl⟩
  | succ fuel ih =>
    obtain _ | ⟨t, threads⟩ := threads
    · rw [follow_nil, List.append_nil, Option.or_none]
      exact ⟨fun t ht => hdone t (List.mem_reverse.1 ht), rfl⟩
    obtain ⟨ht, hthreads⟩ := List.forall_mem_cons.1 hthreads
    rw [List.length_cons] at hfuel
    obtain ⟨i, hi⟩ := ht.instr
    obtain ⟨b, hb⟩ : ∃ b, seen[t.pc]? = some b :=
      ⟨_, Array.getElem?_eq_getElem (hsize ▸ Code.lt_of_getElem?_eq hi)⟩
    have hsize' : (seen.setIfInBounds t.pc true).size = p.code.size :=
      Array.size_setIfInBounds.trans hsize
    cases b with
    | true =>
      rw [follow_of_seen (by rw [hb]; decide), findSome?_append_cons]
      · exact ih hsize (by omega) hthreads hdone (hseen.drop ht hb)
      · intro hsome
        obtain ⟨u, hu, husome⟩ := hseen.anyMatch_done ht hb hsome
        exact ⟨u, List.mem_reverse.2 hu, husome⟩
    | false =>
      have hcount := count_mark hb
      rcases i.cases_goesOn with ⟨s, next, rfl⟩ | rfl | hon
      · rw [follow_of_set hb hi, List.append_cons, ← List.reverse_cons]
        refine ih hsize' (by omega) hthreads (List.forall_mem_cons.2 ⟨ht, hdone⟩) ?_
        exact hseen.mark [] ht (fun ⟨u, hu, hsome⟩ => ⟨u, List.mem_cons_of_mem _ hu, hsome⟩)
          (List.forall_mem_nil _) fun hsome => .inl ⟨t, List.mem_cons_self, hsome⟩
      · rw [follow_of_matched hb hi, List.findSome?_append, findSome?_cons_eq_or,
          (ht.leads.of_matched hi).2, Option.some_or]
        exact ⟨fun t ht => hdone t (List.mem_reverse.1 ht), rfl⟩
      · obtain ⟨hways, hanswer⟩ := ht.ways hi hon
        have hlength := i.length_ways_le here t
        rw [follow_of_goesOn hb hi hon, List.findSome?_append, findSome?_cons_eq_or, hanswer,
          ← List.findSome?_append, ← List.findSome?_append]
        refine ih hsize' (by rw [List.length_append]; omega) ?_ hdone ?_
        · exact List.forall_mem_append.2 ⟨fun u hu => (hways u hu).1, hthreads⟩
        · refine hseen.mark (i.ways here t) ht id (fun u hu => (hways u hu).2) fun hsome => .inr ?_
          rw [hanswer] at hsome
          exact List.findSome?_isSome_iff.1 hsome

theorem followAt_answers (hthreads : ∀ t ∈ threads, Settled p.code here t) :
    (∀ t ∈ (p.followAt here threads).1, Settled p.code here t) ∧
      threads.findSome? (answer p.code here) =
        ((p.followAt here threads).1.findSome? (answer p.code here)).or
          (p.followAt here threads).2 := by
  refine follow_answers Array.size_replicate ?_ hthreads (List.forall_mem_nil _)
    fun t _ _ hseen => ?_
  · rw [Array.count_replicate_self]
    omega
  · rw [Array.getElem?_replicate] at hseen
    split at hseen <;> cases hseen

/-! From place to place. -/

theorem answer_of_taken {s : CharSet} {next : ℕ} {c : Char} {rest : List Char}
    (ht : Settled code here t) (hi : code[t.pc]? = some (.set s next))
    (hrest : here.rest = c :: rest) :
    if s.contains c.toNat then
      Settled code ⟨some c, here.offset + 1, rest⟩ { t with pc := next } ∧
        answer code here t = answer code ⟨some c, here.offset + 1, rest⟩ { t with pc := next }
    else answer code here t = none := by
  obtain ⟨-, ⟨c', rest', n, hrest', hc, h⟩ | ⟨hc, hnone⟩⟩ := ht.leads.of_set hi
  · rw [hrest] at hrest'
    cases hrest'
    rw [if_pos hc, h.answer_eq]
    exact ⟨h.settled, rfl⟩
  · rw [hrest] at hc
    rwa [if_neg (by rw [hc c rfl]; decide)]

theorem take_answers {c : Char} {rest : List Char} (hrest : here.rest = c :: rest)
    (hthreads : ∀ t ∈ threads, Settled p.code here t)
    (hset : ∀ t ∈ threads, ∃ s next, p.code[t.pc]? = some (.set s next)) :
    (∀ t ∈ p.take c threads, Settled p.code ⟨some c, here.offset + 1, rest⟩ t) ∧
      (p.take c threads).findSome? (answer p.code ⟨some c, here.offset + 1, rest⟩) =
        threads.findSome? (answer p.code here) := by
  induction threads with
  | nil => exact ⟨List.forall_mem_nil _, rfl⟩
  | cons t threads ih =>
    obtain ⟨ht, hthreads⟩ := List.forall_mem_cons.1 hthreads
    obtain ⟨⟨s, next, hi⟩, hset⟩ := List.forall_mem_cons.1 hset
    obtain ⟨hsettled, hfind⟩ := ih hthreads hset
    have htaken := answer_of_taken ht hi hrest
    rw [take, List.filterMap_cons, hi]
    dsimp only
    rw [findSome?_cons_eq_or]
    by_cases hc : s.contains c.toNat = true
    · rw [if_pos hc] at htaken ⊢
      refine ⟨List.forall_mem_cons.2 ⟨htaken.1, hsettled⟩, ?_⟩
      rw [findSome?_cons_eq_or, htaken.2, ← hfind]
      rfl
    · rw [if_neg hc] at htaken ⊢
      rw [htaken, Option.none_or]
      exact ⟨hsettled, hfind⟩

theorem answer_of_end (ht : Settled code here t) (hset : ∃ s next, code[t.pc]? = some (.set s next))
    (hrest : here.rest = []) : answer code here t = none := by
  obtain ⟨s, next, hi⟩ := hset
  obtain ⟨-, ⟨c, rest, n, hrest', -⟩ | ⟨-, hnone⟩⟩ := ht.leads.of_set hi
  · rw [hrest] at hrest'
    cases hrest'
  · exact hnone

end Program

/-- The first of the results at a place and those that follow it. -/
def leftmost (result : Cursor → Option Match) (before : Option Char) (offset : ℕ) :
    List Char → Option Match
  | [] => result ⟨before, offset, []⟩
  | c :: rest =>
    (result ⟨before, offset, c :: rest⟩).or (leftmost result (some c) (offset + 1) rest)

namespace Program

variable {p : Program} {threads : List Thread} {best : Option Match} {before : Option Char}
  {offset : ℕ} {rest : List Char}

noncomputable def answerAt (p : Program) (here : Cursor) : Option Match :=
  answer p.code here (.at here p.start)

theorem findSome?_threadsAt (here : Cursor) (q : Option Match) :
    ((p.threadsAt here threads best).findSome? (answer p.code here)).or (best.or q) =
      (threads.findSome? (answer p.code here)).or (best.or ((p.answerAt here).or q)) := by
  cases best with
  | none =>
    rw [threadsAt, if_pos (by rfl), List.findSome?_append, List.findSome?_singleton,
      Option.or_assoc, Option.none_or, Option.none_or]
    rfl
  | some m => rfl

/-- The search finds the match of the first place that has one, in the most preferred way. -/
theorem run_eq (hstart : ∀ here, Settled p.code here (.at here p.start))
    (hthreads : ∀ t ∈ threads, Settled p.code ⟨before, offset, rest⟩ t) :
    p.run threads best before offset rest =
      (threads.findSome? (answer p.code ⟨before, offset, rest⟩)).or
        (best.or (leftmost p.answerAt before offset rest)) := by
  have hall {here : Cursor} {threads : List Thread} (best : Option Match)
      (h : ∀ t ∈ threads, Settled p.code here t) :
      ∀ t ∈ p.threadsAt here threads best, Settled p.code here t := fun t ht =>
    (mem_threadsAt ht).elim (h t) fun h => h ▸ hstart here
  induction rest generalizing threads best before offset with
  | nil =>
    rw [leftmost, ← Option.or_none (o := p.answerAt _), ← findSome?_threadsAt, Option.or_none]
    by_cases hnil : p.threadsAt ⟨before, offset, []⟩ threads best = []
    · rw [run_of_nil hnil, hnil, List.findSome?_nil, Option.none_or]
    · obtain ⟨hleft, hfind⟩ := followAt_answers (hall best hthreads)
      have hend : (p.followAt ⟨before, offset, []⟩
          (p.threadsAt ⟨before, offset, []⟩ threads best)).1.findSome?
            (answer p.code ⟨before, offset, []⟩) = none :=
        List.findSome?_eq_none_iff.2 fun t ht =>
          answer_of_end (hleft t ht) (set_of_mem_followAt ht) rfl
      rw [run_nil hnil, hfind, hend, Option.none_or, Option.orElse_eq_or]
  | cons c rest ih =>
    rw [leftmost, ← findSome?_threadsAt]
    by_cases hnil : p.threadsAt ⟨before, offset, c :: rest⟩ threads best = []
    · rw [run_of_nil hnil, hnil, List.findSome?_nil, Option.none_or]
      cases best with
      | none =>
        rw [threadsAt, if_pos (by rfl)] at hnil
        cases (List.append_eq_nil_iff.1 hnil).2
      | some m => rfl
    · obtain ⟨hleft, hfind⟩ := followAt_answers (hall best hthreads)
      have hrest : (⟨before, offset, c :: rest⟩ : Cursor).rest = c :: rest := rfl
      obtain ⟨hsettled, htake⟩ := take_answers hrest hleft fun t => set_of_mem_followAt
      rw [run_cons hnil, ih hsettled, htake, Option.orElse_eq_or, hfind, Option.or_assoc,
        Option.or_assoc]

theorem first?_eq (hstart : ∀ here, Settled p.code here (.at here p.start)) (from_ : Cursor) :
    p.first? from_ = leftmost p.answerAt from_.before from_.offset from_.rest := by
  rw [first?, run_eq hstart (List.forall_mem_nil _), List.findSome?_nil, Option.none_or,
    Option.none_or]

end Program

end SoftFail.Regex
