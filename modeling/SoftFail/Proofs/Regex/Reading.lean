import Mathlib.Logic.Function.Iterate
import SoftFail.Proofs.Regex.Code
import SoftFail.Proofs.Regex.Preference

/-! What an expression matches, read off the expression itself: the ways to match are tried one
after the other, and the first that leads to a match is taken. The search in the program of the
expression finds the same match. -/

namespace SoftFail.Regex

abbrev Onward := Cursor → Thread → Option Match

def prefer (greedy : Bool) (enter leave : Option Match) : Option Match :=
  if greedy then enter.or leave else leave.or enter

namespace Onward

def done (here : Cursor) (t : Thread) : Option Match :=
  some ⟨t.start.span here, t.group, here⟩

def take (s : CharSet) (next : Onward) (here : Cursor) (t : Thread) : Option Match :=
  match here.rest with
  | [] => none
  | c :: rest => if s.contains c.toNat then next ⟨some c, here.offset + 1, rest⟩ t else none

def place (p : Place) (next : Onward) (here : Cursor) (t : Thread) : Option Match :=
  if p.holds here.before here.rest.head? then next here t else none

def either (first second : Onward) (here : Cursor) (t : Thread) : Option Match :=
  (first here t).or (second here t)

def optional (greedy : Bool) (body : Onward → Onward) (next follow : Onward) (here : Cursor)
    (t : Thread) : Option Match :=
  prefer greedy (body follow here t) (next here t)

/-- The body any number of times. No time may leave off where it began. -/
def star (greedy : Bool) (body : Onward → Onward) (next : Onward) (here : Cursor) (t : Thread) :
    Option Match :=
  optional greedy body next (fun there u =>
    if _ : there.rest.length < here.rest.length then star greedy body next there u else none) here t
termination_by here.rest.length

def group (body : Onward → Onward) (next : Onward) (here : Cursor) (t : Thread) : Option Match :=
  body (fun there u => next there { u with group := u.opened.map fun start => start.span there })
    here { t with opened := some here }

end Onward

namespace Expr

def read : Expr → Onward → Onward
  | empty, next => next
  | set s, next => .take s next
  | place p, next => .place p next
  | seq a b, next => a.read (b.read next)
  | alt a b, next => .either (a.read next) (b.read next)
  | repeated e min (some max) greedy, next =>
    e.read^[min] ((Onward.optional greedy e.read next)^[max - min] next)
  | repeated e min none greedy, next => e.read^[min] (.star greedy e.read next)
  | capture 1 e, next => .group e.read next
  | capture _ e, next => e.read next

def at? (e : Expr) (here : Cursor) : Option Match := e.read .done here (.at here 0)

/-- Whether all that is repeated without end takes a character each time. -/
def advances : Expr → Bool
  | empty | set _ | place _ => true
  | seq a b | alt a b => a.advances && b.advances
  | repeated e _ max _ => e.advances && (max.isSome || !e.nullable)
  | capture _ e => e.advances

theorem read_capture_of_ne {i : ℕ} (hi : i ≠ 1) (e : Expr) : (capture i e).read = e.read := by
  funext next
  rw [read]
  exact hi

end Expr

namespace Code

variable {whole code more most : Code} {pc next follow n m : ℕ} {k k' : Onward} {greedy : Bool}
  {body : Onward → Onward} {new newer : ℕ × Code} {empty empty' : Bool}

/-- From `pc` on a program does as told wherever less than `n` characters are left. -/
def GoesOn (whole : Code) (pc : ℕ) (k : Onward) (n : ℕ) : Prop :=
  ∀ (here : Cursor) (t : Thread), here.rest.length < n →
    ∃ d, Leads whole here { t with pc := pc } d (k here t)

theorem GoesOn.mono (h : whole.GoesOn pc k n) (hmn : m ≤ n) : whole.GoesOn pc k m :=
  fun here t hlt => h here t (Nat.lt_of_lt_of_le hlt hmn)

def Holds (whole code more : Code) : Prop :=
  ∀ (i : ℕ) (a : Instr), code.size ≤ i → more[i]? = some a → whole[i]? = some a

theorem Holds.inner (h : whole.Holds code most) (hkeeps : more.Keeps most) :
    whole.Holds code more :=
  fun i a hi ha => h i a hi (hkeeps i a ha)

theorem Holds.outer (h : whole.Holds code most) (hkeeps : code.Keeps more) :
    whole.Holds more most :=
  fun i a hi => h i a (Nat.le_trans hkeeps.size_le hi)

theorem Holds.push {a : Instr} (h : whole.Holds code (code.push a)) : whole[code.size]? = some a :=
  h code.size a (Nat.le_refl _) Array.getElem?_push_size

theorem exists_leads_choice {here : Cursor} {t : Thread} {enter leave d d' : ℕ}
    {r q : Option Match} (hi : whole[pc]? = some (choice greedy enter leave))
    (henter : Leads whole here { t with pc := enter } d r)
    (hleave : Leads whole here { t with pc := leave } d' q) :
    ∃ d, Leads whole here { t with pc := pc } d (prefer greedy r q) := by
  cases greedy with
  | true => exact ⟨_, .two hi rfl rfl henter hleave⟩
  | false => exact ⟨_, .two hi rfl rfl hleave henter⟩

/-- What was put in front of `next` does what `body` says, and takes a character unless `empty`. -/
structure Does (body : Onward → Onward) (empty : Bool) (next : ℕ) (code : Code)
    (new : ℕ × Code) : Prop where
  keeps : code.Keeps new.2
  goesOn {whole : Code} {k : Onward} {n : ℕ} : whole.Holds code new.2 → whole.GoesOn next k n →
    whole.GoesOn new.1 (body k) (if empty then n else n + 1)

theorem Does.refl (next : ℕ) (code : Code) : Does id true next code (next, code) :=
  ⟨fun _ _ ha => ha, fun _ hk => hk⟩

theorem Does.trans {body' : Onward → Onward} (h : Does body empty next code new)
    (h' : Does body' empty' new.1 new.2 newer) :
    Does (body' ∘ body) (empty && empty') next code newer := by
  refine ⟨h.keeps.trans h'.keeps, fun hwhole hk => ?_⟩
  refine (h'.goesOn (hwhole.outer h.keeps) (h.goesOn (hwhole.inner h'.keeps) hk)).mono ?_
  cases empty <;> cases empty' <;> simp

variable {part : ℕ → Code → ℕ × Code}

theorem does_copies (h : ∀ next code, Does body empty next code (part next code)) (i : ℕ)
    (next : ℕ) (code : Code) :
    Does body^[i] (i = 0 || empty) next code (copies part i next code) := by
  induction i generalizing next code with
  | zero => exact .refl next code
  | succ i ih =>
    have htrans := (h next code).trans (ih (part next code).1 (part next code).2)
    rw [← Function.iterate_succ] at htrans
    have hempty : (empty && (decide (i = 0) || empty)) = (decide (i + 1 = 0) || empty) := by
      cases empty <;> simp
    exact hempty ▸ htrans

theorem keeps_options (h : ∀ next code, Does body empty next code (part next code))
    (greedy : Bool) (next i follow : ℕ) (code : Code) :
    code.Keeps (options part greedy next i follow code).2 := by
  induction i generalizing follow code with
  | zero => exact fun _ _ ha => ha
  | succ i ih => exact (h follow code).keeps.trans ((keeps_push _ _).trans (ih _ _))

theorem goesOn_options (h : ∀ next code, Does body empty next code (part next code)) {i : ℕ}
    (hwhole : whole.Holds code (options part greedy next i follow code).2)
    (hnext : whole.GoesOn next k n) (hfollow : whole.GoesOn follow k' n) :
    whole.GoesOn (options part greedy next i follow code).1
      ((Onward.optional greedy body k)^[i] k') n := by
  induction i generalizing follow code k' with
  | zero => exact hfollow
  | succ i ih =>
    have hpart := h follow code
    have hkeeps := keeps_options h greedy next i (part follow code).2.size
      ((part follow code).2.push (choice greedy (part follow code).1 next))
    have hchoice := ((hwhole.outer hpart.keeps).inner hkeeps).push
    have hbody := hpart.goesOn (hwhole.inner ((keeps_push _ _).trans hkeeps)) hfollow
    refine ih (hwhole.outer (hpart.keeps.trans (keeps_push _ _))) fun here t hlt => ?_
    obtain ⟨d, hd⟩ := hbody here t (by split <;> omega)
    obtain ⟨d', hd'⟩ := hnext here t hlt
    exact exists_leads_choice hchoice hd hd'

section Loop

variable (h : ∀ next code, Does body false next code (part next code))

include h

theorem keeps_loop (greedy : Bool) (next : ℕ) (code : Code) :
    code.Keeps (loop part greedy next code).2.2 :=
  ((keeps_push code .matched).trans (h _ _).keeps).set _

theorem Holds.loop (hwhole : whole.Holds code (loop part greedy next code).2.2) :
    whole.Holds (code.push .matched) (part code.size (code.push .matched)).2 ∧
      whole[code.size]? =
        some (choice greedy (part code.size (code.push .matched)).1 next) := by
  have hlt : code.size < (part code.size (code.push .matched)).2.size :=
    lt_of_getElem?_eq ((h _ _).keeps _ _ Array.getElem?_push_size)
  constructor
  · intro i a hi ha
    rw [Array.size_push] at hi
    refine hwhole i a (by omega) ?_
    rw [← ha]
    exact Array.getElem?_setIfInBounds_ne (by omega)
  · exact hwhole _ _ (Nat.le_refl _) (Array.getElem?_setIfInBounds_self_of_lt hlt)

theorem goesOn_again (hwhole : whole.Holds code (loop part greedy next code).2.2)
    (hnext : whole.GoesOn next k n) : whole.GoesOn code.size (Onward.star greedy body k) n := by
  obtain ⟨hpart, hchoice⟩ := hwhole.loop h
  -- The loop comes back with fewer characters left, however many there are.
  suffices hstar : ∀ m ≤ n, whole.GoesOn code.size (Onward.star greedy body k) m from
    hstar n (Nat.le_refl n)
  intro m
  induction m with
  | zero => exact fun _ here t hlt => absurd hlt (Nat.not_lt_zero _)
  | succ m ih =>
    intro hm here t hlt
    have hback : whole.GoesOn code.size (fun there u =>
        if _ : there.rest.length < here.rest.length then Onward.star greedy body k there u
        else none) here.rest.length := by
      intro there u hthere
      dsimp only
      rw [dif_pos hthere]
      exact ih (Nat.le_of_succ_le hm) there u (by omega)
    obtain ⟨d, hd⟩ := (h _ _).goesOn hpart hback here t (Nat.lt_succ_self _)
    obtain ⟨d', hd'⟩ := hnext here t (by omega)
    rw [Onward.star]
    exact exists_leads_choice hchoice hd hd'

theorem goesOn_loop (hwhole : whole.Holds code (loop part greedy next code).2.2)
    (hnext : whole.GoesOn next k n) : whole.GoesOn (loop part greedy next code).1
      (body (Onward.star greedy body k)) (n + 1) :=
  (h _ _).goesOn (hwhole.loop h).1 (goesOn_again h hwhole hnext)

end Loop

theorem does_star (h : ∀ next code, Does body false next code (part next code)) (greedy : Bool)
    (next : ℕ) (code : Code) :
    Does (.star greedy body) true next code (loop part greedy next code).2 :=
  ⟨keeps_loop h greedy next code, fun hwhole hk => goesOn_again h hwhole hk⟩

theorem does_loop (h : ∀ next code, Does body false next code (part next code)) (greedy : Bool)
    (next : ℕ) (code : Code) : Does (fun k => body (.star greedy body k)) false next code
      ((loop part greedy next code).1, (loop part greedy next code).2.2) :=
  ⟨keeps_loop h greedy next code, fun hwhole hk => goesOn_loop h hwhole hk⟩

theorem does_options (h : ∀ next code, Does body empty next code (part next code)) (greedy : Bool)
    (next i : ℕ) (code : Code) :
    Does (fun k => (Onward.optional greedy body k)^[i] k) true next code
      (options part greedy next i next code) :=
  ⟨keeps_options h greedy next i next code, fun hwhole hk => goesOn_options h hwhole hk hk⟩

theorem does_set (s : CharSet) (next : ℕ) (code : Code) :
    Does (.take s) false next code (code.add (.set s next)) := by
  refine ⟨keeps_push _ _, fun hwhole hk here t hlt => ?_⟩
  have hi := hwhole.push
  have hlt : here.rest.length < _ + 1 := hlt
  rw [Onward.take]
  split
  next hrest => exact ⟨_, .stuck hi (by rw [hrest]; nofun)⟩
  next c rest hrest =>
    rw [hrest, List.length_cons] at hlt
    cases hc : s.contains c.toNat with
    | true =>
      obtain ⟨d, hd⟩ := hk ⟨some c, here.offset + 1, rest⟩ t (Nat.lt_of_succ_lt_succ hlt)
      exact ⟨_, .taken hi hrest hc hd⟩
    | false => exact ⟨_, .stuck hi (by rw [hrest]; rintro _ ⟨⟩; exact hc)⟩

theorem does_place (p : Place) (next : ℕ) (code : Code) :
    Does (.place p) true next code (code.add (.place p next)) := by
  refine ⟨keeps_push _ _, fun hwhole hk here t hlt => ?_⟩
  have hi := hwhole.push
  obtain ⟨d, hd⟩ := hk here t hlt
  rw [Onward.place]
  split
  next hholds => exact ⟨_, .one hi rfl (if_pos hholds) hd⟩
  next hholds => exact ⟨_, .barred hi rfl (if_neg hholds)⟩

theorem does_either {body' : Onward → Onward} (h : Does body empty next code new)
    (h' : Does body' empty' next new.2 newer) :
    Does (fun k => .either (body k) (body' k)) (empty || empty') next code
      (newer.2.add (.split new.1 newer.1)) := by
  refine ⟨h.keeps.trans (h'.keeps.trans (keeps_push _ _)), fun {_ _ n} hwhole hk => ?_⟩
  have houter := hwhole.outer h.keeps
  have hsplit := (houter.outer h'.keeps).push
  have hfirst := h.goesOn (hwhole.inner (h'.keeps.trans (keeps_push _ _))) hk
  have hsecond := h'.goesOn (houter.inner (keeps_push _ _)) hk
  have hle : (if (empty || empty') then n else n + 1) ≤
      min (if empty then n else n + 1) (if empty' then n else n + 1) := by
    cases empty <;> cases empty' <;> simp
  obtain ⟨hle, hle'⟩ := Nat.le_min.1 hle
  intro here t hlt
  obtain ⟨d, hd⟩ := hfirst.mono hle here t hlt
  obtain ⟨d', hd'⟩ := hsecond.mono hle' here t hlt
  exact ⟨_, .two hsplit rfl rfl hd hd'⟩

theorem does_group (h : Does body empty code.size (code.push (.closeGroup next)) new) :
    Does (.group body) empty next code (new.2.add (.openGroup new.1)) := by
  have hclose := keeps_push code (.closeGroup next)
  have hopen := keeps_push new.2 (.openGroup new.1)
  refine ⟨hclose.trans (h.keeps.trans hopen), fun {whole k n} hwhole hk here t hlt => ?_⟩
  have hpush := (hwhole.inner (h.keeps.trans hopen)).push
  have houter := hwhole.outer hclose
  have hclosed : whole.GoesOn code.size (fun there u =>
      k there { u with group := u.opened.map fun start => start.span there }) n := by
    intro there u hthere
    obtain ⟨d, hd⟩ :=
      hk there { u with group := u.opened.map fun start => start.span there } hthere
    exact ⟨_, .one hpush rfl rfl hd⟩
  have hgroup := h.goesOn (houter.inner hopen) hclosed
  obtain ⟨d, hd⟩ := hgroup here { t with opened := some here } hlt
  exact ⟨_, .one (houter.outer h.keeps).push rfl rfl hd⟩

end Code

open Code

namespace Expr

/-- The program of an expression does what the expression says. -/
theorem does_code {e : Expr} (he : e.advances = true) (next : ℕ) (code : Code) :
    Does e.read e.nullable next code (e.code next code) := by
  induction e generalizing next code with
  | empty => exact .refl next code
  | set s => exact does_set s next code
  | place p => exact does_place p next code
  | seq a b iha ihb =>
    obtain ⟨ha, hb⟩ := Bool.and_eq_true_iff.1 he
    have hab := (ihb hb next code).trans (iha ha _ _)
    rw [Bool.and_comm] at hab
    exact hab
  | alt a b iha ihb =>
    obtain ⟨ha, hb⟩ := Bool.and_eq_true_iff.1 he
    exact does_either (iha ha next code) (ihb hb _ _)
  | repeated e min max greedy ih =>
    obtain ⟨he, hmax⟩ := Bool.and_eq_true_iff.1 he
    have hpart := ih he
    cases max with
    | some max =>
      exact (does_options hpart greedy next (max - min) code).trans (does_copies hpart min _ _)
    | none =>
      have hnullable : e.nullable = false := by simpa using hmax
      rw [hnullable] at hpart
      cases min with
      | zero =>
        rw [Expr.code, hnullable]
        exact does_star hpart greedy next code
      | succ min =>
        have hloop := (does_loop hpart greedy next code).trans (does_copies hpart min _ _)
        have hempty : nullable (.repeated e (min + 1) none greedy) = false := hnullable
        rw [hempty]
        exact hloop
  | capture i e ih =>
    by_cases hi : i = 1
    · subst hi
      exact does_group (ih he _ _)
    · rw [code_capture_of_ne hi, read_capture_of_ne hi]
      exact ih he next code

/-- The search finds the first place at which a match begins, and the match that the expression
prefers there. -/
theorem first?_program {e : Expr} (he : e.advances = true) (c : Cursor) :
    e.program.first? c = leftmost e.at? c.before c.offset c.rest := by
  have hdoes := does_code he 0 #[.matched]
  have hmatched : e.program.code[0]? = some .matched := hdoes.keeps 0 _ rfl
  have hleads (here : Cursor) :
      ∃ d, Leads e.program.code here (.at here e.program.start) d (e.at? here) :=
    hdoes.goesOn (n := here.rest.length + 1) (fun _ _ _ ha => ha)
      (fun there t _ => ⟨_, .matched hmatched⟩) here (.at here 0) (by split <;> omega)
  have hanswer : e.program.answerAt = e.at? := by
    funext here
    obtain ⟨d, hd⟩ := hleads here
    exact hd.answer_eq
  have hsettled (here : Cursor) : Settled e.program.code here (.at here e.program.start) := by
    obtain ⟨d, hd⟩ := hleads here
    exact ⟨d, _, hd⟩
  rw [Program.first?_eq hsettled, hanswer]

end Expr

end SoftFail.Regex
