import SoftFail.Toml.Scan

/-! What scanners take from the front of a text, and where they refuse it. -/

namespace SoftFail.Toml

variable {α β : Type} {r : Scan α} {f : α → Scan β} {a : α} {b : β}
variable {p : Char → Bool} {c : Char} {s t t' rest : List Char}

/-- In front of `rest`, the scanner takes exactly `t` and gives `a`. -/
def Reads (r : Scan α) (t rest : List Char) (a : α) : Prop := r (t ++ rest) = some (a, rest)

def Refuses (r : Scan α) (s : List Char) : Prop := r s = none

def Stops (p : Char → Bool) (s : List Char) : Prop := ∀ c, s.head? = some c → p c = false

theorem stops_cons : Stops p (c :: s) ↔ p c = false := by simp [Stops]

theorem Stops.takeWhile (h : Stops p s) : s.takeWhile p = [] := by
  cases s with
  | nil => rfl
  | cons c s => simp [stops_cons.1 h]

theorem Stops.dropWhile (h : Stops p s) : s.dropWhile p = s := by
  cases s with
  | nil => rfl
  | cons c s => simp [stops_cons.1 h]

theorem ne_of_holds {d : Char} (hc : p c = true) (hd : p d = false) : c ≠ d := by
  rintro rfl
  rw [hc] at hd
  cases hd

/-- Checks one character after the other. Decided as it stands, the statement may be taken for one
about all characters there are. -/
theorem each {l : List Char} {P : Char → Prop} [DecidablePred P]
    (h : l.all (fun c => decide (P c)) = true) : ∀ c ∈ l, P c := by
  simpa using h

theorem bind_apply (r : Scan α) (f : α → Scan β) (s : List Char) :
    (r >>= f) s = (r s).bind fun x => f x.1 x.2 := rfl

theorem orElse_apply (r r' : Scan α) (s : List Char) : (r <|> r') s = (r s).or (r' s) := by
  change (r s <|> r' s) = _
  cases r s <;> rfl

theorem run1_cons (hc : p c = true) (s : List Char) :
    Scan.run1 p (c :: s) = some (c :: s.takeWhile p, s.dropWhile p) := by
  rw [Scan.run1, bind_apply, Scan.one, if_pos hc]
  rfl

namespace Reads

theorem pure (a : α) (rest : List Char) : Reads (Pure.pure a) [] rest a := rfl

theorem bind (h : Reads r t (t' ++ rest) a) (h' : Reads (f a) t' rest b) :
    Reads (r >>= f) (t ++ t') rest b := by
  rw [Reads, List.append_assoc, bind_apply, h]
  exact h'

theorem last (h : Reads r t rest a) (h' : Reads (f a) [] rest b) : Reads (r >>= f) t rest b := by
  rw [← List.append_nil t]
  exact .bind h h'

theorem first (h : Reads r [] (t ++ rest) a) (h' : Reads (f a) t rest b) :
    Reads (r >>= f) t rest b := .bind h h'

theorem giving (h : Reads r t rest a) (g : α → β) : Reads (do return g (← r)) t rest (g a) :=
  h.last (.pure _ _)

theorem image (h : Reads r t rest a) (g : α → β) : Reads (g <$> r) t rest (g a) := by
  rw [map_eq_pure_bind]
  exact h.giving g

theorem left {r' : Scan α} (h : Reads r t rest a) : Reads (r <|> r') t rest a := by
  rw [Reads, orElse_apply, h]
  rfl

theorem right {r' : Scan α} (h : Refuses r (t ++ rest)) (h' : Reads r' t rest a) :
    Reads (r <|> r') t rest a := by
  rw [Reads, orElse_apply, h]
  exact h'

theorem one (h : p c = true) (rest : List Char) : Reads (Scan.one p) [c] rest c := by
  simp [Reads, Scan.one, h]

theorem char (c : Char) (rest : List Char) : Reads (Scan.char c) [c] rest () :=
  (Reads.one (decide_eq_true rfl) rest).last (.pure _ _)

theorem word (cs rest : List Char) : Reads (Scan.word cs) cs rest () := by
  induction cs with
  | nil => exact .pure _ _
  | cons c cs ih => exact .bind (t := [c]) (.char c _) ih

theorem peek (rest : List Char) : Reads Scan.peek? [] rest rest.head? := rfl

theorem run (ht : ∀ c ∈ t, p c = true) (hrest : Stops p rest) : Reads (Scan.run p) t rest t := by
  rw [Reads, Scan.run, List.takeWhile_append_of_pos ht, List.dropWhile_append_of_pos ht,
    hrest.takeWhile, hrest.dropWhile, List.append_nil]

theorem run1 (hc : p c = true) (ht : ∀ c ∈ t, p c = true) (hrest : Stops p rest) :
    Reads (Scan.run1 p) (c :: t) rest (c :: t) :=
  .bind (t := [c]) (.one hc _) ((Reads.run ht hrest).giving _)

theorem exactly (ht : ∀ c ∈ t, p c = true) (rest : List Char) :
    Reads (Scan.exactly p t.length) t rest t := by
  induction t with
  | nil => exact .pure _ _
  | cons c t ih =>
    obtain ⟨hc, ht⟩ := List.forall_mem_cons.1 ht
    exact .bind (t := [c]) (.one hc _) ((ih ht).giving _)

theorem some (h : Reads r t rest a) : Reads (Scan.maybe r) t rest (Option.some a) :=
  .left (h.image Option.some)

end Reads

namespace Refuses

theorem bind (h : Refuses r s) : Refuses (r >>= f) s := by
  rw [Refuses, bind_apply, h]
  rfl

theorem after (h : Reads r t rest a) (h' : Refuses (f a) rest) : Refuses (r >>= f) (t ++ rest) := by
  rw [Refuses, bind_apply, h]
  exact h'

theorem image (h : Refuses r s) (g : α → β) : Refuses (g <$> r) s := by
  rw [map_eq_pure_bind]
  exact h.bind

theorem orElse {r' : Scan α} (h : Refuses r s) (h' : Refuses r' s) : Refuses (r <|> r') s := by
  rw [Refuses, orElse_apply, h]
  exact h'

theorem one (h : Stops p s) : Refuses (Scan.one p) s := by
  cases s with
  | nil => rfl
  | cons c s => simp [Refuses, Scan.one, stops_cons.1 h]

theorem char (h : s.head? ≠ some c) : Refuses (Scan.char c) s := by
  refine .bind (.one fun d hd => decide_eq_false ?_)
  rintro rfl
  exact h hd

theorem word {cs : List Char} (h : s.head? ≠ some c) : Refuses (Scan.word (c :: cs)) s :=
  .bind (.char h)

theorem none (h : Refuses r s) : Reads (Scan.maybe r) [] s Option.none :=
  .right (h.image _) (.pure _ _)

end Refuses

inductive Many (r : Scan α) : List Char → List α → List Char → Prop
  | stop {s : List Char} (h : Refuses r s) : Many r s [] s
  | step {s s' rest : List Char} {a : α} {as : List α} (h : r s = some (a, s'))
    (hless : s'.length < s.length) (hmore : Many r s' as rest) : Many r s (a :: as) rest

theorem Many.manyFrom {as : List α} (h : Many r s as rest) {fuel : List Char}
    (hfuel : s.length ≤ fuel.length) : Scan.manyFrom r fuel s = some (as, rest) := by
  induction h generalizing fuel with
  | @stop s h =>
    cases fuel with
    | nil => rfl
    | cons _ fuel =>
      have h : Refuses (do let a ← r; return a :: (← Scan.manyFrom r fuel)) s := h.bind
      exact Reads.right (t := []) h (.pure _ _)
  | @step s s' rest a as h hless _ ih =>
    cases fuel with
    | nil => exact absurd hless (by simp [List.length_eq_zero_iff.1 (Nat.le_zero.1 hfuel)])
    | cons _ fuel =>
      have hrest := ih (Nat.le_of_lt_succ (Nat.lt_of_lt_of_le hless hfuel))
      rw [Scan.manyFrom, orElse_apply, bind_apply, h, Option.bind_some, bind_apply, hrest]
      rfl

theorem Many.reads {as : List α} (h : Many r (t ++ rest) as rest) :
    Reads (Scan.many r) t rest as := h.manyFrom (Nat.le_refl _)

theorem Many.cons {as : List α} (h : Reads r t s a) (ht : t ≠ []) (hmore : Many r s as rest) :
    Many r (t ++ s) (a :: as) rest := by
  refine .step h ?_ hmore
  rw [List.length_append]
  exact Nat.lt_add_of_pos_left (List.length_pos_iff.2 ht)

/-! Ends of values. -/

def Closes (rest : List Char) : Prop := ∃ c ∈ ['\n', ',', ']'], rest.head? = some c

theorem Closes.stops {rest : List Char} (h : Closes rest) {p : Char → Bool}
    (hp : ∀ c ∈ ['\n', ',', ']'], p c = false) : Stops p rest := by
  obtain ⟨c, hc, hhead⟩ := h
  intro d hd
  obtain rfl : c = d := Option.some.inj (hhead.symm.trans hd)
  exact hp c hc

theorem Closes.head?_ne {rest : List Char} (h : Closes rest) {c : Char}
    (hc : c ∉ ['\n', ',', ']']) : rest.head? ≠ some c := by
  obtain ⟨d, hd, hhead⟩ := h
  intro heq
  obtain rfl : d = c := Option.some.inj (hhead.symm.trans heq)
  exact hc hd

end SoftFail.Toml
