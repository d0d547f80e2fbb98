import SoftFail.Proofs.Toml.Scan

/-! Texts that are taken piece by piece: characters in runs or one by one, with few quotation marks
side by side. -/

namespace SoftFail.Toml

/-- Text of which `r` takes all characters that satisfy `p` in a run, and others one by one. Up to
`allowed` quotation marks `q` may stand side by side; some may have come right before. -/
inductive Spelled (r : Scan (List Char)) (p : Char → Bool) (q : Char) (allowed : Nat) :
    Nat → List Char → List Char → Prop
  | nil (marks : Nat) : Spelled r p q allowed marks [] []
  | mark {marks : Nat} {e t : List Char} (hmarks : marks < allowed)
    (h : Spelled r p q allowed (marks + 1) e t) : Spelled r p q allowed marks (q :: e) (q :: t)
  | plain {c : Char} {marks : Nat} {e t : List Char} (hc : p c = true)
    (h : Spelled r p q allowed 0 e t) : Spelled r p q allowed marks (c :: e) (c :: t)
  | piece {c d : Char} {marks : Nat} {u e t : List Char} (hd : d ≠ q)
    (hu : ∀ rest, Reads r (d :: u) rest [c]) (h : Spelled r p q allowed 0 e t) :
    Spelled r p q allowed marks (d :: u ++ e) (c :: t)

def Spells (r : Scan (List Char)) (s t rest : List Char) : Prop :=
  ∃ pieces, Many r s pieces rest ∧ pieces.flatten = t

section Pieces

variable {r : Scan (List Char)} {p : Char → Bool} {q c : Char} {allowed marks : Nat}
variable {s t u rest closing e : List Char}

theorem Spells.piece (h : Reads r u s t) (hu : u ≠ []) {t' : List Char}
    (hs : Spells r s t' rest) : Spells r (u ++ s) (t ++ t') rest := by
  obtain ⟨pieces, hmany, rfl⟩ := hs
  exact ⟨t :: pieces, .cons h hu hmany, rfl⟩

theorem Spells.plain
    (hr : ∀ c s, p c = true → r (c :: s) = some (c :: s.takeWhile p, s.dropWhile p))
    (hc : p c = true) (hs : Spells r s t rest) : Spells r (c :: s) (c :: t) rest := by
  by_cases hstops : Stops p s
  · have hone : Reads r [c] s [c] := by
      rw [Reads, List.singleton_append, hr c s hc, hstops.takeWhile, hstops.dropWhile]
    exact Spells.piece hone (List.cons_ne_nil _ _) hs
  · obtain ⟨pieces, hmany, rfl⟩ := hs
    cases s with
    | nil => exact absurd (fun _ h => by cases h) hstops
    | cons d s =>
      have hd : p d = true := by
        rw [stops_cons] at hstops
        simpa using hstops
      have htake := hr d s hd
      cases hmany with
      | stop h => rw [h] at htake; cases htake
      | @step _ s' _ a as h hless hmore =>
        rw [h] at htake
        obtain ⟨rfl, rfl⟩ := Prod.mk.inj (Option.some.inj htake)
        refine ⟨(c :: d :: s.takeWhile p) :: as, .step ?_ ?_ hmore, rfl⟩
        · rw [hr c _ hc, List.takeWhile_cons_of_pos hd, List.dropWhile_cons_of_pos hd]
        · exact Nat.lt_succ_of_lt hless

theorem Spelled.spells
    (hplain : ∀ c s, p c = true → r (c :: s) = some (c :: s.takeWhile p, s.dropWhile p))
    (hq : p q = false)
    (hmarks : ∀ n s, 0 < n → n ≤ allowed → (∃ c, s.head? = some c ∧ c ≠ q) →
      Reads r (List.replicate n q) s (List.replicate n q))
    (hstop : ∀ n ≤ allowed, Refuses r (List.replicate n q ++ closing))
    (h : Spelled r p q allowed marks e t) (hle : marks ≤ allowed) :
    ∃ body n, n ≤ allowed ∧ body ++ List.replicate n q = List.replicate marks q ++ t ∧
      Spells r (List.replicate marks q ++ (e ++ closing)) body (List.replicate n q ++ closing) := by
  -- Marks are kept back until it is known what is behind them.
  have hback {d : Char} {s t rest : List Char} {marks : Nat} (hd : d ≠ q) (hle : marks ≤ allowed)
      (hs : Spells r (d :: s) t rest) :
      Spells r (List.replicate marks q ++ d :: s) (List.replicate marks q ++ t) rest := by
    rcases Nat.eq_zero_or_pos marks with rfl | hpos
    · exact hs
    · refine hs.piece (hmarks marks _ hpos hle ⟨d, rfl, hd⟩) ?_
      rw [Ne, List.replicate_eq_nil_iff]
      exact Nat.ne_of_gt hpos
  induction h with
  | nil marks => exact ⟨[], marks, hle, by simp, [], .stop (hstop marks hle), rfl⟩
  | @mark marks e t hless _ ih =>
    obtain ⟨body, n, hn, htext, hspells⟩ := ih hless
    rw [List.replicate_succ', List.append_assoc, List.singleton_append] at htext hspells
    exact ⟨body, n, hn, htext, hspells⟩
  | @plain c marks e t hc _ ih =>
    obtain ⟨body, n, hn, htext, hspells⟩ := ih (Nat.zero_le _)
    have hne : c ≠ q := ne_of_holds hc hq
    refine ⟨_, n, hn, ?_, hback hne hle (.plain hplain hc hspells)⟩
    rw [List.append_assoc, List.cons_append, htext]
    rfl
  | @piece c d marks u e t hd hu _ ih =>
    obtain ⟨body, n, hn, htext, hspells⟩ := ih (Nat.zero_le _)
    have hpiece := hspells.piece (hu _) (List.cons_ne_nil _ _)
    refine ⟨_, n, hn, ?_, by simpa using hback hd hle hpiece⟩
    rw [List.append_assoc, List.cons_append, htext]
    rfl

end Pieces

end SoftFail.Toml
