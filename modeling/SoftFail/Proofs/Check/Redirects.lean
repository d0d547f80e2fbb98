import Std.Data.HashSet.Lemmas
import SoftFail.Proofs.Detector.FirstFailure
import SoftFail.Proofs.Text.Window

/-! Redirect chains. One that comes back to an address is a loop; any other one is judged by its
first suspicious hop, and then by its length. -/

namespace SoftFail.Check

open Text

variable {hops : List Hop} {hop : Hop}

/-! Addresses. -/

def allNew (seen : Std.HashSet String) : List Hop → Bool
  | [] => true
  | hop :: hops => if seen.contains hop.url then false else allNew (seen.insert hop.url) hops

theorem allNew_iff (seen : Std.HashSet String) :
    allNew seen hops = true ↔ (hops.map Hop.url).Nodup ∧ ∀ hop ∈ hops, hop.url ∉ seen := by
  induction hops generalizing seen with
  | nil => simp [allNew]
  | cons hop hops ih =>
    -- What the rest must avoid is the address of this hop and what was seen before it.
    have hrest : (∀ h ∈ hops, h.url ∉ seen.insert hop.url) ↔
        hop.url ∉ hops.map Hop.url ∧ ∀ h ∈ hops, h.url ∉ seen := by
      simp only [Std.HashSet.mem_insert, beq_iff_eq, not_or, List.mem_map, not_exists, not_and]
      exact ⟨fun h => ⟨fun h' hh' heq => (h h' hh').1 heq.symm, fun h' hh' => (h h' hh').2⟩,
        fun h h' hh' => ⟨fun heq => h.1 h' hh' heq.symm, h.2 h' hh'⟩⟩
    rw [allNew, List.map_cons, List.nodup_cons, List.forall_mem_cons]
    by_cases hseen : hop.url ∈ seen
    · simp [hseen]
    · rw [if_neg (mt Std.HashSet.mem_iff_contains.2 hseen), ih, hrest]
      tauto

theorem allNew_empty_iff : allNew ∅ hops = true ↔ (hops.map Hop.url).Nodup := by
  simp [allNew_iff]

/-! Hops. -/

def Passable (hop : Hop) : Prop :=
  (∀ k ∈ redirectKeywords, ¬Mentions hop.url.toList k.toList) ∧ hop.status ∉ [503, 403, 429]

theorem find?_redirectKeywords_eq_none_iff {url : List Char} :
    (redirectKeywords.find? fun k => contains k.toList (lower url)) = none ↔
      ∀ k ∈ redirectKeywords, ¬Mentions url k.toList := by
  simp only [List.find?_eq_none, contains_lower_iff]

theorem hopComplaint_of_keyword {before after : List String} {k : String}
    (hsplit : redirectKeywords = before ++ k :: after)
    (hbefore : ∀ w ∈ before, ¬Mentions hop.url.toList w.toList)
    (hk : Mentions hop.url.toList k.toList) :
    hopComplaint hop = some (.challengeRedirect k hop.url) := by
  have hfind : (redirectKeywords.find? fun w => contains w.toList (lower hop.url.toList)) =
      some k := by
    refine List.find?_eq_some_iff_append.2 ⟨contains_lower_iff.2 hk, before, after, hsplit, ?_⟩
    intro w hw
    rw [Bool.not_eq_true', ← Bool.not_eq_true, contains_lower_iff]
    exact hbefore w hw
  simp only [hopComplaint, hfind]

theorem hopComplaint_of_status (hclean : ∀ k ∈ redirectKeywords, ¬Mentions hop.url.toList k.toList)
    (hstatus : hop.status ∈ [503, 403, 429]) :
    hopComplaint hop = some (.blockingRedirect hop.status hop.url) := by
  simp only [hopComplaint, find?_redirectKeywords_eq_none_iff.2 hclean]
  exact if_pos (List.contains_iff_mem.2 hstatus)

theorem hopComplaint_eq_none_iff : hopComplaint hop = none ↔ Passable hop := by
  rw [Passable, ← find?_redirectKeywords_eq_none_iff]
  cases hfind : redirectKeywords.find? fun k => contains k.toList (lower hop.url.toList) with
  | some k => simp [hopComplaint, hfind]
  | none => simp [hopComplaint, hfind, blockingStatuses]

theorem hopComplaint_cases {c : Complaint} (h : hopComplaint hop = some c) :
    (∃ k, c = .challengeRedirect k hop.url) ∨ c = .blockingRedirect hop.status hop.url := by
  simp only [hopComplaint] at h
  split at h
  · exact .inl ⟨_, (Option.some.inj h).symm⟩
  · exact .inr (Option.some.inj (Option.ite_none_right_eq_some.1 h).2).symm

/-! Chains. -/

theorem loops_eq_false_iff : loops hops = false ↔ (hops.map Hop.url).Nodup := by
  simp [loops]

theorem redirectComplaint_of_loop (h : ¬(hops.map Hop.url).Nodup) :
    redirectComplaint hops = some .redirectLoop :=
  if_pos ((Bool.not_eq_false _).mp (mt loops_eq_false_iff.1 h))

theorem redirectComplaint_of_nodup (h : (hops.map Hop.url).Nodup) :
    redirectComplaint hops = (hops.findSome? hopComplaint).or
      (if maxRedirects < hops.length then some (.tooManyRedirects hops.length) else none) := by
  rw [redirectComplaint, loops_eq_false_iff.2 h]
  cases hops.findSome? hopComplaint <;> rfl

theorem redirectComplaint_of_first {earlier later : List Hop}
    (hnodup : (hops.map Hop.url).Nodup) (hsplit : hops = earlier ++ hop :: later)
    (hearlier : ∀ h ∈ earlier, Passable h) (hhop : ¬Passable hop) :
    redirectComplaint hops = hopComplaint hop := by
  have hne : hopComplaint hop ≠ none := mt hopComplaint_eq_none_iff.1 hhop
  rw [redirectComplaint_of_nodup hnodup, hsplit,
    findSome?_of_first (fun h hh => hopComplaint_eq_none_iff.2 (hearlier h hh)) hne]
  exact Option.or_of_isSome (Option.isSome_iff_ne_none.2 hne)

theorem redirectComplaint_of_passable (hnodup : (hops.map Hop.url).Nodup)
    (hpass : ∀ hop ∈ hops, Passable hop) :
    redirectComplaint hops =
      if maxRedirects < hops.length then some (.tooManyRedirects hops.length) else none := by
  have hnone : hops.findSome? hopComplaint = none :=
    List.findSome?_eq_none_iff.2 fun hop hhop => hopComplaint_eq_none_iff.2 (hpass hop hhop)
  rw [redirectComplaint_of_nodup hnodup, hnone, Option.none_or]

theorem redirectComplaint_eq_none_iff :
    redirectComplaint hops = none ↔
      (hops.map Hop.url).Nodup ∧ (∀ hop ∈ hops, Passable hop) ∧ hops.length ≤ 5 := by
  by_cases hnodup : (hops.map Hop.url).Nodup
  · rw [redirectComplaint_of_nodup hnodup, Option.or_eq_none_iff, List.findSome?_eq_none_iff]
    simp only [hopComplaint_eq_none_iff, hnodup, true_and]
    refine and_congr_right fun _ => ?_
    rw [ite_eq_right_iff]
    simp [maxRedirects]
  · simp [redirectComplaint_of_loop hnodup, hnodup]

theorem message_ne_redirectLoop {c : Complaint} (hnodup : (hops.map Hop.url).Nodup)
    (h : redirectComplaint hops = some c) : c.message ≠ Complaint.redirectLoop.message := by
  rw [redirectComplaint_of_nodup hnodup, Option.or_eq_some_iff] at h
  rcases h with h | ⟨-, h⟩
  · obtain ⟨hop, -, hc⟩ := List.exists_of_findSome?_eq_some h
    rcases hopComplaint_cases hc with ⟨k, rfl⟩ | rfl
    · have hmessage : (Complaint.challengeRedirect k hop.url).message =
          "Suspicious redirect (" ++ k ++ "): " ++ hop.url := rfl
      rw [hmessage, String.append_assoc, String.append_assoc]
      exact append_ne_of_lead _ _ rfl (by decide)
    · have hmessage : (Complaint.blockingRedirect hop.status hop.url).message =
          "Blocking status in redirect chain: " ++ Decimal.text hop.status.toNat ++ " at " ++
            hop.url := rfl
      rw [hmessage, String.append_assoc, String.append_assoc]
      exact append_ne_of_lead _ _ rfl (by decide)
  · obtain ⟨-, hc⟩ := Option.ite_none_right_eq_some.1 h
    rw [← Option.some.inj hc]
    exact append_ne_of_lead "Too many redirects: " _ rfl (by decide)

/-! The check. -/

section Judged

variable {s t : Subject}

theorem run_redirects_eq (s : Subject) :
    redirects.run s = .ofComplaint (redirectComplaint s.snapshot.redirects) := rfl

theorem passed_redirects_iff :
    (redirects.run s).passed = true ↔ (s.snapshot.redirects.map Hop.url).Nodup ∧
      (∀ hop ∈ s.snapshot.redirects, Passable hop) ∧ s.snapshot.redirects.length ≤ 5 :=
  (passed_run_iff redirects s).trans redirectComplaint_eq_none_iff

theorem reason_redirects_eq_loop_iff :
    (redirects.run s).reason = some Complaint.redirectLoop.message ↔
      ¬(s.snapshot.redirects.map Hop.url).Nodup := by
  rw [run_redirects_eq]
  constructor
  · intro hreason hdistinct
    cases hcomplaint : redirectComplaint s.snapshot.redirects with
    | none =>
      rw [hcomplaint] at hreason
      cases hreason
    | some c =>
      rw [hcomplaint] at hreason
      exact message_ne_redirectLoop hdistinct hcomplaint (Option.some.inj hreason)
  · intro hloop
    rw [redirectComplaint_of_loop hloop]
    rfl

theorem failed_redirects_of_begins (hbegins : s.snapshot.redirects <+: t.snapshot.redirects)
    (hfail : (redirects.run s).passed = false) : (redirects.run t).passed = false := by
  rw [← Bool.not_eq_true, passed_redirects_iff] at hfail ⊢
  intro ⟨hdistinct, hpass, hlength⟩
  apply hfail
  refine ⟨hdistinct.sublist (hbegins.sublist.map _), ?_, hbegins.length_le.trans hlength⟩
  intro hop hhop
  exact hpass hop (hbegins.subset hhop)

end Judged

/-- A chain passes when its addresses differ, no hop is suspicious and there are five at most. Of
what is wrong with a chain, a loop goes first, then the first suspicious hop, by a keyword rather
than by its status, and its length comes last. What failed once fails with any hops behind it. -/
theorem redirects_judged (s : Subject) :
    let hops := s.snapshot.redirects
    let distinct := (hops.map Hop.url).Nodup
    ((redirects.run s).passed = true ↔
      distinct ∧ (∀ hop ∈ hops, Passable hop) ∧ hops.length ≤ 5) ∧
    (allNew ∅ hops = true ↔ distinct) ∧
    ((redirects.run s).reason = some Complaint.redirectLoop.message ↔ ¬distinct) ∧
    (∀ earlier hop later, distinct → hops = earlier ++ hop :: later →
      (∀ h ∈ earlier, Passable h) →
      (∀ before k after, redirectKeywords = before ++ k :: after →
        (∀ w ∈ before, ¬Mentions hop.url.toList w.toList) → Mentions hop.url.toList k.toList →
        redirects.run s = .fail (Complaint.challengeRedirect k hop.url).message) ∧
      ((∀ k ∈ redirectKeywords, ¬Mentions hop.url.toList k.toList) →
        hop.status ∈ [503, 403, 429] →
        redirects.run s = .fail (Complaint.blockingRedirect hop.status hop.url).message)) ∧
    (distinct → (∀ hop ∈ hops, Passable hop) → 5 < hops.length →
      redirects.run s = .fail (Complaint.tooManyRedirects hops.length).message) ∧
    ∀ t : Subject, hops <+: t.snapshot.redirects → (redirects.run s).passed = false →
      (redirects.run t).passed = false := by
  intro hops distinct
  refine ⟨passed_redirects_iff, allNew_empty_iff, reason_redirects_eq_loop_iff, ?_, ?_, ?_⟩
  · intro earlier hop later hdistinct hsplit hearlier
    constructor
    · intro before k after hk hbefore hmention
      have hhop : ¬Passable hop := fun h => h.1 k (hk ▸ by simp) hmention
      rw [run_redirects_eq, redirectComplaint_of_first hdistinct hsplit hearlier hhop,
        hopComplaint_of_keyword hk hbefore hmention]
      rfl
    · intro hclean hstatus
      have hhop : ¬Passable hop := fun h => h.2 hstatus
      rw [run_redirects_eq, redirectComplaint_of_first hdistinct hsplit hearlier hhop,
        hopComplaint_of_status hclean hstatus]
      rfl
  · intro hdistinct hpass hlong
    rw [run_redirects_eq, redirectComplaint_of_passable hdistinct hpass]
    exact congrArg Outcome.ofComplaint (if_pos hlong)
  · intro t hbegins hfail
    exact failed_redirects_of_begins hbegins hfail

end SoftFail.Check
