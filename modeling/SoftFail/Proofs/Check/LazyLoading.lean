import SoftFail.Proofs.Detector.FirstFailure
import SoftFail.Proofs.Text.Occurrence

/-! Content that was not loaded: which signs a body shows too often, and which of them are reported.
Of signs shown equally often, the earlier one in the table goes first. -/

namespace SoftFail

/-! Stable sorting. -/

section Stable

variable {α : Type} {R : α → α → Prop} {xs : List α}

theorem zipIdxLE_eq_true {le : α → α → Bool} {a b : α × ℕ} (h : List.zipIdxLE le a b = true) :
    le a.1 b.1 = true ∧ (le b.1 a.1 = true → a.2 ≤ b.2) := by
  unfold List.zipIdxLE at h
  grind

theorem pairwise_mergeSort_of_pairwise (le : α → α → Bool)
    (trans : ∀ a b c, le a b = true → le b c = true → le a c = true)
    (total : ∀ a b, (le a b || le b a) = true) (h : xs.Pairwise R) :
    (xs.mergeSort le).Pairwise fun a b => le a b = true ∧ (le b a = true → R a b) := by
  -- Every element is sorted together with its place, by which ties are broken.
  have hperm := List.mergeSort_perm xs.zipIdx (List.zipIdxLE le)
  have hsorted := List.pairwise_mergeSort (List.zipIdxLE_trans trans) (List.zipIdxLE_total total)
    xs.zipIdx
  have hplaces : (xs.zipIdx.mergeSort (List.zipIdxLE le)).Pairwise fun a b => a.2 ≠ b.2 := by
    rw [← List.pairwise_map, ← List.nodup_iff_pairwise_ne, (hperm.map Prod.snd).nodup_iff,
      List.zipIdx_map_snd]
    exact List.nodup_range'
  rw [← List.mergeSort_zipIdx, List.pairwise_map]
  refine (hsorted.and hplaces).imp_of_mem fun {a b} ha hb ⟨hab, hne⟩ => ?_
  obtain ⟨hle, htie⟩ := zipIdxLE_eq_true hab
  refine ⟨hle, fun hback => ?_⟩
  have hlt : a.2 < b.2 := lt_of_le_of_ne (htie hback) hne
  obtain ⟨hi, hat⟩ := List.getElem?_eq_some_iff.1
    (List.mem_zipIdx_iff_getElem?.1 (hperm.mem_iff.1 ha))
  obtain ⟨hj, hbt⟩ := List.getElem?_eq_some_iff.1
    (List.mem_zipIdx_iff_getElem?.1 (hperm.mem_iff.1 hb))
  rw [← hat, ← hbt]
  exact List.pairwise_iff_getElem.1 h a.2 b.2 hi hj hlt

end Stable

namespace Check

open Text

variable {body : List Char}

def lazyCount (body : List Char) (sign : String × String) : ℕ := count sign.1.toList (lower body)

def rankedSigns (body : List Char) : List (String × String) :=
  (lazySigns.filter fun sign => lazyThreshold < lazyCount body sign).mergeSort fun a b =>
    lazyCount body b ≤ lazyCount body a

/-- One sign goes before another: it is shown more often, or as often and stands earlier in the
table. -/
def Outranks (body : List Char) (a b : String × String) : Prop :=
  lazyCount body b < lazyCount body a ∨
    lazyCount body a = lazyCount body b ∧ lazySigns.idxOf a < lazySigns.idxOf b

theorem lazySigns_ne_nil : ∀ sign ∈ lazySigns, sign.1.toList ≠ [] := by decide

theorem lazySigns_ascending :
    lazySigns.Pairwise fun a b => lazySigns.idxOf a < lazySigns.idxOf b := by decide

theorem lazySigns_nodup : lazySigns.Nodup := by decide

theorem lazyCounts_eq_map (body : List Char) :
    lazyCounts body = (lazySigns.filter fun sign => lazyThreshold < lazyCount body sign).map
      fun sign => (sign.2, lazyCount body sign) := by
  rw [lazyCounts, List.filter_map]
  rfl

theorem lazyComplaint_eq_ranked (body : List Char) :
    lazyComplaint body = match rankedSigns body with
      | [] => none
      | signs => some (.unloaded ((signs.take maxLazyReported).map fun sign =>
          (sign.2, lazyCount body sign))) := by
  have hsorted : (lazyCounts body).mergeSort (fun a b => b.2 ≤ a.2) =
      (rankedSigns body).map fun sign => (sign.2, lazyCount body sign) := by
    rw [lazyCounts_eq_map, rankedSigns, List.map_mergeSort]
    exact fun a _ b _ => rfl
  rw [lazyComplaint, hsorted]
  cases rankedSigns body with
  | nil => rfl
  | cons sign signs => simp only [List.map_cons, List.map_take]

theorem mem_rankedSigns_iff {sign : String × String} :
    sign ∈ rankedSigns body ↔ sign ∈ lazySigns ∧ 3 < lazyCount body sign := by
  rw [rankedSigns, List.mem_mergeSort, List.mem_filter, decide_eq_true_iff]
  rfl

theorem length_rankedSigns (body : List Char) :
    (rankedSigns body).length = lazySigns.countP fun sign => 3 < lazyCount body sign := by
  rw [rankedSigns, List.length_mergeSort, List.countP_eq_length_filter]
  rfl

theorem rankedSigns_nodup (body : List Char) : (rankedSigns body).Nodup :=
  (List.mergeSort_perm _ _).nodup_iff.2 (lazySigns_nodup.filter _)

theorem rankedSigns_pairwise (body : List Char) : (rankedSigns body).Pairwise (Outranks body) := by
  have hranked := pairwise_mergeSort_of_pairwise
    (fun a b => lazyCount body b ≤ lazyCount body a) (by simp; omega) (by simp; omega)
    (lazySigns_ascending.filter fun sign => lazyThreshold < lazyCount body sign)
  refine hranked.imp fun {a b} ⟨hle, htie⟩ => ?_
  rw [decide_eq_true_iff] at hle htie
  rcases Nat.lt_or_eq_of_le hle with hlt | heq
  · exact .inl hlt
  · exact .inr ⟨heq.symm, htie heq.ge⟩

theorem lazyComplaint_eq_none_iff :
    lazyComplaint body = none ↔ ∀ sign ∈ lazySigns, lazyCount body sign ≤ 3 := by
  rw [lazyComplaint_eq_ranked]
  constructor
  · intro hnone sign hsign
    refine Nat.le_of_not_lt fun hmany => ?_
    have hranked := mem_rankedSigns_iff.2 ⟨hsign, hmany⟩
    cases hsigns : rankedSigns body with
    | nil =>
      rw [hsigns] at hranked
      cases hranked
    | cons first signs =>
      rw [hsigns] at hnone
      cases hnone
  · intro hfew
    cases hsigns : rankedSigns body with
    | nil => rfl
    | cons first signs =>
      obtain ⟨hsign, hmany⟩ := mem_rankedSigns_iff.1 (hsigns ▸ List.mem_cons_self)
      exact absurd (hfew first hsign) (Nat.not_le.2 hmany)

theorem outranks_of_not_mem_take {a b : String × String}
    (ha : a ∈ (rankedSigns body).take maxLazyReported) (hb : b ∈ lazySigns)
    (hleft : b ∉ (rankedSigns body).take maxLazyReported) : Outranks body a b := by
  by_cases hmany : 3 < lazyCount body b
  · have hrest : b ∈ (rankedSigns body).drop maxLazyReported := by
      have hranked := mem_rankedSigns_iff.2 ⟨hb, hmany⟩
      rw [← List.take_append_drop maxLazyReported (rankedSigns body)] at hranked
      exact (List.mem_append.1 hranked).resolve_left hleft
    have hpairwise := rankedSigns_pairwise body
    rw [← List.take_append_drop maxLazyReported (rankedSigns body)] at hpairwise
    exact (List.pairwise_append.1 hpairwise).2.2 a ha b hrest
  · have hranked := (mem_rankedSigns_iff.1 (List.mem_of_mem_take ha)).2
    exact .inl (by omega)

/-- The check passes when no sign is shown more than three times. Otherwise up to three signs are
reported with how often they are shown, and all others are outranked by them. -/
theorem lazyLoading_judged (s : Subject) :
    (∀ sign ∈ lazySigns, IsGreatest
      {n | ∃ places, DisjointMentions s.body sign.1.toList places ∧ places.card = n}
      (lazyCount s.body sign)) ∧
    ((lazyLoading.run s).passed = true ↔ ∀ sign ∈ lazySigns, lazyCount s.body sign ≤ 3) ∧
    ((lazyLoading.run s).passed = false → ∃ listed : List (String × String),
      lazyLoading.run s = .fail (Complaint.unloaded (listed.map fun sign =>
        (sign.2, lazyCount s.body sign))).message ∧
      listed.Nodup ∧ (∀ sign ∈ listed, sign ∈ lazySigns ∧ 3 < lazyCount s.body sign) ∧
      listed.length = min 3 (lazySigns.countP fun sign => 3 < lazyCount s.body sign) ∧
      listed.Pairwise (Outranks s.body) ∧
      ∀ a ∈ listed, ∀ b ∈ lazySigns, b ∉ listed → Outranks s.body a b) := by
  refine ⟨?_, ?_, ?_⟩
  · exact fun sign hsign => isGreatest_count_lower (lazySigns_ne_nil sign hsign) s.body
  · exact (passed_run_iff _ _).trans lazyComplaint_eq_none_iff
  · intro hfail
    refine ⟨(rankedSigns s.body).take maxLazyReported, ?_, ?_, ?_, ?_, ?_, ?_⟩
    · have hcomplaint := lazyComplaint_eq_ranked s.body
      rw [run, complaint?, hcomplaint]
      cases hsigns : rankedSigns s.body with
      | nil =>
        rw [hsigns] at hcomplaint
        rw [(passed_run_iff lazyLoading s).2 hcomplaint] at hfail
        cases hfail
      | cons first signs => rfl
    · exact (rankedSigns_nodup s.body).sublist (List.take_sublist _ _)
    · exact fun sign hsign => mem_rankedSigns_iff.1 (List.mem_of_mem_take hsign)
    · rw [List.length_take, length_rankedSigns]
      rfl
    · exact (rankedSigns_pairwise s.body).sublist (List.take_sublist _ _)
    · exact fun a ha b hb hleft => outranks_of_not_mem_take ha hb hleft

end Check

end SoftFail
