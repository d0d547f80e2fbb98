import SoftFail.Config.File
import SoftFail.Proofs.Decode.Range
import SoftFail.Proofs.Toml.Range

/-! Configurations that files have room for, to which all that are read from files belong. -/

namespace SoftFail

open Decode

theorem ExpectedPattern.gives_read : Gives read fun p => p.minCount < bound63 := by
  have hone : 1 < bound63 := by decide
  -- Without a count there is one match to find, whether the values stand in a list or in fields.
  refine .record ?_ (.bind (.fields (S := fun st => st.2.minCount < bound63) ?_ hone) ?_) _
  · refine .after (.itemAt .text _ _) fun name => .after (.itemAt .text _ _) fun expression => ?_
    refine .giving (.item? (.natural _ _) false) fun n hn => ?_
    cases n with
    | none => exact hone
    | some n => exact hn n rfl
  · intro (seen, p) name hp
    replace hp : p.minCount < bound63 := hp
    unfold readField
    dsimp only
    split
    · exact .after (.once _ _) fun _ => .giving (.member .text) fun _ _ => hp
    · exact .after (.once _ _) fun _ => .giving (.member .text) fun _ _ => hp
    · exact .after (.once _ _) fun _ => .giving (.member (.natural _ _)) fun _ hn => hn
    · exact .after (.member .skip) fun _ => .pure hp
  · exact fun (seen, p) hp => .after (.require _ _) fun _ => .after (.require _ _) fun _ => .pure hp

namespace Config

structure Fits (c : Config) : Prop where
  minContentLength : c.minContentLength < bound63
  maxContentLength : ∀ n, c.maxContentLength = some n → n < bound63
  minItemCount : ∀ n, c.minItemCount = some n → n < bound63
  minCount : ∀ p ∈ c.expectedPatterns, p.minCount < bound63

theorem fits_iff (c : Config) :
    c.Fits ↔ c.minContentLength < bound63 ∧ (∀ n, c.maxContentLength = some n → n < bound63) ∧
      (∀ n, c.minItemCount = some n → n < bound63) ∧
      ∀ p ∈ c.expectedPatterns, p.minCount < bound63 :=
  ⟨fun h => ⟨h.minContentLength, h.maxContentLength, h.minItemCount, h.minCount⟩,
    fun ⟨hmin, hmax, hitems, hcounts⟩ => ⟨hmin, hmax, hitems, hcounts⟩⟩

theorem not_fits_iff (c : Config) :
    ¬ c.Fits ↔ bound63 ≤ c.minContentLength ∨ (∃ n, c.maxContentLength = some n ∧ bound63 ≤ n) ∨
      (∃ n, c.minItemCount = some n ∧ bound63 ≤ n) ∨
      ∃ p ∈ c.expectedPatterns, bound63 ≤ p.minCount := by
  rw [fits_iff]
  simp only [Classical.not_and_iff_not_or_not, Classical.not_forall, Nat.not_lt, exists_prop]

theorem fits_default : Fits {} where
  minContentLength := by decide
  maxContentLength := by rintro _ ⟨⟩
  minItemCount := by rintro _ ⟨⟩
  minCount := by rintro _ ⟨⟩

theorem gives_readField (st : List String × Config) (name : String) (h : st.2.Fits) :
    Gives (readField st name) fun st' => st'.2.Fits := by
  obtain ⟨seen, c⟩ := st
  obtain ⟨hmin, hmax, hitems, hpatterns⟩ := h
  have hset {r : Reader Config} (hr : Gives r Fits) : Gives (do
      let seen ← Reader.once seen name
      return (seen, ← Reader.member r)) fun st' => st'.2.Fits :=
    .after (.once _ _) fun _ => .giving (.member hr) fun _ hd => hd
  unfold readField
  dsimp only
  split
  · exact hset (.giving (.natural _ _) fun n hn => ⟨hn, hmax, hitems, hpatterns⟩)
  · exact hset (.giving (.option (.natural _ _)) fun n hn => ⟨hmin, hn, hitems, hpatterns⟩)
  · exact hset (.giving (.option .text) fun _ _ => ⟨hmin, hmax, hitems, hpatterns⟩)
  · exact hset (.giving (.list .text) fun _ _ => ⟨hmin, hmax, hitems, hpatterns⟩)
  · exact hset (.giving (.option (.natural _ _)) fun n hn => ⟨hmin, hmax, hn, hpatterns⟩)
  · exact hset (.giving .boolean fun _ _ => ⟨hmin, hmax, hitems, hpatterns⟩)
  · exact hset (.giving .boolean fun _ _ => ⟨hmin, hmax, hitems, hpatterns⟩)
  · exact hset (.giving .boolean fun _ _ => ⟨hmin, hmax, hitems, hpatterns⟩)
  · exact hset (.giving .boolean fun _ _ => ⟨hmin, hmax, hitems, hpatterns⟩)
  · exact hset (.giving .boolean fun _ _ => ⟨hmin, hmax, hitems, hpatterns⟩)
  · exact hset (.giving .float fun _ _ => ⟨hmin, hmax, hitems, hpatterns⟩)
  · exact hset (.giving (.list ExpectedPattern.gives_read) fun _ hp => ⟨hmin, hmax, hitems, hp⟩)
  · exact .after (.member .skip) fun _ => .pure ⟨hmin, hmax, hitems, hpatterns⟩

theorem gives_read : Gives read Fits := by
  obtain ⟨hmin, hmax, hitems, hpatterns⟩ := fits_default
  refine .record ?_ (.bind (.fields gives_readField fits_default) fun _ hc => .pure hc) _
  -- A list gives the options in their order, and may end early.
  refine .bind (.item? (.natural _ _) true) fun min hgmin => ?_
  refine .bind (.item? (.option (.natural _ _)) false) fun max hgmax => ?_
  refine .after (.item? (.option .text) false) fun _ => ?_
  refine .after (.item? (.list .text) false) fun _ => ?_
  refine .bind (.item? (.option (.natural _ _)) false) fun items hgitems => ?_
  refine .after (.item? .boolean false) fun _ => .after (.item? .boolean false) fun _ => ?_
  refine .after (.item? .boolean false) fun _ => .after (.item? .boolean false) fun _ => ?_
  refine .after (.item? .boolean false) fun _ => .after (.item? .float false) fun _ => ?_
  refine .giving (.item? (.list ExpectedPattern.gives_read) false) fun patterns hgpatterns => ?_
  have hgetD {α : Type} {P : α → Prop} {o : Option α} {d : α} (ho : ∀ a ∈ o, P a) (hd : P d) :
      P (o.getD d) := by
    cases o with
    | none => exact hd
    | some a => exact ho a rfl
  exact ⟨hgetD hgmin hmin, hgetD hgmax hmax, hgetD hgitems hitems, hgetD hgpatterns hpatterns⟩

theorem signed_withoutSurplus {v : Value} (h : v.Signed) : (withoutSurplus v).Signed := by
  unfold withoutSurplus
  split
  next values =>
    cases h with
    | list h => exact .list fun v hv => h v (List.mem_of_mem_take hv)
  next => exact h

theorem signed_readable {v : Value} (h : v.Signed) : (readable v).Signed := by
  unfold readable
  split
  next fields =>
    cases h with
    | record h =>
      refine .record (List.forall_mem_map.2 fun f hf => ?_)
      split
      next patterns =>
        have hpatterns := h _ hf
        cases hpatterns with
        | list hpatterns =>
          exact .list (List.forall_mem_map.2 fun v hv => signed_withoutSurplus (hpatterns v hv))
      next => exact h _ hf
  next => exact h

/-- Whatever is read from a file could be written to one. -/
theorem fits_of_ofToml {text : String} {c : Config} (h : ofToml text = .ok c) : c.Fits := by
  rw [ofToml] at h
  split at h
  next => cases h
  next v hv =>
    split at h
    next c' hc =>
      cases h
      rw [ofValue] at hc
      split at hc
      next hrun =>
        cases hc
        exact gives_read.run (signed_readable (Toml.signed_of_parse hv)) 0 0 hrun
      next => cases hc
    next => cases h
    next => cases h

end Config

end SoftFail
