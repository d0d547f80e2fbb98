import SoftFail.Proofs.Detector.FirstFailure
import SoftFail.Proofs.Text.Window

/-! Keywords of robot detection: the first one in the order of the table that is mentioned is
reported, with what stands around its first mention. -/

namespace SoftFail.Check

open Text

variable {k : String} {x m y body : List Char}

theorem botWords_ne_nil : ∀ k ∈ botWords, k.toList ≠ [] := by decide

theorem keywordComplaint_eq_none_iff :
    keywordComplaint body = none ↔ ∀ k ∈ botWords, ¬Mentions body k.toList := by
  simp only [keywordComplaint, List.findSome?_eq_none_iff, Option.map_eq_none_iff,
    index?_lower_eq_none_iff]

theorem keywordComplaint_of_first {before after : List String}
    (hsplit : botWords = before ++ k :: after)
    (hbefore : ∀ w ∈ before, ¬Mentions body w.toList)
    (hfirst : FirstMention body k.toList x m y) :
    keywordComplaint body = some (.botKeyword k (String.ofList
      (x.drop (x.length - keywordRadius) ++ m ++ y.take keywordRadius))) := by
  have hindex : index? k.toList (lower body) = some x.length :=
    index?_lower_eq_some_iff.2 ⟨x, m, y, hfirst, rfl⟩
  have hlength : k.length = m.length := by
    rw [← String.length_toList, ← hfirst.word, length_lower]
  rw [← slice_around, ← hfirst.whole, keywordComplaint, hsplit]
  refine (findSome?_of_first (fun w hw => ?_) ?_).trans ?_
  · rw [index?_lower_eq_none_iff.2 (hbefore w hw), Option.map_none]
  · rw [hindex]
    exact Option.some_ne_none _
  · rw [hindex, hlength, Option.map_some]

/-- The first keyword of the table that the body mentions is reported. The quotation is the part of
the body around its first mention, and what the bytes of the lowered body lead to. -/
theorem botKeywords_quoted (s : Subject) :
    ((botKeywords.run s).passed = true ↔ ∀ k ∈ botWords, ¬Mentions s.body k.toList) ∧
    (∀ k ∈ botWords, ∀ j, encode k.toList <+: (encode (lower s.body)).drop j →
      ∃ x m y, s.body = x ++ m ++ y ∧ lower m = k.toList ∧ (encode x).length = j ∧
        (encode (x ++ m)).length = j + (encode k.toList).length) ∧
    ∀ before k after, botWords = before ++ k :: after →
      (∀ w ∈ before, ¬Mentions s.body w.toList) → Mentions s.body k.toList →
      ∃ a pre m post b start,
        s.body = a ++ (pre ++ m ++ post) ++ b ∧
        FirstMention s.body k.toList (a ++ pre) m (post ++ b) ∧
        pre.length = min 50 (a ++ pre).length ∧ post.length = min 50 (post ++ b).length ∧
        botKeywords.run s =
          .fail (Complaint.botKeyword k (String.ofList (pre ++ m ++ post))).message ∧
        encode k.toList <+: (encode (lower s.body)).drop start ∧
        (∀ i < start, ¬encode k.toList <+: (encode (lower s.body)).drop i) ∧
        windowAtBytes? s.body start (start + (encode k.toList).length) 50 =
          some (pre ++ m ++ post) := by
  refine ⟨?_, ?_, ?_⟩
  · exact (passed_run_iff _ _).trans keywordComplaint_eq_none_iff
  · intro k hk j hj
    obtain ⟨x, m, y, hs, hm, hx⟩ := (encode_prefix_drop_lower_iff (botWords_ne_nil k hk)).1 hj
    refine ⟨x, m, y, hs, hm, hx, ?_⟩
    rw [encode_append, List.length_append, hx, ← hm, length_encode_lower]
  · intro before k after hsplit hbefore hmention
    have hk : k ∈ botWords := hsplit ▸ by simp
    obtain ⟨x, m, y, hfirst⟩ := hmention.exists_first
    have hx : x.take (x.length - 50) ++ x.drop (x.length - 50) = x := List.take_append_drop _ _
    have hy : y.take 50 ++ y.drop 50 = y := List.take_append_drop _ _
    refine ⟨x.take (x.length - 50), x.drop (x.length - 50), m, y.take 50, y.drop 50,
      (encode x).length, ?_, ?_, ?_, ?_, ?_, ?_, ?_, ?_⟩
    · calc s.body = x ++ m ++ y := hfirst.whole
        _ = (x.take (x.length - 50) ++ x.drop (x.length - 50)) ++ m ++
            (y.take 50 ++ y.drop 50) := by rw [hx, hy]
        _ = _ := by simp only [List.append_assoc]
    · rwa [hx, hy]
    · rw [hx, List.length_drop]
      omega
    · rw [hy, List.length_take]
    · rw [run, complaint?, keywordComplaint_of_first hsplit hbefore hfirst]
      rfl
    · exact (encode_prefix_drop_lower_iff (botWords_ne_nil k hk)).2
        ⟨x, m, y, hfirst.whole, hfirst.word, rfl⟩
    · exact fun i hi hat => Nat.not_lt.2 (hfirst.bytes_le (botWords_ne_nil k hk) hat) hi
    · have hstop : (encode x).length + (encode k.toList).length = (encode (x ++ m)).length := by
        rw [← hfirst.word, length_encode_lower, encode_append, List.length_append]
      rw [hstop, hfirst.whole]
      exact windowAtBytes?_around x m y 50

end SoftFail.Check
