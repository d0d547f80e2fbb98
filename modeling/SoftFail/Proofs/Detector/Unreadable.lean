import SoftFail.Proofs.Detector.FirstFailure
import SoftFail.Proofs.Text.Utf8

/-! Bytes that are no text fail closed: no check that scans the body decides on the empty text that
stands for them. -/

namespace SoftFail

open Text.Utf8

namespace Snapshot

variable {bytes : ByteArray}

def received (status : UInt16) (bytes : ByteArray) (headers : Headers) (hops : List Hop) :
    Snapshot :=
  ((ofBytes status bytes).withHeaders headers).withRedirects hops

theorem body_received (status : UInt16) (headers : Headers) (hops : List Hop) :
    (received status bytes headers hops).body =
      match decode bytes with
      | .ok s => .text s
      | .error f => .undecodable f.message := rfl

theorem text?_received_of_wellFormed (h : WellFormed bytes.data.toList) (status : UInt16)
    (headers : Headers) (hops : List Hop) :
    ∃ t, (received status bytes headers hops).text? = some t ∧ t.toUTF8 = bytes ∧
      (received status bytes headers hops).contentLength = bytes.size := by
  obtain ⟨t, ht, hbytes⟩ := decode_of_wellFormed h
  have htext : (received status bytes headers hops).text? = some t := by
    rw [text?, body_received, ht, Body.text?]
  refine ⟨t, htext, hbytes, ?_⟩
  rw [contentLength, htext, ← hbytes]
  rfl

theorem body_received_of_not_wellFormed (h : ¬WellFormed bytes.data.toList) (status : UInt16)
    (headers : Headers) (hops : List Hop) :
    ∃ error, (received status bytes headers hops).body = .undecodable error := by
  obtain ⟨f, hf⟩ := decode_of_not_wellFormed h
  exact ⟨f.message, by rw [body_received, hf]⟩

theorem text?_received_of_not_wellFormed (h : ¬WellFormed bytes.data.toList) (status : UInt16)
    (headers : Headers) (hops : List Hop) :
    (received status bytes headers hops).text? = none ∧
      (received status bytes headers hops).contentLength = 0 := by
  obtain ⟨error, hbody⟩ := body_received_of_not_wellFormed h status headers hops
  have htext : (received status bytes headers hops).text? = none := by
    rw [text?, hbody, Body.text?]
  exact ⟨htext, by rw [contentLength, htext]; rfl⟩

end Snapshot

namespace Detector

variable {d : Detector} {s : Snapshot}

theorem failed_decode {error : String} (h : s.body = .undecodable error) :
    (d.run .decode s).passed = false := by
  rw [Bool.eq_false_iff, Ne, run, Check.passed_run_iff]
  change Check.decodeComplaint s.body ≠ none
  rw [h]
  exact Option.some_ne_none _

theorem failed_contentLength (h : s.contentLength = 0) :
    (d.run .contentLength s).passed = false := by
  rw [Bool.eq_false_iff, Ne, run, Check.passed_run_iff]
  change Check.contentLengthComplaint d.config s.contentLength ≠ none
  rw [h, Check.contentLengthComplaint, if_pos rfl]
  exact Option.some_ne_none _

/-- Bytes are the body exactly when they are text. When they are none, or there are none of them,
the verdict is a failure no later than that of the length. -/
theorem evaluate_received {config : Config} (hd : ofConfig config = .ok d) (removed : List Check)
    (status : UInt16) (bytes : ByteArray) (headers : Headers) (hops : List Hop) :
    let s := Snapshot.received status bytes headers hops
    let reduced := d.withoutAll removed
    (WellFormed bytes.data.toList →
        ∃ t, s.text? = some t ∧ t.toUTF8 = bytes ∧ s.contentLength = bytes.size) ∧
      (¬WellFormed bytes.data.toList → s.text? = none ∧ s.contentLength = 0) ∧
      (¬WellFormed bytes.data.toList ∧ (.decode ∈ reduced.plan ∨ .contentLength ∈ reduced.plan) ∨
          bytes.size = 0 ∧ .contentLength ∈ reduced.plan →
        ∃ c category reason, reduced.evaluate s = .invalid c category reason ∧
          c.index ≤ Check.contentLength.index) := by
  intro s reduced
  refine ⟨fun h => Snapshot.text?_received_of_wellFormed h status headers hops,
    fun h => Snapshot.text?_received_of_not_wellFormed h status headers hops, ?_⟩
  have hplan : reduced.plan.Pairwise (·.index < ·.index) := plan_ascending hd removed
  rintro (⟨hbad, hdecode | hlength⟩ | ⟨hempty, hlength⟩)
  · obtain ⟨error, hbody⟩ := Snapshot.body_received_of_not_wellFormed hbad status headers hops
    obtain ⟨c, category, reason, hv, hle⟩ :=
      exists_evaluate_eq_invalid hplan hdecode (failed_decode hbody)
    exact ⟨c, category, reason, hv, Nat.le_trans hle (by decide)⟩
  · have hzero := (Snapshot.text?_received_of_not_wellFormed hbad status headers hops).2
    exact exists_evaluate_eq_invalid hplan hlength (failed_contentLength hzero)
  · -- No bytes are well-formed, and the text they encode is empty.
    have hnil : WellFormed bytes.data.toList := by
      have hdata : bytes.data.toList = [] := List.length_eq_zero_iff.1 hempty
      rw [hdata]
      exact .nil
    obtain ⟨_, _, _, hsize⟩ := Snapshot.text?_received_of_wellFormed hnil status headers hops
    exact exists_evaluate_eq_invalid hplan hlength (failed_contentLength (hsize.trans hempty))

/-- A cut-off character, judged by the length of the page but not by its decoding. -/
theorem evaluate_received_cutOff :
    ∃ d, ofConfig { expectedContentType := none } = .ok d ∧
      ¬WellFormed (ByteArray.mk #[0x6F, 0x6B, 0xC3]).data.toList ∧
      .contentLength ∈ (d.withoutAll [.decode]).plan ∧
      ∃ c category reason, (d.withoutAll [.decode]).evaluate
          (.received 200 (.mk #[0x6F, 0x6B, 0xC3]) .empty []) = .invalid c category reason ∧
        c.index ≤ Check.contentLength.index := by
  have hd : ofConfig { expectedContentType := none } = .ok _ :=
    ofConfig_eq_ok_iff.2 ⟨rfl, [], rfl, rfl⟩
  have hbad : ¬WellFormed (ByteArray.mk #[0x6F, 0x6B, 0xC3]).data.toList := by
    rw [← isValidUTF8_iff]
    decide +kernel
  refine ⟨_, hd, hbad, by decide +kernel, ?_⟩
  obtain ⟨_, _, hfail⟩ := evaluate_received hd [.decode] 200 (.mk #[0x6F, 0x6B, 0xC3]) .empty []
  exact hfail (.inl ⟨hbad, .inr (by decide +kernel)⟩)

end Detector

end SoftFail
