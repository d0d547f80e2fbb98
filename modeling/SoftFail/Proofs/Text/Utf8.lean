import Mathlib.Data.List.Forall2
import Mathlib.Tactic.SplitIfs
import SoftFail.Text.Utf8

/-! Which bytes are text: those that are put together from the byte sequences that the table of
well-formed UTF-8 allows. Overlong forms, surrogates, numbers beyond the last character and cut-off
sequences are not among them. -/

namespace SoftFail.Text.Utf8

def forms : List (List (Nat × Nat)) :=
  let any := (0x80, 0xBF)
  [[(0x00, 0x7F)], [(0xC2, 0xDF), any], [(0xE0, 0xE0), (0xA0, 0xBF), any],
    [(0xE1, 0xEC), any, any], [(0xED, 0xED), (0x80, 0x9F), any], [(0xEE, 0xEF), any, any],
    [(0xF0, 0xF0), (0x90, 0xBF), any, any], [(0xF1, 0xF3), any, any, any],
    [(0xF4, 0xF4), (0x80, 0x8F), any, any]]

def Fits (form : List (Nat × Nat)) (bytes : List UInt8) : Prop :=
  List.Forall₂ (fun range b => range.1 ≤ b.toNat ∧ b.toNat ≤ range.2) form bytes

inductive WellFormed : List UInt8 → Prop
  | nil : WellFormed []
  | append {form : List (Nat × Nat)} {bytes rest : List UInt8} (hform : form ∈ forms)
    (hbytes : Fits form bytes) (hrest : WellFormed rest) : WellFormed (bytes ++ rest)

/-! Every character is encoded in one of the forms. -/

theorem exists_fits (c : Char) : ∃ form ∈ forms, Fits form (String.utf8EncodeChar c) := by
  have hvalid : c.toNat < 0xD800 ∨ 0xDFFF < c.toNat ∧ c.toNat < 0x110000 := c.valid
  have hn : c.val.toNat = c.toNat := rfl
  unfold String.utf8EncodeChar
  rw [hn]
  generalize c.toNat = n at hvalid
  simp only [forms, List.mem_cons, List.not_mem_nil, or_false, exists_eq_or_imp, exists_eq_left,
    Fits]
  split_ifs <;> simp <;> omega

/-! Every sequence in one of the forms encodes a character. The first byte of a form may narrow down
the range of the second one, which keeps out what a shorter sequence encodes, the surrogates and
what is no character any more. -/

theorem exists_toNat_eq {n : Nat} (h : n.isValidChar) : ∃ c : Char, c.val.toNat = n :=
  ⟨Char.ofNatAux n h, rfl⟩

theorem exists_encoded_one {a : UInt8} (ha : a.toNat ≤ 0x7F) :
    ∃ k, String.utf8EncodeChar k = [a] := by
  obtain ⟨k, hk⟩ := exists_toNat_eq (n := a.toNat) (.inl (by omega))
  refine ⟨k, ?_⟩
  unfold String.utf8EncodeChar
  rw [hk, if_pos ha, UInt8.ofNat_toNat]

theorem exists_encoded_two {a b : UInt8} (ha : 0xC2 ≤ a.toNat ∧ a.toNat ≤ 0xDF)
    (hb : 0x80 ≤ b.toNat ∧ b.toNat ≤ 0xBF) : ∃ k, String.utf8EncodeChar k = [a, b] := by
  have hn : ((a.toNat - 0xC0) * 64 + (b.toNat - 0x80)).isValidChar := .inl (by omega)
  obtain ⟨k, hk⟩ := exists_toNat_eq hn
  refine ⟨k, ?_⟩
  unfold String.utf8EncodeChar
  rw [hk, if_neg (by omega), if_pos (by omega)]
  simp [← UInt8.toNat_inj]
  omega

theorem exists_encoded_three {a b c : UInt8} (ha : 0xE0 ≤ a.toNat ∧ a.toNat ≤ 0xEF)
    (hb : 0x80 ≤ b.toNat ∧ b.toNat ≤ 0xBF) (hc : 0x80 ≤ c.toNat ∧ c.toNat ≤ 0xBF)
    (hlong : a.toNat = 0xE0 → 0xA0 ≤ b.toNat) (hsurrogate : a.toNat = 0xED → b.toNat ≤ 0x9F) :
    ∃ k, String.utf8EncodeChar k = [a, b, c] := by
  have hn : ((a.toNat - 0xE0) * 4096 + (b.toNat - 0x80) * 64 + (c.toNat - 0x80)).isValidChar := by
    change _ < 0xD800 ∨ 0xDFFF < _ ∧ _ < 0x110000
    omega
  obtain ⟨k, hk⟩ := exists_toNat_eq hn
  refine ⟨k, ?_⟩
  unfold String.utf8EncodeChar
  rw [hk, if_neg (by omega), if_neg (by omega), if_pos (by omega)]
  simp [← UInt8.toNat_inj]
  omega

theorem exists_encoded_four {a b c d : UInt8} (ha : 0xF0 ≤ a.toNat ∧ a.toNat ≤ 0xF4)
    (hb : 0x80 ≤ b.toNat ∧ b.toNat ≤ 0xBF) (hc : 0x80 ≤ c.toNat ∧ c.toNat ≤ 0xBF)
    (hd : 0x80 ≤ d.toNat ∧ d.toNat ≤ 0xBF) (hlong : a.toNat = 0xF0 → 0x90 ≤ b.toNat)
    (hlarge : a.toNat = 0xF4 → b.toNat ≤ 0x8F) :
    ∃ k, String.utf8EncodeChar k = [a, b, c, d] := by
  have hn : ((a.toNat - 0xF0) * 262144 + (b.toNat - 0x80) * 4096 + (c.toNat - 0x80) * 64 +
      (d.toNat - 0x80)).isValidChar := by
    change _ < 0xD800 ∨ 0xDFFF < _ ∧ _ < 0x110000
    omega
  obtain ⟨k, hk⟩ := exists_toNat_eq hn
  refine ⟨k, ?_⟩
  unfold String.utf8EncodeChar
  rw [hk, if_neg (by omega), if_neg (by omega), if_neg (by omega)]
  simp [← UInt8.toNat_inj]
  omega

theorem exists_encoded {form : List (Nat × Nat)} {bytes : List UInt8} (hform : form ∈ forms)
    (hbytes : Fits form bytes) : ∃ k, String.utf8EncodeChar k = bytes := by
  simp only [forms, List.mem_cons, List.not_mem_nil, or_false] at hform
  rcases hform with rfl | rfl | rfl | rfl | rfl | rfl | rfl | rfl | rfl <;>
    simp only [Fits, List.forall₂_cons_left_iff, List.forall₂_nil_left_iff] at hbytes
  · obtain ⟨a, _, ⟨_, ha⟩, rfl, rfl⟩ := hbytes
    exact exists_encoded_one ha
  · obtain ⟨a, _, ha, ⟨b, _, hb, rfl, rfl⟩, rfl⟩ := hbytes
    exact exists_encoded_two ha hb
  iterate 4
    · obtain ⟨a, _, ha, ⟨b, _, hb, ⟨c, _, hc, rfl, rfl⟩, rfl⟩, rfl⟩ := hbytes
      apply exists_encoded_three <;> omega
  iterate 3
    · obtain ⟨a, _, ha, ⟨b, _, hb, ⟨c, _, hc, ⟨d, _, hd, rfl, rfl⟩, rfl⟩, rfl⟩, rfl⟩ := hbytes
      apply exists_encoded_four <;> omega

theorem wellFormed_iff {bytes : List UInt8} :
    WellFormed bytes ↔ ∃ cs : List Char, cs.flatMap String.utf8EncodeChar = bytes := by
  constructor
  · intro h
    induction h with
    | nil => exact ⟨[], rfl⟩
    | append hform hbytes _ ih =>
      obtain ⟨k, rfl⟩ := exists_encoded hform hbytes
      obtain ⟨cs, rfl⟩ := ih
      exact ⟨k :: cs, List.flatMap_cons⟩
  · rintro ⟨cs, rfl⟩
    induction cs with
    | nil => exact .nil
    | cons c cs ih =>
      obtain ⟨form, hform, hfits⟩ := exists_fits c
      rw [List.flatMap_cons]
      exact .append hform hfits ih

theorem isValidUTF8_iff (bytes : ByteArray) :
    bytes.IsValidUTF8 ↔ WellFormed bytes.data.toList := by
  rw [wellFormed_iff]
  constructor
  · rintro ⟨cs, rfl⟩
    exact ⟨cs, by rw [List.utf8Encode, List.data_toByteArray]⟩
  · rintro ⟨cs, hcs⟩
    refine ⟨cs, ByteArray.ext ?_⟩
    rw [List.utf8Encode, List.data_toByteArray, hcs]

theorem decode_of_wellFormed {bytes : ByteArray} (h : WellFormed bytes.data.toList) :
    ∃ s, decode bytes = .ok s ∧ s.toUTF8 = bytes := by
  have hvalid := (isValidUTF8_iff bytes).2 h
  refine ⟨String.fromUTF8 bytes hvalid, ?_, rfl⟩
  rw [decode, String.fromUTF8?, dif_pos hvalid]

theorem decode_of_not_wellFormed {bytes : ByteArray} (h : ¬WellFormed bytes.data.toList) :
    ∃ f, decode bytes = .error f := by
  have hvalid := (isValidUTF8_iff bytes).not.2 h
  rw [decode, String.fromUTF8?, dif_neg hvalid]
  exact ⟨_, rfl⟩

end SoftFail.Text.Utf8
