import Mathlib.Data.List.Infix
import SoftFail.Proofs.Text.LetterCase

/-! Bytes and characters: a text found in the bytes of another one stands at the beginning of a
character there, and letter case moves no byte. -/

namespace SoftFail.Text

def encode (s : List Char) : List UInt8 := s.flatMap String.utf8EncodeChar

theorem encode_cons (c : Char) (s : List Char) :
    encode (c :: s) = String.utf8EncodeChar c ++ encode s := List.flatMap_cons

theorem encode_append (s t : List Char) : encode (s ++ t) = encode s ++ encode t :=
  List.flatMap_append

theorem length_encode_lower (s : List Char) : (encode (lower s)).length = (encode s).length := by
  induction s with
  | nil => rfl
  | cons c s ih =>
    simp only [lower_cons, encode_cons, List.length_append, String.length_utf8EncodeChar,
      utf8Size_toLower, ih]

/-- The bytes of a character are told apart from what follows them. -/
theorem eq_of_encodeChar_append {c d : Char} {s t : List UInt8}
    (h : String.utf8EncodeChar c ++ s = String.utf8EncodeChar d ++ t) : c = d := by
  have hdecode (k : Char) (r : List UInt8) :
      ((String.utf8EncodeChar k ++ r).toByteArray).utf8DecodeChar? 0 = some k := by
    rw [List.toByteArray_append, ByteArray.utf8DecodeChar?_utf8EncodeChar_append]
  have hc := hdecode c s
  rw [h, hdecode d t] at hc
  exact (Option.some.inj hc).symm

theorem encode_prefix_iff {k s : List Char} : encode k <+: encode s ↔ k <+: s := by
  constructor
  · intro h
    induction k generalizing s with
    | nil => exact List.nil_prefix
    | cons a k ih =>
      obtain ⟨r, hr⟩ := h
      rw [encode_cons, List.append_assoc] at hr
      cases s with
      | nil => exact absurd (List.append_eq_nil_iff.1 hr).1 String.utf8EncodeChar_ne_nil
      | cons c s =>
        rw [encode_cons] at hr
        obtain rfl := eq_of_encodeChar_append hr
        exact List.cons_prefix_cons.2 ⟨rfl, ih ⟨r, List.append_cancel_left hr⟩⟩
  · rintro ⟨r, rfl⟩
    rw [encode_append]
    exact List.prefix_append _ _

theorem not_encode_prefix_drop {k : List Char} (hk : k ≠ []) {c : Char} {j : Nat} (hpos : 0 < j)
    (hj : j < (String.utf8EncodeChar c).length) (r : List UInt8) :
    ¬encode k <+: (String.utf8EncodeChar c ++ r).drop j := by
  obtain ⟨a, k, rfl⟩ := List.exists_cons_of_ne_nil hk
  have hlength : 0 < (String.utf8EncodeChar a).length :=
    List.length_pos_iff.2 String.utf8EncodeChar_ne_nil
  rintro ⟨t, ht⟩
  have hfirst : (String.utf8EncodeChar c)[j] = (String.utf8EncodeChar a)[0] := by
    have hhead := congrArg (fun bytes => bytes[0]?) ht
    simp only [encode_cons, List.append_assoc, List.getElem?_drop, Nat.add_zero] at hhead
    rw [List.getElem?_append_left hlength, List.getElem?_append_left hj,
      List.getElem?_eq_getElem hlength, List.getElem?_eq_getElem hj] at hhead
    exact (Option.some.inj hhead).symm
  have hbyte := UInt8.isUTF8FirstByte_getElem_zero_utf8EncodeChar (c := a)
  rw [← hfirst, UInt8.isUTF8FirstByte_getElem_utf8EncodeChar] at hbyte
  omega

/-- A text that is found in the bytes of another one is found in its characters. -/
theorem encode_prefix_drop_iff {k s : List Char} (hk : k ≠ []) {j : Nat} :
    encode k <+: (encode s).drop j ↔
      ∃ x y, s = x ++ y ∧ (encode x).length = j ∧ k <+: y := by
  constructor
  · intro h
    induction s generalizing j with
    | nil =>
      have hnil : (encode []).drop j = encode [] := List.drop_nil
      have hstands : k <+: [] := encode_prefix_iff.1 (hnil ▸ h)
      exact absurd (List.prefix_nil.1 hstands) hk
    | cons c s ih =>
      rcases Nat.eq_zero_or_pos j with rfl | hpos
      · exact ⟨[], c :: s, rfl, rfl, encode_prefix_iff.1 h⟩
      rw [encode_cons] at h
      have hj : (String.utf8EncodeChar c).length ≤ j :=
        Nat.le_of_not_lt fun hlt => not_encode_prefix_drop hk hpos hlt _ h
      rw [List.drop_append, List.drop_eq_nil_of_le hj, List.nil_append] at h
      obtain ⟨x, y, rfl, hx, hy⟩ := ih h
      refine ⟨c :: x, y, rfl, ?_, hy⟩
      rw [encode_cons, List.length_append, hx, Nat.add_sub_cancel' hj]
  · rintro ⟨x, y, rfl, rfl, hy⟩
    rw [encode_append, List.drop_left]
    exact encode_prefix_iff.2 hy

end SoftFail.Text
