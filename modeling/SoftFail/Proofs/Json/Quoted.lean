import Mathlib.Tactic.SplitIfs
import SoftFail.Json.Quoted

/-! Quoted text is scanned back: what every escape stands for is the character it was made of. -/

namespace SoftFail.Json

open Decode Text

def Scan.sound (mode : Mode) (done : List Char) : Scan := ⟨mode, done, none, none⟩

theorem escape_cases (c : Char) :
    (∃ l, l ≠ 'u' ∧ unescape? l = some c ∧ escape c = ['\\', l]) ∨
      (c.toNat < 0x20 ∧ escape c = '\\' :: 'u' :: hexPlaces 4 c.toNat) ∨
      (¬c.toNat < 0x20 ∧ c ≠ '"' ∧ c ≠ '\\' ∧ escape c = [c]) := by
  unfold escape
  split_ifs with h₁ h₂ h₃ h₄ h₅ h₆ h₇ h₈
  · exact .inl ⟨'"', by decide, by rw [h₁]; rfl, rfl⟩
  · exact .inl ⟨'\\', by decide, by rw [h₂]; rfl, rfl⟩
  · exact .inl ⟨'n', by decide, by rw [h₃]; rfl, rfl⟩
  · exact .inl ⟨'r', by decide, by rw [h₄]; rfl, rfl⟩
  · exact .inl ⟨'t', by decide, by rw [h₅]; rfl, rfl⟩
  · exact .inl ⟨'b', by decide, by rw [h₆]; rfl, rfl⟩
  · exact .inl ⟨'f', by decide, by rw [h₇]; rfl, rfl⟩
  · exact .inr (.inl ⟨h₈, rfl⟩)
  · exact .inr (.inr ⟨h₈, h₁, h₂, rfl⟩)

section

variable (size taken at_ : Nat) (done s : List Char)

theorem scanText_hexDigit {count : Nat} (hcount : count < 3) (n start : Nat) {d : Nat}
    (hd : d < 16) :
    ∃ at', scanText size taken at_ (.sound (.hex count n start) done) (hexDigitChar d :: s) =
      scanText size (taken + 1) at' (.sound (.hex (count + 1) (16 * n + d) start) done) s := by
  refine ⟨at_ + (hexDigitChar d).utf8Size, ?_⟩
  rw [scanText]
  simp only [Scan.sound, hexValue?_hexDigitChar d hd, if_pos hcount]

theorem scanText_lastHexDigit (n start : Nat) {d : Nat} (hd : d < 16) :
    ∃ at', scanText size taken at_ (.sound (.hex 3 n start) done) (hexDigitChar d :: s) =
      scanText size (taken + 1) at' ((Scan.sound .plain done).unit (16 * n + d) at') s := by
  refine ⟨at_ + (hexDigitChar d).utf8Size, ?_⟩
  rw [scanText]
  simp only [Scan.sound, hexValue?_hexDigitChar d hd, if_neg (Nat.lt_irrefl 3)]
  rfl

theorem scanText_hexPlaces (start : Nat) {n : Nat} (hn : n < 0x10000) :
    ∃ at', scanText size taken at_ (.sound (.hex 0 0 start) done) (hexPlaces 4 n ++ s) =
      scanText size (taken + 4) at' ((Scan.sound .plain done).unit n at') s := by
  have hplaces : hexPlaces 4 n ++ s = hexDigitChar (n / 4096 % 16) ::
      hexDigitChar (n / 256 % 16) :: hexDigitChar (n / 16 % 16) :: hexDigitChar (n % 16) :: s := by
    simp [hexPlaces, Nat.div_div_eq_div_mul]
  have hlt (m : Nat) : m % 16 < 16 := Nat.mod_lt m (by decide)
  obtain ⟨at₁, h₁⟩ := scanText_hexDigit size taken at_ done _ (by decide : 0 < 3) 0 start
    (hlt (n / 4096))
  obtain ⟨at₂, h₂⟩ := scanText_hexDigit size _ at₁ done _ (by decide : 1 < 3) _ start
    (hlt (n / 256))
  obtain ⟨at₃, h₃⟩ := scanText_hexDigit size _ at₂ done _ (by decide : 2 < 3) _ start
    (hlt (n / 16))
  obtain ⟨at₄, h₄⟩ := scanText_lastHexDigit size _ at₃ done s _ start (hlt n)
  have hvalue : 16 * (16 * (16 * (16 * 0 + n / 4096 % 16) + n / 256 % 16) + n / 16 % 16) +
      n % 16 = n := by
    omega
  refine ⟨at₄, ?_⟩
  rw [hplaces]
  refine h₁.trans (h₂.trans (h₃.trans ?_))
  rw [hvalue] at h₄
  exact h₄

theorem scanText_unescape {l c : Char} (hl : l ≠ 'u') (hc : unescape? l = some c) :
    ∃ at', scanText size taken at_ (.sound .plain done) ('\\' :: l :: s) =
      scanText size (taken + 2) at' (.sound .plain (c :: done)) s := by
  refine ⟨at_ + '\\'.utf8Size + l.utf8Size, ?_⟩
  rw [scanText]
  simp only [Scan.sound, if_true]
  rw [scanText]
  simp only [if_neg hl, Scan.unpaired, Option.isSome_none, Bool.false_eq_true, if_false, hc]
  rfl

theorem scanText_escape (c : Char) :
    ∃ at', scanText size taken at_ (.sound .plain done) (escape c ++ s) =
      scanText size (taken + (escape c).length) at' (.sound .plain (c :: done)) s := by
  rcases escape_cases c with ⟨l, hl, hc, he⟩ | ⟨hcontrol, he⟩ | ⟨hcontrol, hquote, hslash, he⟩
  · rw [he]
    exact scanText_unescape size taken at_ done s hl hc
  · have hn : c.toNat < 0x10000 := Nat.lt_trans hcontrol (by decide)
    obtain ⟨at', h⟩ := scanText_hexPlaces size (taken + 2) (at_ + 1 + 1) done s (at_ + 1 + 1) hn
    -- Control characters are no halves of surrogate pairs.
    have hunit : (Scan.sound .plain done).unit c.toNat at' = .sound .plain (c :: done) := by
      have hlow : ¬0xDC00 ≤ c.toNat := by omega
      have hhigh : ¬0xD800 ≤ c.toNat := by omega
      simp [Scan.unit, Scan.sound, Scan.push, hlow, hhigh, Char.ofNat_toNat]
    have hlength : (hexPlaces 4 c.toNat).length = 4 := by simp [hexPlaces]
    refine ⟨at', ?_⟩
    rw [he, List.length_cons, List.length_cons, hlength, ← hunit, ← h]
    rfl
  · refine ⟨at_ + c.utf8Size, ?_⟩
    rw [he, List.singleton_append, scanText]
    simp only [Scan.sound, Scan.unpaired, Option.isSome_none, Bool.false_eq_true, if_false,
      if_neg hcontrol, if_neg hquote, if_neg hslash]
    rfl

/-- The characters of a text, escaped, are scanned back up to the closing quotation mark. -/
theorem scanText_escaped (cs : List Char) :
    ∃ stop, scanText size taken at_ (.sound .plain done) (cs.flatMap escape ++ '"' :: s) =
      ⟨.text (.ok (String.ofList (done.reverse ++ cs))) none,
        taken + (cs.flatMap escape).length + 1, stop, false⟩ := by
  induction cs generalizing taken at_ done with
  | nil =>
    refine ⟨at_ + '"'.utf8Size, ?_⟩
    rw [List.flatMap_nil, List.nil_append, scanText, List.append_nil]
    rfl
  | cons c cs ih =>
    obtain ⟨at', hc⟩ := scanText_escape size taken at_ done (cs.flatMap escape ++ '"' :: s) c
    obtain ⟨stop, hcs⟩ := ih (taken + (escape c).length) at' (c :: done)
    refine ⟨stop, ?_⟩
    rw [List.flatMap_cons, List.append_assoc, hc, hcs, List.reverse_cons, List.append_assoc,
      List.length_append, Nat.add_assoc taken]
    rfl

end

theorem quote_eq (s : String) (tail : List Char) :
    quote s tail = '"' :: (s.toList.flatMap escape ++ '"' :: tail) := by
  rw [quote]
  congr 1
  induction s.toList with
  | nil => rfl
  | cons c cs ih => rw [List.foldr_cons, List.flatMap_cons, List.append_assoc, ih]

end SoftFail.Json
