import Mathlib.Data.Nat.Notation
import Mathlib.Logic.Function.Basic
import SoftFail.Proofs.Text.LetterCase
import SoftFail.Proofs.Unicode.CaseFold
import SoftFail.Regex.CharSet

/-! Sets of characters as conditions on characters, in any letter case and in one. -/

namespace SoftFail.Regex

open Text

namespace CharSet

variable {s t : CharSet} {p q : Char → Bool} {a : Char}

def Is (s : CharSet) (p : Char → Bool) : Prop := ∀ c : Char, s.contains c.toNat = p c

theorem contains_ofList (ns : List ℕ) (n : ℕ) : (ofList ns).contains n = ns.contains n := by
  rw [ofList, contains, List.any_map, List.contains_eq_any_beq]
  congr 1
  funext m
  simp only [Function.comp_apply, ← Bool.decide_and, beq_eq_decide]
  exact decide_eq_decide.2 (by omega)

theorem contains_single (m n : ℕ) : (single m).contains n = decide (n = m) := by
  have hsingle : single m = ofList [m] := rfl
  rw [hsingle, contains_ofList, List.contains_eq_mem]
  simp only [List.mem_singleton]

theorem is_single (a : Char) : (single a.toNat).Is (· = a) := by
  intro c
  rw [contains_single]
  exact decide_eq_decide.2 Char.toNat_inj

theorem Is.complement (h : s.Is p) : (complement s).Is (!p ·) := fun c => congrArg _ (h c)

theorem Is.union (hs : s.Is p) (ht : t.Is q) : (union s t).Is fun c => p c || q c :=
  fun c => congrArg₂ _ (hs c) (ht c)

theorem Is.folded (h : s.Is p) (hs : ∀ n, Unicode.Cased n → s.contains n = false) :
    (folded s).Is p := by
  intro c
  rw [← h c, contains]
  by_cases hc : Unicode.Cased c.toNat
  · rw [hs _ hc, List.any_eq_false]
    exact fun x hx => by rw [hs x (Unicode.cased_of_mem hx hc)]; decide
  · rw [Unicode.caseVariants_of_not_cased hc, List.any_cons, List.any_nil, Bool.or_false]

def isPlain (a : Char) : Bool := a.toNat < 0x80 && a ∉ capitals

theorem toNat_toLower {c : Char} (hc : c.toNat < 0x80) :
    c.toLower.toNat = if 0x41 ≤ c.toNat ∧ c.toNat ≤ 0x5A then c.toNat + 0x20 else c.toNat := by
  have hall : ∀ n < 0x80, (Char.ofNat n).toLower.toNat =
      if 0x41 ≤ (Char.ofNat n).toNat ∧ (Char.ofNat n).toNat ≤ 0x5A then (Char.ofNat n).toNat + 0x20
      else (Char.ofNat n).toNat := by decide +kernel
  have h := hall c.toNat hc
  rwa [Char.ofNat_toNat] at h

theorem of_isPlain (ha : isPlain a = true) :
    a.toNat < 0x80 ∧ ¬(0x41 ≤ a.toNat ∧ a.toNat ≤ 0x5A) := by
  obtain ⟨hascii, hcapital⟩ := Bool.and_eq_true_iff.1 ha
  have hascii : a.toNat < 0x80 := of_decide_eq_true hascii
  refine ⟨hascii, fun h => ?_⟩
  have hlower := toNat_toLower hascii
  rw [toLower_eq_self (of_decide_eq_true hcapital), if_pos h] at hlower
  omega

theorem toNat_foldLetter (c : Char) : (foldLetter c).toNat =
    if c.toNat < 0x80 then
      if 0x41 ≤ c.toNat ∧ c.toNat ≤ 0x5A then c.toNat + 0x20 else c.toNat
    else if c.toNat = 0x212A then 0x6B else if c.toNat = 0x17F then 0x73 else c.toNat := by
  have hkelvin : c = '\u212A' ↔ c.toNat = 0x212A := Char.toNat_inj.symm
  have hlong : c = '\u017F' ↔ c.toNat = 0x17F := Char.toNat_inj.symm
  rw [foldLetter]
  simp only [hkelvin, hlong, apply_ite Char.toNat]
  split
  next hc => exact toNat_toLower hc
  next => rfl

/-- The variants of a character are what is folded onto it. -/
theorem is_letter (ha : isPlain a = true) :
    (ofList (Unicode.caseVariants a.toNat)).Is (foldLetter · = a) := by
  obtain ⟨hascii, hcapital⟩ := of_isPlain ha
  intro c
  have hfold := toNat_foldLetter c
  rw [contains_ofList, List.contains_eq_mem, decide_eq_decide, ← Char.toNat_inj, hfold]
  by_cases hsmall : 0x61 ≤ a.toNat ∧ a.toNat ≤ 0x7A
  · rw [Unicode.caseVariants_small hsmall.1 hsmall.2, Unicode.letterVariants, List.mem_cons,
      List.mem_cons]
    split_ifs <;> simp <;> omega
  · rw [Unicode.caseVariants_of_not_cased fun h => ?_, List.mem_singleton]
    · split_ifs <;> omega
    · have := Unicode.letter_of_cased h
      omega

def isMark (a : Char) : Bool := isPlain a && !(0x61 ≤ a.toNat && a.toNat ≤ 0x7A)

def letter (ignoreCase : Bool) (a : Char) : CharSet :=
  if ignoreCase then .ofList (Unicode.caseVariants a.toNat) else .single a.toNat

def other (ignoreCase : Bool) (a : Char) : CharSet :=
  .complement (if ignoreCase then .folded (.single a.toNat) else .single a.toNat)

theorem not_cased_of_isMark (ha : isMark a = true) : ¬Unicode.Cased a.toNat := by
  obtain ⟨hplain, hsmall⟩ := Bool.and_eq_true_iff.1 ha
  obtain ⟨hascii, hcapital⟩ := of_isPlain hplain
  intro h
  have := Unicode.letter_of_cased h
  simp only [Bool.not_eq_true', Bool.and_eq_false_iff, decide_eq_false_iff_not] at hsmall
  omega

theorem is_letter_mark (ignoreCase : Bool) (ha : isMark a = true) :
    (letter ignoreCase a).Is (· = a) := by
  cases ignoreCase with
  | false => exact is_single a
  | true =>
    rw [letter, if_pos rfl, Unicode.caseVariants_of_not_cased (not_cased_of_isMark ha)]
    exact is_single a

theorem is_other (ignoreCase : Bool) (ha : isMark a = true) :
    (other ignoreCase a).Is (· ≠ a) := by
  have hset : (if ignoreCase then (single a.toNat).folded else single a.toNat).Is (· = a) := by
    cases ignoreCase with
    | false => exact is_single a
    | true =>
      refine (is_single a).folded fun n hn => ?_
      rw [contains_single]
      exact decide_eq_false fun hna => not_cased_of_isMark ha (hna ▸ hn)
  exact fun c => (hset.complement c).trans decide_not.symm

end CharSet

end SoftFail.Regex
