/-! ASCII letter case. -/

namespace SoftFail.Text

def lower (s : List Char) : List Char := s.map Char.toLower

def lowerCase (s : String) : String := String.ofList (lower s.toList)

theorem toLower_toLower (c : Char) : c.toLower.toLower = c.toLower := by
  unfold Char.toLower
  split
  · rename_i h
    split
    · rename_i h'
      have h₁ := UInt32.le_iff_toNat_le.1 h.1
      have h₂ := UInt32.le_iff_toNat_le.1 h.2
      have h₃ := UInt32.le_iff_toNat_le.1 h'.2
      simp only [UInt32.toNat_add, Char.reduceVal, UInt32.reduceSub, UInt32.reduceToNat] at h₁ h₂ h₃
      omega
    · rfl
  · rfl

theorem lower_lower (s : List Char) : lower (lower s) = lower s := by
  simp only [lower, List.map_map]
  exact List.map_congr_left fun c _ => toLower_toLower c

theorem lowerCase_lowerCase (s : String) : lowerCase (lowerCase s) = lowerCase s := by
  simp [lowerCase, lower_lower]

theorem length_lower (s : List Char) : (lower s).length = s.length := by simp [lower]

end SoftFail.Text
