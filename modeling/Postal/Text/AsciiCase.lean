namespace Postal

def equalIgnoringAsciiCase (a b : String) : Bool :=
  a.toList.map Char.toLower == b.toList.map Char.toLower

theorem toNat_toLower (c : Char) :
    c.toLower.toNat = if 65 ≤ c.toNat ∧ c.toNat ≤ 90 then c.toNat + 32 else c.toNat := by
  by_cases upper : c.val ≥ 'A'.val ∧ c.val ≤ 'Z'.val
  · have lowered : c.toLower.val = c.val + ('a'.val - 'A'.val) := by
      have unfolded : c.toLower = _ := dif_pos upper
      rw [unfolded]
    have bounds : 65 ≤ c.toNat ∧ c.toNat ≤ 90 := upper
    rw [if_pos bounds, Char.toNat, lowered, UInt32.toNat_add]
    change (c.toNat + 32) % 4294967296 = _
    omega
  · have unchanged : c.toLower = c := dif_neg upper
    rw [unchanged, if_neg (show ¬ (65 ≤ c.toNat ∧ c.toNat ≤ 90) from upper)]

theorem toNat_toUpper (c : Char) :
    c.toUpper.toNat = if 97 ≤ c.toNat ∧ c.toNat ≤ 122 then c.toNat - 32 else c.toNat := by
  by_cases lower : c.val ≥ 'a'.val ∧ c.val ≤ 'z'.val
  · have raised : c.toUpper.val = c.val + ('A'.val - 'a'.val) := by
      have unfolded : c.toUpper = _ := dif_pos lower
      rw [unfolded]
    have bounds : 97 ≤ c.toNat ∧ c.toNat ≤ 122 := lower
    rw [if_pos bounds, Char.toNat, raised, UInt32.toNat_add]
    change (c.toNat + 4294967264) % 4294967296 = _
    omega
  · have unchanged : c.toUpper = c := dif_neg lower
    rw [unchanged, if_neg (show ¬ (97 ≤ c.toNat ∧ c.toNat ≤ 122) from lower)]

theorem toLower_toUpper (c : Char) : c.toUpper.toLower = c.toLower := by
  rw [← Char.toNat_inj, toNat_toLower, toNat_toLower, toNat_toUpper]
  by_cases small : 97 ≤ c.toNat ∧ c.toNat ≤ 122
  · rw [if_pos small, if_pos (by omega), if_neg (by omega)]
    omega
  · rw [if_neg small]

theorem equalIgnoringAsciiCase_toUpper (text : String) :
    equalIgnoringAsciiCase text (String.ofList (text.toList.map Char.toUpper)) = true := by
  have lowered : Char.toLower ∘ Char.toUpper = Char.toLower := funext toLower_toUpper
  rw [equalIgnoringAsciiCase, String.toList_ofList, List.map_map, lowered]
  exact beq_self_eq_true _

end Postal
