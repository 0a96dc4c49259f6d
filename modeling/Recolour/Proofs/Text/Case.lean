import Recolour.Text.Case

/-!
# Letter case

Making the letters of a text small moves the capital letters and nothing else, so it makes no
difference the second time.  Two texts differ at most in letter case exactly if they are the same
once their letters are made small.  So this is an equivalence, and no look-up tells one of its two
sides from the other.
-/

namespace Recolour.Text

/-! ### Small letters -/

theorem toLower_eq_or (c : Char) :
  c.toLower = c ∨ 65 ≤ c.toNat ∧ c.toNat ≤ 90 ∧ c.toLower.toNat = c.toNat + 32
  := by
  by_cases h : c.val ≥ 'A'.val ∧ c.val ≤ 'Z'.val
  · right
    have hlower : c.toLower.val = c.val + ('a'.val - 'A'.val) := congrArg Char.val (dif_pos h)
    have hlow : 65 ≤ c.toNat := UInt32.le_iff_toNat_le.mp h.1
    have hhigh : c.toNat ≤ 90 := UInt32.le_iff_toNat_le.mp h.2
    have hshift : c.toLower.toNat = (c.toNat + 32) % 2 ^ 32 :=
      (congrArg UInt32.toNat hlower).trans (UInt32.toNat_add _ _)
    rw [Nat.mod_eq_of_lt (by omega)] at hshift
    exact ⟨hlow, hhigh, hshift⟩
  · left
    apply dif_neg h

theorem toLower_toLower (c : Char) :
  c.toLower.toLower = c.toLower
  := by
  obtain hsame | ⟨hlow, -, hshift⟩ := toLower_eq_or c
  · rw [hsame, hsame]
  · obtain hsmall | ⟨-, hhigh, -⟩ := toLower_eq_or c.toLower
    · exact hsmall
    · omega

variable {s t : String}

theorem foldCase_foldCase (s : String) :
  foldCase (foldCase s) = foldCase s
  := by
  have hfold : Char.toLower ∘ Char.toLower = Char.toLower := funext toLower_toLower
  rw [foldCase, foldCase, String.toList_ofList, List.map_map, hfold]

/-! ### Comparing texts -/

theorem sameFolded_iff :
  sameFolded s t = true ↔ foldCase s = foldCase t
  := beq_iff_eq

theorem sameFolded_eq_false_iff :
  sameFolded s t = false ↔ foldCase s ≠ foldCase t
  := beq_eq_false_iff_ne

end Recolour.Text
