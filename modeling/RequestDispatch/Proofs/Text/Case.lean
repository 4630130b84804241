/-!
# The case of letters

Only the letters among the first 128 characters have a case, so what holds of the case of a
character is checked for those (`ascii_induction`).
-/

set_option autoImplicit false

namespace RequestDispatch.Text

theorem toLower_of_le {c : Char} (h : 128 ≤ c.toNat) : c.toLower = c := by
  unfold Char.toLower
  split
  · rename_i hletter
    have hle : c.val.toNat ≤ 90 := UInt32.le_iff_toNat_le.1 hletter.2
    change 128 ≤ c.val.toNat at h
    omega
  · rfl

theorem toUpper_of_le {c : Char} (h : 128 ≤ c.toNat) : c.toUpper = c := by
  unfold Char.toUpper
  split
  · rename_i hletter
    have hle : c.val.toNat ≤ 122 := UInt32.le_iff_toNat_le.1 hletter.2
    change 128 ≤ c.val.toNat at h
    omega
  · rfl

/-- What is checked for the first 128 characters and holds of all others, holds of any character. -/
theorem ascii_induction {p : Char → Prop} (hascii : ∀ n < 128, p (Char.ofNat n))
    (hother : ∀ c : Char, 128 ≤ c.toNat → p c) (c : Char) : p c := by
  by_cases h : c.toNat < 128
  · rw [← Char.ofNat_toNat c]
    exact hascii c.toNat h
  · exact hother c (Nat.le_of_not_lt h)

theorem toLower_toUpper : ∀ c : Char, c.toUpper.toLower = c.toLower :=
  ascii_induction (by decide +kernel) fun _ h => by rw [toUpper_of_le h]

theorem toUpper_toLower : ∀ c : Char, c.toLower.toUpper = c.toUpper :=
  ascii_induction (by decide +kernel) fun _ h => by rw [toLower_of_le h]

end RequestDispatch.Text
