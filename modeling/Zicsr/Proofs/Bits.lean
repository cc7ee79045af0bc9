import Mathlib.Algebra.Ring.Nat
import Zicsr.Bits

/-
  The bits of fields.

  A mask of the lowest bits is one less than a power of two, so a field is a
  quotient's remainder (`toNat_extract`, `toNat_getField`). Bit by bit, reading a
  field moves its bits down (`getLsbD_getField`) and writing one changes no bit
  outside it (`getLsbD_setField`); the laws of fields follow from these two.
-/

namespace Zicsr.Bits

variable {w : Nat}

/-! ## Masks -/

theorem toNat_mask {len : Nat} (h : len ≤ w) : (((1#w) <<< len) - 1#w).toNat = 2 ^ len - 1 := by
  rcases Nat.eq_zero_or_pos w with rfl | hw
  · obtain rfl : len = 0 := Nat.le_zero.mp h
    rfl
  have hone : 1 < 2 ^ w := Nat.one_lt_two_pow (by omega)
  have hlen : 0 < 2 ^ len := Nat.two_pow_pos len
  rw [BitVec.toNat_sub, BitVec.toNat_shiftLeft, BitVec.toNat_ofNat, Nat.mod_eq_of_lt hone,
    Nat.shiftLeft_eq, Nat.one_mul]
  rcases Nat.lt_or_eq_of_le h with hlt | rfl
  · -- Below the width the shifted one is still there, and one less is the mask.
    have hpow : 2 ^ len < 2 ^ w := Nat.pow_lt_pow_right (by decide) hlt
    rw [Nat.mod_eq_of_lt hpow, show 2 ^ w - 1 + 2 ^ len = 2 ^ w + (2 ^ len - 1) by omega,
      Nat.add_mod_left, Nat.mod_eq_of_lt (by omega)]
  · -- At the full width it is shifted out, and zero less one is the mask.
    rw [Nat.mod_self, Nat.add_zero, Nat.mod_eq_of_lt (by omega)]

theorem toNat_extract (value : BitVec w) (low : Nat) {len : Nat} (h : len ≤ w) :
    (extract value low len).toNat = value.toNat / 2 ^ low % 2 ^ len := by
  rw [extract, BitVec.toNat_and, toNat_mask h, BitVec.toNat_ushiftRight,
    Nat.and_two_pow_sub_one_eq_mod, Nat.shiftRight_eq_div_pow]

theorem getLsbD_ones (len i : Nat) :
    (ones w len).getLsbD i = (decide (i < w) && decide (i < len)) := by
  unfold ones
  by_cases h : w ≤ len
  · rw [if_pos h, BitVec.getLsbD_allOnes]
    by_cases hi : i < w
    · simp [hi, show i < len by omega]
    · simp [hi]
  · rw [if_neg h, BitVec.getLsbD, toNat_mask (by omega), Nat.testBit_two_pow_sub_one]
    by_cases hi : i < len
    · simp [hi, show i < w by omega]
    · simp [hi]

/-! ## Reading and writing bit by bit -/

theorem getLsbD_getField (value : BitVec w) (low len i : Nat) :
    (getField value low len).getLsbD i = (value.getLsbD (low + i) && decide (i < len)) := by
  rw [getField, BitVec.getLsbD_and, BitVec.getLsbD_ushiftRight, getLsbD_ones]
  by_cases hi : i < w
  · simp [hi]
  · -- Above the width there are no bits, shifted or not.
    rw [BitVec.getLsbD_of_ge value (low + i) (by omega)]
    rfl

theorem getLsbD_setField (value field : BitVec w) (low len i : Nat) :
    (setField value low len field).getLsbD i =
      if low ≤ i ∧ i < low + len ∧ i < w then field.getLsbD (i - low) else value.getLsbD i := by
  simp only [setField, BitVec.getLsbD_or, BitVec.getLsbD_and, BitVec.getLsbD_not,
    BitVec.getLsbD_shiftLeft, getLsbD_ones]
  by_cases hi : i < w
  · by_cases hlow : low ≤ i
    · by_cases hlen : i < low + len
      · simp [hi, hlow, hlen, show ¬ i < low by omega, show i - low < w by omega,
          show i - low < len by omega]
      · simp [hi, hlow, hlen, show ¬ i - low < len by omega]
    · simp [hi, hlow, show i < low by omega]
  · rw [BitVec.getLsbD_of_ge value i (by omega)]
    simp [hi]

/-! ## The laws of fields -/

theorem toNat_getField (value : BitVec w) (low len : Nat) :
    (getField value low len).toNat = value.toNat / 2 ^ low % 2 ^ len := by
  apply Nat.eq_of_testBit_eq
  intro i
  rw [Nat.testBit_mod_two_pow, Nat.testBit_div_two_pow, Bool.and_comm, Nat.add_comm]
  exact getLsbD_getField value low len i

/-- A field is known by the bits of its word that it covers. -/
theorem getField_congr {value value' : BitVec w} {low len : Nat}
    (h : ∀ i, low ≤ i → i < low + len → value.getLsbD i = value'.getLsbD i) :
    getField value low len = getField value' low len := by
  apply BitVec.eq_of_getLsbD_eq
  intro i _
  rw [getLsbD_getField, getLsbD_getField]
  by_cases hi : i < len
  · rw [h (low + i) (by omega) (by omega)]
  · simp [hi]

theorem getLsbD_eq_of_getField_eq {value value' : BitVec w} {low len : Nat}
    (h : getField value low len = getField value' low len) {i : Nat} (hlow : low ≤ i)
    (hlen : i < low + len) : value.getLsbD i = value'.getLsbD i := by
  have hbit := congrArg (BitVec.getLsbD · (i - low)) h
  simpa [getLsbD_getField, show low + (i - low) = i by omega,
    show i - low < len by omega] using hbit

/-- A field is read back as it was written, as far as it lies in the word. -/
theorem getField_setField (value field : BitVec w) (low len : Nat) :
    getField (setField value low len field) low len = getField field 0 (min len (w - low)) := by
  apply BitVec.eq_of_getLsbD_eq
  intro i hi
  rw [getLsbD_getField, getLsbD_getField, getLsbD_setField, Nat.zero_add]
  by_cases hlen : i < len
  · by_cases hw : low + i < w
    · simp [hlen, hw, show i < min len (w - low) by omega]
    · rw [if_neg (by omega), BitVec.getLsbD_of_ge value (low + i) (by omega)]
      simp only [show ¬ i < min len (w - low) by omega, decide_false, Bool.and_false,
        Bool.false_and]
  · simp only [hlen, show ¬ i < min len (w - low) by omega, decide_false, Bool.and_false]

/-- A field that lies in the word is read back without what does not fit it. -/
theorem toNat_getField_setField (value field : BitVec w) {low len : Nat} (h : low + len ≤ w) :
    (getField (setField value low len field) low len).toNat = field.toNat % 2 ^ len := by
  rw [getField_setField, Nat.min_eq_left (by omega), toNat_getField, Nat.pow_zero, Nat.div_one]

/-- Writing a field leaves those that share no position with it. -/
theorem getField_setField_of_apart (value field : BitVec w) {low len low' len' : Nat}
    (h : low' + len' ≤ low ∨ low + len ≤ low') :
    getField (setField value low len field) low' len' = getField value low' len' :=
  getField_congr fun i hlow hhigh => by rw [getLsbD_setField, if_neg (by omega)]

theorem getField_lt (value : BitVec w) (low len : Nat) :
    (getField value low len).toNat < 2 ^ len := by
  rw [toNat_getField]
  exact Nat.mod_lt _ (Nat.two_pow_pos len)

end Zicsr.Bits
