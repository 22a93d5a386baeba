import OpenAddressing.Decimal.Basic
import OpenAddressing.Word

/-!
# Decimals that are the same key

The canonical bits of a decimal tell it from all others, but for what is not a number and for
the two zeros. Both are recognized by the `magnitude`, which is what the bits say apart from the
sign: nothing else is a zero than the smallest magnitude, and nothing else is not a number than
the magnitudes above that of the infinities.
-/

namespace OpenAddressing

namespace Decimal

/-! ### The parts of a decimal -/

/-- The bits without the sign, as a number. -/
def magnitude (d : Decimal) : Nat :=
  d.bits.toNat % 2 ^ (63 : Nat)

/-- The magnitude of the infinities. -/
def infinity : Nat :=
  0x7ff * 2 ^ (52 : Nat)

theorem biasedExponent_eq (d : Decimal) :
  d.biasedExponent = d.magnitude / 2 ^ (52 : Nat)
  := by
  have hmask : ∀ n : Nat, n &&& 0x7ff = n % 2 ^ (11 : Nat) :=
    fun n => Nat.and_two_pow_sub_one_eq_mod n 11
  rw [biasedExponent, UInt64.toNat_and, UInt64.toNat_shiftRight, magnitude]
  change d.bits.toNat >>> (52 : Nat) &&& 0x7ff = _
  rw [hmask, Nat.shiftRight_eq_div_pow]
  omega

theorem fraction_eq (d : Decimal) :
  d.fraction = d.magnitude % 2 ^ (52 : Nat)
  := by
  have hmask : ∀ n : Nat, n &&& 0x000fffffffffffff = n % 2 ^ (52 : Nat) :=
    fun n => Nat.and_two_pow_sub_one_eq_mod n 52
  rw [fraction, UInt64.toNat_and, magnitude]
  change d.bits.toNat &&& 0x000fffffffffffff = _
  rw [hmask]
  omega

/-- What is not a number lies above the infinities. -/
theorem isNaN_iff {d : Decimal} :
  d.isNaN ↔ infinity < d.magnitude
  := by
  have hlt : d.magnitude < 2 ^ (63 : Nat) := Nat.mod_lt _ (Nat.two_pow_pos 63)
  rw [isNaN, biasedExponent_eq, fraction_eq, infinity, Bool.and_eq_true, beq_iff_eq, bne_iff_ne]
  omega

/-- The zeros have no magnitude. -/
theorem isZero_iff {d : Decimal} :
  d.isZero ↔ d.magnitude = 0
  := by
  rw [isZero, biasedExponent_eq, fraction_eq, Bool.and_eq_true, beq_iff_eq, beq_iff_eq]
  omega

/-! ### Canonical bits -/

theorem not_isZero_of_isNaN {d : Decimal} (h : d.isNaN) :
  ¬ d.isZero
  := by
  rw [isZero_iff]
  apply Nat.ne_of_gt
  apply Nat.zero_lt_of_lt (isNaN_iff.mp h)

/-- The canonical bits stand for a number just if the bits do. -/
theorem isNaN_canonical (d : Decimal) :
  (⟨d.canonical⟩ : Decimal).isNaN = d.isNaN
  := by
  rw [canonical]
  split
  next h =>
    rw [h]
    rfl
  next h =>
    split
    next =>
      rw [Bool.not_eq_true] at h
      rw [h]
      rfl
    next => rfl

/-- The canonical bits stand for a zero just if the bits do. -/
theorem isZero_canonical (d : Decimal) :
  (⟨d.canonical⟩ : Decimal).isZero = d.isZero
  := by
  rw [canonical]
  split
  next h =>
    have hzero := not_isZero_of_isNaN h
    rw [Bool.not_eq_true] at hzero
    rw [hzero]
    rfl
  next =>
    split
    next h =>
      rw [h]
      rfl
    next => rfl

/-- Decimals have the same canonical bits just if they are the same, or neither is a number, or
both are zeros. -/
theorem canonical_eq_iff {d e : Decimal} :
  d.canonical = e.canonical ↔ d = e ∨ (d.isNaN ∧ e.isNaN) ∨ (d.isZero ∧ e.isZero)
  := by
  constructor
  · intro h
    have hnan : d.isNaN = e.isNaN := by rw [← isNaN_canonical d, h, isNaN_canonical]
    have hzero : d.isZero = e.isZero := by rw [← isZero_canonical d, h, isZero_canonical]
    by_cases hdnan : d.isNaN
    · exact .inr (.inl ⟨hdnan, hnan.symm.trans hdnan⟩)
    by_cases hdzero : d.isZero
    · exact .inr (.inr ⟨hdzero, hzero.symm.trans hdzero⟩)
    left
    rw [canonical, canonical, ← hnan, ← hzero, if_neg hdnan, if_neg hdzero, if_neg hdnan,
      if_neg hdzero] at h
    apply congrArg Decimal.mk h
  · rintro (rfl | ⟨hd, he⟩ | ⟨hd, he⟩)
    · rfl
    · rw [canonical, canonical, if_pos hd, if_pos he]
    · have hdnan : ¬ d.isNaN := fun h => not_isZero_of_isNaN h hd
      have henan : ¬ e.isNaN := fun h => not_isZero_of_isNaN h he
      rw [canonical, canonical, if_neg hdnan, if_neg henan, if_pos hd, if_pos he]

end Decimal

end OpenAddressing
