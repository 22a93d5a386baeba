import Mathlib.Data.List.Nodup
import Mathlib.Data.List.Perm.Subperm
import Mathlib.Data.Nat.ModEq
import Mathlib.Data.Nat.Prime.Basic
import Mathlib.Tactic.Ring
import Mathlib.Tactic.Use
import OpenAddressing.ProbeSequence
import OpenAddressing.Word

/-!
# A probe sequence visits every slot once

After `i` steps a probe sequence has advanced by the triangular number `i * (i + 1) / 2`, so
`positions_start` lists it in closed form. The triangular numbers below a power of two are
pairwise different modulo that power, and therefore the sequence is a permutation of all slots.
-/

namespace OpenAddressing

/-- The sum of the numbers up to `i`. -/
def triangular (i : Nat) : Nat :=
  i * (i + 1) / 2

theorem two_mul_triangular (i : Nat) :
  2 * triangular i = i * (i + 1)
  := Nat.mul_div_cancel' (Nat.even_mul_succ_self i).two_dvd

theorem triangular_succ (i : Nat) :
  triangular (i + 1) = triangular i + (i + 1)
  := by
  apply Nat.eq_of_mul_eq_mul_left Nat.two_pos
  rw [Nat.mul_add, two_mul_triangular, two_mul_triangular]
  ring

/-- Two numbers whose triangular numbers agree modulo `2 ^ level` are equal if both are less
than `2 ^ level`: twice the difference of the triangular numbers is the product of two factors
one of which is odd, and the other is too small to be divided by the power of two. -/
theorem eq_of_triangular_modEq {level i j : Nat} (hi : i < 2 ^ level) (hj : j < 2 ^ level)
    (h : triangular i ≡ triangular j [MOD 2 ^ level]) :
  i = j
  := by
  wlog hij : i ≤ j generalizing i j
  · symm
    apply this hj hi h.symm (Nat.le_of_not_le hij)
  obtain ⟨d, rfl⟩ := Nat.exists_eq_add_of_le hij
  have hdvd : 2 ^ (level + 1) ∣ d * (2 * i + d + 1) := by
    have hsub := (Nat.modEq_iff_dvd' (Nat.div_le_div_right
      (Nat.mul_le_mul hij (Nat.succ_le_succ hij)))).mp h
    have hmul := Nat.mul_dvd_mul_left 2 hsub
    rw [← Nat.pow_succ', Nat.mul_sub] at hmul
    change 2 ^ (level + 1) ∣ 2 * triangular (i + d) - 2 * triangular i at hmul
    rw [two_mul_triangular, two_mul_triangular] at hmul
    convert hmul using 1
    apply Nat.eq_sub_of_add_eq
    ring
  have hpow : 2 ^ (level + 1) = 2 * 2 ^ level := Nat.pow_succ'
  rcases Nat.even_or_odd d with hd | hd
  · have hodd : Odd (2 * i + d + 1) := by
      apply Even.add_one
      apply Even.add (even_two_mul i) hd
    have hcoprime := (Nat.coprime_two_left.mpr hodd).pow_left (level + 1)
    have hzero := Nat.eq_zero_of_dvd_of_lt (hcoprime.dvd_of_dvd_mul_right hdvd) (by omega)
    omega
  · have hcoprime := (Nat.coprime_two_left.mpr hd).pow_left (level + 1)
    have hle := Nat.le_of_dvd (Nat.succ_pos _) (hcoprime.dvd_of_dvd_mul_left hdvd)
    omega

namespace ProbeSequence

/-- After `step` steps the next positions are those of the closed form from `step` on. -/
theorem take_eq_map (level start step count : Nat) (h : step + count ≤ 2 ^ level) :
  take count ⟨(start + triangular step) % 2 ^ level, step, 2 ^ level - 1⟩
    = (List.range' step count).map fun i => (start + triangular i) % 2 ^ level
  := by
  induction count generalizing step with
  | zero => rfl
  | succ count ih =>
      have hnext : next? ⟨(start + triangular step) % 2 ^ level, step, 2 ^ level - 1⟩
          = some ((start + triangular step) % 2 ^ level,
              ⟨(start + triangular (step + 1)) % 2 ^ level, step + 1, 2 ^ level - 1⟩) := by
        rw [next?, if_neg (by simp only; omega), Nat.and_two_pow_sub_one_eq_mod, Nat.mod_add_mod,
          triangular_succ, Nat.add_assoc]
      rw [take, hnext, List.range'_succ, List.map_cons]
      apply congrArg (List.cons _) (ih (step + 1) (by omega))

/-- The positions of a probe sequence in closed form. -/
theorem positions_start (hash : UInt64) (level : Nat) :
  (start hash (2 ^ level - 1)).positions
    = (List.range (2 ^ level)).map fun i => (hash.toNat + triangular i) % 2 ^ level
  := by
  have hpos := Nat.two_pow_pos level
  have hstart : start hash (2 ^ level - 1)
      = ⟨(hash.toNat + triangular 0) % 2 ^ level, 0, 2 ^ level - 1⟩ := by
    rw [start, Nat.and_two_pow_sub_one_eq_mod]
    rfl
  have hremaining : (start hash (2 ^ level - 1)).remaining = 2 ^ level := by
    simp only [remaining, start]
    omega
  rw [positions, hremaining, hstart, take_eq_map _ _ _ _ (by omega), List.range_eq_range']

/-- No slot is visited twice. -/
theorem nodup_positions_start (hash : UInt64) (level : Nat) :
  (start hash (2 ^ level - 1)).positions.Nodup
  := by
  rw [positions_start]
  apply List.Nodup.map_on _ List.nodup_range
  intro i hi j hj h
  apply eq_of_triangular_modEq (List.mem_range.mp hi) (List.mem_range.mp hj)
  apply Nat.ModEq.add_left_cancel' hash.toNat h

/-- Every slot is visited once. -/
theorem positions_start_perm (hash : UInt64) (level : Nat) :
  (start hash (2 ^ level - 1)).positions.Perm (List.range (2 ^ level))
  := by
  apply List.Subperm.perm_of_length_le
  · apply List.subperm_of_subset (nodup_positions_start hash level)
    intro i hi
    rw [positions_start] at hi
    obtain ⟨_, _, rfl⟩ := List.mem_map.mp hi
    apply List.mem_range.mpr (Nat.mod_lt _ (Nat.two_pow_pos level))
  · rw [positions_start, List.length_map]

theorem mem_positions_start {hash : UInt64} {level i : Nat} :
  i ∈ (start hash (2 ^ level - 1)).positions ↔ i < 2 ^ level
  := by
  rw [(positions_start_perm hash level).mem_iff, List.mem_range]

end ProbeSequence

end OpenAddressing
