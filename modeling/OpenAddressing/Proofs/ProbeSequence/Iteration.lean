import OpenAddressing.Proofs.ProbeSequence.Coverage
import OpenAddressing.Sizing.Load

/-!
# Stepping through a probe sequence

`drop` is what a probe sequence is after some steps, taken one at a time. Its positions are those
that are left of the positions at the start, whichever sequence it is. A sequence whose position
is a slot stays so, and then the numbers it is made of and all that are computed from them are
small enough for a word, whatever the level of the table.

* `start_isPermutation`: in a table of any level, a probe sequence delivers every slot once, in
  the order of the triangular numbers, and then nothing more.
-/

namespace OpenAddressing

namespace ProbeSequence

/-- The sequence after so many steps. A step beyond the end changes nothing. -/
def drop : Nat → ProbeSequence → ProbeSequence
  | 0, probe => probe
  | count + 1, probe =>
    match probe.next? with
    | none => probe
    | some (_, rest) => drop count rest

/-! ### What is left to be delivered -/

section Positions

variable {probe : ProbeSequence}

theorem positions_of_next?_eq_none (h : probe.next? = none) :
  probe.positions = []
  := by
  rw [positions, (next?_eq_none_iff probe).mp h]
  rfl

theorem positions_of_next?_eq_some {i : Nat} {rest : ProbeSequence}
    (h : probe.next? = some (i, rest)) :
  probe.positions = i :: rest.positions
  := by
  rw [positions, remaining_of_next? h, take, h]
  rfl

/-- A step delivers the first position. -/
theorem next?_map_fst (probe : ProbeSequence) :
  probe.next?.map Prod.fst = probe.positions.head?
  := by
  cases hnext : probe.next? with
  | none =>
      rw [positions_of_next?_eq_none hnext]
      rfl
  | some slot =>
      rw [positions_of_next?_eq_some hnext]
      rfl

/-- After some steps the positions behind the first ones are left. -/
theorem positions_drop (count : Nat) (probe : ProbeSequence) :
  (probe.drop count).positions = probe.positions.drop count
  := by
  induction count generalizing probe with
  | zero => rfl
  | succ count ih =>
      rw [drop]
      cases hnext : probe.next? with
      | none =>
          dsimp only
          rw [positions_of_next?_eq_none hnext, List.drop_nil]
      | some slot =>
          dsimp only
          rw [positions_of_next?_eq_some hnext, List.drop_succ_cons, ih]

theorem next?_drop (count : Nat) (probe : ProbeSequence) :
  (probe.drop count).next?.map Prod.fst = probe.positions[count]?
  := by
  rw [next?_map_fst, positions_drop, List.head?_drop]

theorem remaining_drop (count : Nat) (probe : ProbeSequence) :
  (probe.drop count).remaining = probe.remaining - count
  := by
  rw [← length_positions, positions_drop, List.length_drop, length_positions]

end Positions

/-! ### The numbers it is made of -/

/-- The position is a slot, and no more slots have been tried than there are. -/
structure IsInRange (probe : ProbeSequence) : Prop where
  position_le : probe.position ≤ probe.mask
  step_le : probe.step ≤ probe.mask + 1

/-- All numbers that a step and the number of slots still to be tried are computed from are
words: no sum wraps around, and no difference falls below zero. -/
structure FitsWords (probe : ProbeSequence) : Prop where
  step_lt : probe.step + 1 < 2 ^ (64 : Nat)
  position_lt : probe.position + (probe.step + 1) < 2 ^ (64 : Nat)
  mask_lt : probe.mask + 1 < 2 ^ (64 : Nat)
  step_le : probe.step ≤ probe.mask + 1

namespace IsInRange

variable {probe : ProbeSequence}

theorem start (hash : UInt64) (mask : Nat) :
  (start hash mask).IsInRange
  where
    position_le := Nat.and_le_right
    step_le := Nat.zero_le _

/-- A step goes to another slot of the same table. -/
theorem of_next? {i : Nat} {rest : ProbeSequence} (hnext : probe.next? = some (i, rest)) :
  rest.IsInRange ∧ rest.mask = probe.mask
  := by
  rw [next?] at hnext
  split at hnext
  next => cases hnext
  next hstep =>
    cases hnext
    refine ⟨⟨Nat.and_le_right, ?_⟩, rfl⟩
    apply Nat.succ_le_succ (Nat.le_of_not_lt hstep)

theorem drop (h : probe.IsInRange) (count : Nat) :
  (probe.drop count).IsInRange ∧ (probe.drop count).mask = probe.mask
  := by
  induction count generalizing probe with
  | zero => exact ⟨h, rfl⟩
  | succ count ih =>
      rw [ProbeSequence.drop]
      cases hnext : probe.next? with
      | none => exact ⟨h, rfl⟩
      | some slot =>
          obtain ⟨hrest, hmask⟩ := of_next? hnext
          rw [← hmask]
          apply ih hrest

theorem fitsWords (h : probe.IsInRange) (hmask : probe.mask < 2 ^ (62 : Nat)) :
  probe.FitsWords
  := by
  obtain ⟨hposition, hstep⟩ := h
  constructor
  case step_lt => omega
  case position_lt => omega
  case mask_lt => omega
  case step_le => apply hstep

end IsInRange

/-! ### Probe sequences of hashes -/

theorem remaining_start (hash : UInt64) (level : Nat) :
  (start hash (2 ^ level - 1)).remaining = 2 ^ level
  := Nat.sub_add_cancel (Nat.two_pow_pos level)

/-- The probe sequence of a hash is in closed form. It is over after as many steps as the table
has slots. -/
theorem next?_drop_start (hash : UInt64) (level i : Nat) :
  ((start hash (2 ^ level - 1)).drop i).next?.map Prod.fst
    = if i < 2 ^ level then some ((hash.toNat + i * (i + 1) / 2) % 2 ^ level) else none
  := by
  rw [next?_drop, positions_start, List.getElem?_map]
  split
  next hi =>
    rw [List.getElem?_range hi]
    rfl
  next hi =>
    rw [List.getElem?_eq_none]
    · rfl
    · rw [List.length_range]
      apply Nat.le_of_not_lt hi

/-- In a table of any level a probe sequence delivers as many slots as there are, and then
nothing. The slot after `i` steps is `i * (i + 1) / 2` ahead of the hash, and every slot is
delivered after just one number of steps. All the way the number of slots still to come is
known, and nothing that is computed leaves the range of words. -/
theorem start_isPermutation {level : Nat} (hlevel : level ≤ maxLevel) (hash : UInt64) :
  let probe := start hash (2 ^ level - 1)
  (∀ i, (probe.drop i).next?.map Prod.fst
      = if i < 2 ^ level then some ((hash.toNat + i * (i + 1) / 2) % 2 ^ level) else none)
    ∧ (∀ j < 2 ^ level, ∃! i, (probe.drop i).next?.map Prod.fst = some j)
    ∧ ∀ i, (probe.drop i).remaining = 2 ^ level - i ∧ (probe.drop i).FitsWords
  := by
  intro probe
  refine ⟨next?_drop_start hash level, ?_, ?_⟩
  · intro j hj
    obtain ⟨i, hi⟩ := List.mem_iff_getElem?.mp (mem_positions_start.mpr hj)
    use i
    dsimp only
    rw [next?_drop]
    use hi
    intro k hk
    rw [next?_drop, ← hi] at hk
    obtain ⟨hlt, -⟩ := List.getElem?_eq_some_iff.mp hi
    symm
    apply (List.getElem?_inj hlt (nodup_positions_start hash level)).mp hk.symm
  · intro i
    constructor
    · rw [remaining_drop, remaining_start]
    · obtain ⟨hrange, hmask⟩ := (IsInRange.start hash (2 ^ level - 1)).drop i
      apply hrange.fitsWords
      rw [hmask]
      apply Nat.lt_of_lt_of_le (Nat.sub_one_lt (Nat.two_pow_pos level).ne')
      apply Nat.pow_le_pow_right Nat.two_pos hlevel

/-- The largest table, and the largest hash. -/
theorem start_isPermutation_of_maxLevel :
  let hash := 0xffffffffffffffff
  let probe := start hash (2 ^ maxLevel - 1)
  maxLevel ≤ maxLevel
    ∧ (∀ i, (probe.drop i).next?.map Prod.fst
      = if i < 2 ^ maxLevel then some ((hash.toNat + i * (i + 1) / 2) % 2 ^ maxLevel) else none)
    ∧ (∀ j < 2 ^ maxLevel, ∃! i, (probe.drop i).next?.map Prod.fst = some j)
    ∧ ∀ i, (probe.drop i).remaining = 2 ^ maxLevel - i ∧ (probe.drop i).FitsWords
  := ⟨Nat.le_refl maxLevel, start_isPermutation (Nat.le_refl maxLevel) 0xffffffffffffffff⟩

/-- The eight slots of a table, from the slot of the hash on. -/
example : (start 6 7).positions = [6, 7, 1, 4, 0, 5, 3, 2] := by decide

end ProbeSequence

end OpenAddressing
