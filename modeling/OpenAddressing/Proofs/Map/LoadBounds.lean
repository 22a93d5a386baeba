import Mathlib.Order.Bounds.Basic
import OpenAddressing.Proofs.Map.LoadRun

/-!
# Bounds on the load of a map

What holds of a map under a load factor rule in every state of a run.

* `run_isWithinMaxLoad_iff`: the slots in use stay within the maximal load, just if the smallest
  table, doubled once, has room for an entry.
* `run_isFilled_of_default`: under the default rule, and unless the map is cleared, a table that
  has grown is filled to the minimal load but for one entry, and is back at its first size once
  it is empty.
* `run_isInProportion_peak`: a table that has grown is in proportion to the largest number of
  entries the map has had.
* `run_hasFewTombstones`: at most one tombstone is above the limit.
-/

namespace OpenAddressing

namespace Map

/-! ### The largest number of entries -/

section Peak

variable {K V P : Type} [BEq K] [SizingRule P]

/-- The largest number of entries that a map has between the calls of a run. -/
def peak : List (Op K V) → Map K V P → Nat
  | [], map => map.size
  | op :: ops, map => max map.size (peak ops (map.exec op).state)

theorem isGreatest_peak (ops : List (Op K V)) (start : Map K V P) :
  IsGreatest (Set.range fun n => (start.run (ops.take n)).1.size) (start.peak ops)
  := by
  induction ops generalizing start with
  | nil =>
      constructor
      · use 0
        rfl
      · rintro _ ⟨n, rfl⟩
        simp [run, peak]
  | cons op ops ih =>
      obtain ⟨⟨n, hn⟩, hle⟩ := ih (start.exec op).state
      constructor
      · rcases max_choice start.size ((start.exec op).state.peak ops) with hmax | hmax
        · rw [peak, hmax]
          use 0
          rfl
        · rw [peak, hmax]
          use n + 1
          apply hn
      · rintro _ ⟨n, rfl⟩
        cases n with
        | zero => apply le_max_left
        | succ n => apply le_trans (hle ⟨n, rfl⟩) (le_max_right _ _)

end Peak

variable {K V : Type} [BEq K] [EquivBEq K] {hash : K → UInt64} {memory : Memory} {capacity : Nat}
  {rule : LoadFactor} {start : Map K V LoadFactor}

/-! ### The maximal load -/

/-- In a map created for any number of entries, the slots in use stay within the maximal load if
the smallest table, doubled once, has room for an entry. In one created for none they do just
then. -/
theorem run_isWithinMaxLoad_iff [Nonempty K] [Nonempty V] (hhash : HashCompatible hash)
    (hstart : ofCapacity memory capacity hash rule = .ok start) :
  (100 ≤ rule.maxLoad * 2 ^ (rule.minLevel + 1) →
      ∀ ops, rule.IsWithinMaxLoad (start.run ops).1.table.load)
    ∧ (capacity = 0 → ((∀ ops, rule.IsWithinMaxLoad (start.run ops).1.table.load)
      ↔ 100 ≤ rule.maxLoad * 2 ^ (rule.minLevel + 1)))
  := by
  have hwithin : 100 ≤ rule.maxLoad * 2 ^ (rule.minLevel + 1) →
      ∀ ops, rule.IsWithinMaxLoad (start.run ops).1.table.load := by
    intro hrule ops
    have hkeeps := LoadFactor.keeps_isWithinMaxLoad hrule
    apply (run_load_of_ofCapacity hhash hstart hkeeps ops _ _).2
    · rintro - load ⟨hfloor, -⟩
      exact ⟨⟨hfloor.minLevel_le, hfloor.floor_le⟩, Nat.zero_le _⟩
    · intro level hlevel
      exact ⟨⟨hlevel, Nat.le_refl level⟩, Nat.zero_le _⟩
  use hwithin
  rintro rfl
  use ?_, hwithin
  intro hbound
  by_contra hrule
  obtain ⟨key⟩ := ‹Nonempty K›
  obtain ⟨value⟩ := ‹Nonempty V›
  have hroomy := isRoomy_of_ofCapacity hstart
  have hinsertion := hroomy.insertion hhash key value
  rw [contains_eq_false_of_ofCapacity hhash hstart] at hinsertion
  obtain ⟨level, hlevel, -, rfl⟩ := eq_of_ofCapacity hstart
  obtain rfl : rule.minLevel = level :=
    Option.some.inj (LoadFactor.startLevel?_zero.symm.trans hlevel)
  apply hinsertion.not_isWithinMaxLoad (Nat.lt_of_not_le hrule) (hbound [.insert key value])

/-- A quarter of four slots is one slot, and a little less is none. -/
theorem run_isWithinMaxLoad_iff_of_two_slots :
  let hash := Hashing.lastWord.hashValue
  let start (rule : LoadFactor) : Map Value Nat LoadFactor := ⟨hash, rule, .blank 1⟩
  let quarter : LoadFactor := { maxLoad := 25, minLoad := 12, minLevel := 1 }
  let less : LoadFactor := { maxLoad := 24, minLoad := 11, minLevel := 1 }
  ofCapacity ⟨40, fun _ => true⟩ 0 hash quarter = .ok (start quarter)
    ∧ ofCapacity ⟨40, fun _ => true⟩ 0 hash less = .ok (start less)
    ∧ (∀ ops, quarter.IsWithinMaxLoad ((start quarter).run ops).1.table.load)
    ∧ ¬∀ ops, less.IsWithinMaxLoad ((start less).run ops).1.table.load
  := by
  intro hash start quarter less
  have hquarter : ofCapacity ⟨40, fun _ => true⟩ 0 hash quarter = .ok (start quarter) := rfl
  have hless : ofCapacity ⟨40, fun _ => true⟩ 0 hash less = .ok (start less) := rfl
  use hquarter, hless
  constructor
  · apply (run_isWithinMaxLoad_iff Hashing.lastWord.hashCompatible hquarter).1
    decide
  · rw [(run_isWithinMaxLoad_iff Hashing.lastWord.hashCompatible hless).2 rfl]
    decide

/-! ### The minimal load -/

/-- Under the default rule, in every state of a run without a clearing, a table above the level it
was created at has at most one entry less than the minimal load. Once the map is empty, it has as
many slots as it was created with. -/
theorem run_isFilled_of_default (hhash : HashCompatible hash)
    (hstart : ofCapacity memory capacity hash ({} : LoadFactor) = .ok start)
    {ops : List (Op K V)} (hclear : .clear ∉ ops) :
  let last := (start.run ops).1
  (last.table.load.floor < last.table.load.level → last.capacity * 15 ≤ (last.size + 1) * 100)
    ∧ (last.isEmpty → last.capacity = start.capacity)
  := by
  intro last
  have hrule : 100 < 2 ^ (3 + 1) * 15 := by decide
  have hkeeps : LoadFactor.Keeps {} _ := LoadFactor.keeps_isFilledBut_one (by decide) hrule
  obtain ⟨hfloor, hfilled⟩ : LoadFactor.IsAboveFloor {} last.table.load
      ∧ LoadFactor.IsFilledBut {} 1 last.table.load := by
    apply run_load_of_ofCapacity hhash hstart hkeeps ops
    · intro hmem
      apply absurd hmem hclear
    · intro level hlevel
      exact ⟨⟨hlevel, Nat.le_refl level⟩, fun hlt => absurd hlt (Nat.lt_irrefl level)⟩
  use hfilled
  intro hempty
  have hlevel := hfilled.level_eq hrule hfloor (eq_of_beq hempty)
  have hsound := (kept_isSound hhash _).run ops (isSound_of_ofCapacity hstart)
  rw [hsound.table.floor_eq] at hlevel
  rw [Map.capacity, Map.capacity, Load.capacity, Load.capacity, hlevel]

/-- Six entries have the table doubled. While two are left the table is filled but for one entry,
and after the last it is as small as it was. -/
theorem run_isFilled_of_default_of_drain :
  let hash := Hashing.lastWord.hashValue
  let start : Map Value Nat LoadFactor := ⟨hash, {}, .blank 3⟩
  let ops := [.insertMany [(.bigInt 0, 0), (.bigInt 1, 1), (.bigInt 2, 2), (.bigInt 3, 3),
    (.bigInt 4, 4), (.bigInt 5, 5)], .erase (.bigInt 0), .erase (.bigInt 1), .erase (.bigInt 2),
    .erase (.bigInt 3), .erase (.bigInt 4), .erase (.bigInt 5)]
  let few := (start.run (ops.take 5)).1
  let last := (start.run ops).1
  ofCapacity ⟨40, fun _ => true⟩ 0 hash ({} : LoadFactor) = .ok start
    ∧ few.table.load.floor < few.table.load.level ∧ few.capacity * 15 ≤ (few.size + 1) * 100
    ∧ last.isEmpty ∧ last.capacity = start.capacity
  := by
  intro hash start ops few last
  have hstart : ofCapacity ⟨40, fun _ => true⟩ 0 hash ({} : LoadFactor) = .ok start := rfl
  have hfew : few.table.load.floor < few.table.load.level := by decide
  have hempty : last.isEmpty := by decide
  use hstart, hfew
  use (run_isFilled_of_default Hashing.lastWord.hashCompatible hstart (by simp [ops])).1 hfew
  use hempty
  apply (run_isFilled_of_default Hashing.lastWord.hashCompatible hstart (by simp [ops])).2 hempty

/-! ### Proportion -/

/-- A table stays in proportion to any number of entries that the map does not exceed between the
calls of a run. -/
theorem run_isInProportion (hhash : HashCompatible hash) {floor : Nat} {map : Map K V LoadFactor}
    (h : map.IsRoomy hash floor) {bound : Nat} (ops : List (Op K V))
    (hbound : ∀ n, (map.run (ops.take n)).1.size ≤ bound)
    (hload : map.rule.IsInProportion bound map.table.load) :
  map.rule.IsInProportion bound (map.run ops).1.table.load
  := by
  induction ops generalizing map with
  | nil => apply hload
  | cons op ops ih =>
      have hrule := (kept_rule map.rule).exec op rfl
      have hsize : map.size ≤ bound := hbound 0
      rw [← hrule]
      apply ih ((kept_isRoomy hhash floor).exec op h)
      · intro n
        apply hbound (n + 1)
      · rw [hrule]
        apply exec_load hhash h
        · intro load present next hinsertion hinv
          apply hinsertion.isInProportion hinv
        · intro present next hremoval
          apply hremoval.isInProportion hsize hload
        · intro _ _
          apply hload hsize
        · apply hload

/-- In every state of a run, a table above the level it was created at is in proportion to the
largest number of entries that the map has had. -/
theorem run_isInProportion_peak (hhash : HashCompatible hash)
    (hstart : ofCapacity memory capacity hash rule = .ok start) (ops : List (Op K V)) :
  let last := (start.run ops).1
  last.table.load.level = start.table.load.level
    ∨ last.capacity * rule.maxLoad < 200 * (2 * start.peak ops + 1)
  := by
  intro last
  have hroomy := isRoomy_of_ofCapacity hstart
  have hsound := (kept_isSound hhash _).run ops hroomy.sound
  have hbound : ∀ n, (start.run (ops.take n)).1.size ≤ start.peak ops := by
    intro n
    apply (isGreatest_peak ops start).2 ⟨n, rfl⟩
  have hlast := hbound ops.length
  rw [List.take_length] at hlast
  rw [← hsound.table.floor_eq]
  obtain ⟨level, -, -, rfl⟩ := eq_of_ofCapacity hstart
  apply run_isInProportion hhash hroomy ops hbound _ hlast
  intro _
  left
  rfl

/-- Four entries, two of which are removed and one replaced, leave two tombstones among five slots
in use. The insertion that comes next doubles the table, though it only replaces a value. -/
theorem run_isInProportion_peak_of_churn :
  let hash := Hashing.lastWord.hashValue
  let start : Map Value Nat LoadFactor := ⟨hash, {}, .blank 3⟩
  let ops := [.insertMany [(.bigInt 0, 0), (.bigInt 1, 1), (.bigInt 2, 2), (.bigInt 3, 3)],
    .erase (.bigInt 0), .erase (.bigInt 1), .insert (.bigInt 4) 4, .insert (.bigInt 4) 5]
  let last := (start.run ops).1
  ofCapacity ⟨40, fun _ => true⟩ 0 hash ({} : LoadFactor) = .ok start
    ∧ last.table.load.level = 4 ∧ start.peak ops = 4
    ∧ (last.table.load.level = start.table.load.level
      ∨ last.capacity * 70 < 200 * (2 * start.peak ops + 1))
  := by
  intro hash start ops last
  have hstart : ofCapacity ⟨40, fun _ => true⟩ 0 hash ({} : LoadFactor) = .ok start := rfl
  have hlevel : last.table.load.level = 4 := by decide
  have hpeak : start.peak ops = 4 := by decide
  use hstart, hlevel, hpeak
  apply run_isInProportion_peak Hashing.lastWord.hashCompatible hstart

/-! ### Tombstones -/

/-- In every state of a run, at most one tombstone is above the limit. -/
theorem run_hasFewTombstones (hhash : HashCompatible hash)
    (hstart : ofCapacity memory capacity hash rule = .ok start) (ops : List (Op K V)) :
  let last := (start.run ops).1
  last.table.load.tombstones * 100 ≤ last.capacity * rule.maxTombstones + 100
  := by
  apply run_load_of_ofCapacity hhash hstart (LoadFactor.keeps_hasFewTombstones rule) ops
  · intro _ load _
    apply Nat.zero_le
  · intro level _
    apply Nat.zero_le

/-- A quarter of eight slots is two, and the third removal leaves a third tombstone. -/
theorem run_hasFewTombstones_of_three :
  let hash := Hashing.lastWord.hashValue
  let start : Map Value Nat LoadFactor := ⟨hash, {}, .blank 3⟩
  let ops := [.insertMany [(.bigInt 0, 0), (.bigInt 1, 1), (.bigInt 2, 2), (.bigInt 3, 3)],
    .erase (.bigInt 0), .erase (.bigInt 1), .erase (.bigInt 2)]
  let last := (start.run ops).1
  ofCapacity ⟨40, fun _ => true⟩ 0 hash ({} : LoadFactor) = .ok start
    ∧ last.table.load.tombstones = 3
    ∧ last.table.load.tombstones * 100 ≤ last.capacity * 25 + 100
  := by
  intro hash start ops last
  have hstart : ofCapacity ⟨40, fun _ => true⟩ 0 hash ({} : LoadFactor) = .ok start := rfl
  have htombstones : last.table.load.tombstones = 3 := by decide
  use hstart, htombstones
  apply run_hasFewTombstones Hashing.lastWord.hashCompatible hstart

end Map

end OpenAddressing
