import OpenAddressing.Proofs.Map.LoadRun

/-!
# When a table is halved and doubled again

A load factor rule halves a table before a removal, and may double it again before the insertion
that comes next. Whether it does depends on the number of entries before the removal and on the
slots that are left after it: the halved table has room for one more entry unless it is small,
or the minimal load is close to half of the maximal one.
-/

namespace OpenAddressing

namespace Map

variable {K V : Type} [BEq K] [EquivBEq K] {hash : K → UInt64} {floor : Nat}
  {map : Map K V LoadFactor}

/-- A removal has the table halved: what was counted before, and what is counted after. -/
structure Halved (map : Map K V LoadFactor) (key : K) (load : Load) : Prop where
  level_eq : load.level + 1 = map.table.load.level
  minLevel_le : map.rule.minLevel ≤ load.level
  sparse : map.size * 100 < load.capacity * 2 * map.rule.minLoad
  used_eq : load.used = map.size
  tombstones_le_iff : load.tombstones ≤ load.live ↔ map.contains key = false ∨ 2 ≤ map.size

omit [EquivBEq K] in
/-- A halved table has room for one more entry if it has enough slots for the percentage points
between twice the minimal load and the maximal one. -/
theorem Halved.size_add_one_le {key : K} {load : Load} (h : map.Halved key load)
    (hgap : 99 ≤ load.capacity * (map.rule.maxLoad - 2 * map.rule.minLoad)) :
  (map.size + 1) * 100 ≤ load.capacity * map.rule.maxLoad
  := by
  have hsparse := h.sparse
  have hlt := map.rule.minLoad_lt
  rw [Nat.mul_sub, ← Nat.mul_assoc] at hgap
  omega

namespace IsRoomy

variable (h : map.IsRoomy hash floor) (hhash : HashCompatible hash)
include h hhash

/-- A removal that leaves fewer slots has the table halved. -/
theorem halved_of_level_lt {key : K}
    (hshrunk : (map.erasePair key).state.table.load.level < map.table.load.level) :
  map.Halved key (map.erasePair key).state.table.load
  := by
  have hremoval := h.removal hhash key
  have hload := hremoval.eq
  obtain ⟨hrebuilt, hsparse, hlevel⟩ := hremoval.resized_of_level_lt hshrunk
  have hmin := Nat.lt_of_le_of_lt (Nat.le_max_left _ _) hlevel
  rw [hrebuilt] at hload
  have hhalf : (map.table.load.rebuilt (map.table.load.level - 1)).capacity * 2
      = map.table.load.capacity := Load.two_pow_level_sub_one (by omega)
  have hback := Nat.sub_add_cancel (Nat.one_le_of_lt hmin)
  have hmin_le := Nat.le_sub_one_of_lt hmin
  rw [← hhalf] at hsparse
  by_cases hcontains : map.contains key
  · have hsize := h.sound.size_pos hhash hcontains
    rw [hload, if_pos hcontains]
    constructor
    case level_eq => apply hback
    case minLevel_le => apply hmin_le
    case sparse => apply hsparse
    case used_eq => apply Nat.sub_add_cancel hsize
    case tombstones_le_iff =>
      rw [hcontains]
      change 1 ≤ map.size - 1 ↔ _
      simp
      omega
  · rw [hload, if_neg hcontains]
    constructor
    case level_eq => apply hback
    case minLevel_le => apply hmin_le
    case sparse => apply hsparse
    case used_eq => rfl
    case tombstones_le_iff => simpa [Load.rebuilt] using Or.inl hcontains

/-! ### An insertion after a removal -/

/-- A table that was halved before a removal is doubled again by the next insertion just if one
more entry than there were is too much for it. An only entry that was removed makes an
exception, since the tombstone it leaves behind is cleared away instead. -/
theorem level_insert_erasePair {key : K}
    (hshrunk : (map.erasePair key).state.table.load.level < map.table.load.level)
    (other : K) (value : V) :
  let after := (map.erasePair key).state
  (after.insert other value).state.table.load.level
    = if after.capacity * map.rule.maxLoad < (map.size + 1) * 100
        ∧ (map.contains key = false ∨ 2 ≤ map.size) then map.table.load.level
      else after.table.load.level
  := by
  intro after
  have hafter := (kept_isRoomy hhash floor).erasePair map key h
  have hhalved := h.halved_of_level_lt hhash hshrunk
  have hmax := Nat.lt_of_lt_of_le hshrunk h.room.level_le
  rw [(hafter.insertion hhash other value).level_eq hmax, hhalved.level_eq]
  apply if_congr _ rfl rfl
  rw [LoadFactor.onInsert_eq_grow_iff, hhalved.tombstones_le_iff, hhalved.used_eq, and_comm]
  rfl

end IsRoomy

/-! ### Runs -/

/-- If a removal has the table halved, in whatever state of a run, the insertion that comes next
doubles it again just if one more entry than there were before the removal is too much for the
halved table, and the removed entry was not the only one. It never does if the halved table,
which is not below the minimal level, has enough slots for the percentage points between twice
the minimal load and the maximal one. -/
theorem run_level_insert_erasePair {memory : Memory} {capacity : Nat} {rule : LoadFactor}
    {start : Map K V LoadFactor} (hhash : HashCompatible hash)
    (hstart : ofCapacity memory capacity hash rule = .ok start) (ops : List (Op K V)) (key : K)
    (hshrunk : ((start.run ops).1.erasePair key).state.table.load.level
      < (start.run ops).1.table.load.level) (other : K) (value : V) :
  let before := (start.run ops).1
  let after := (before.erasePair key).state
  let last := (after.insert other value).state
  (last.table.load.level = before.table.load.level
      ↔ after.capacity * rule.maxLoad < (before.size + 1) * 100
        ∧ (before.contains key = false ∨ 2 ≤ before.size))
    ∧ 2 ^ rule.minLevel ≤ after.capacity
    ∧ (99 ≤ after.capacity * (rule.maxLoad - 2 * rule.minLoad)
      → last.table.load.level = after.table.load.level)
  := by
  intro before after last
  have hbefore := (kept_isRoomy hhash _).run ops (isRoomy_of_ofCapacity hstart)
  have hrule : before.rule = rule := by
    apply (kept_rule rule).run ops
    obtain ⟨level, -, -, rfl⟩ := eq_of_ofCapacity hstart
    rfl
  have hhalved := hbefore.halved_of_level_lt hhash hshrunk
  have hlevel : last.table.load.level = _ :=
    hbefore.level_insert_erasePair hhash hshrunk other value
  rw [hlevel, ← hrule]
  refine ⟨⟨?_, ?_⟩, ?_, ?_⟩
  · intro hback
    by_contra hnot
    rw [if_neg hnot] at hback
    apply Nat.ne_of_lt hshrunk hback
  · intro hover
    apply if_pos hover
  · apply Nat.pow_le_pow_right Nat.two_pos hhalved.minLevel_le
  · intro hgap
    apply if_neg
    rintro ⟨hover, -⟩
    apply Nat.not_lt_of_le (hhalved.size_add_one_le hgap) hover

/-- Under the default rule a table of sixteen slots with two entries left is halved. It is not
doubled again. -/
theorem run_level_insert_erasePair_of_default :
  let hash := (Hashing.constant 3).hashValue
  let rule : LoadFactor := {}
  let start : Map Value Nat LoadFactor := ⟨hash, rule, .blank 3⟩
  let ops := [.insertMany [(.null, 1), (.boolean true, 2), (.boolean false, 3), (.tinyInt 1, 4),
    (.tinyInt 2, 5), (.tinyInt 3, 6)], .erase .null, .erase (.tinyInt 1), .erase (.tinyInt 2),
    .erase (.tinyInt 3)]
  let before := (start.run ops).1
  let after := (before.erasePair .null).state
  let last := (after.insert .null 7).state
  ofCapacity ⟨40, fun _ => true⟩ 0 hash rule = .ok start
    ∧ after.table.load.level < before.table.load.level
    ∧ (last.table.load.level = before.table.load.level
      ↔ after.capacity * rule.maxLoad < (before.size + 1) * 100
        ∧ (before.contains .null = false ∨ 2 ≤ before.size))
    ∧ 2 ^ rule.minLevel ≤ after.capacity
    ∧ (99 ≤ after.capacity * (rule.maxLoad - 2 * rule.minLoad)
      → last.table.load.level = after.table.load.level)
  := by
  have hstart : ofCapacity ⟨40, fun _ => true⟩ 0 (Hashing.constant 3).hashValue ({} : LoadFactor)
      = .ok (⟨_, _, .blank 3⟩ : Map Value Nat LoadFactor) := rfl
  exact ⟨hstart, by decide,
    run_level_insert_erasePair (Hashing.constant 3).hashCompatible hstart _ _ (by decide) _ _⟩

/-- The second removal has a table of four slots halved, and the insertion after it doubles the
table again, though it only replaces a value. -/
theorem level_insert_erasePair_of_narrow_gap :
  let hash := Hashing.lastWord.hashValue
  let rule : LoadFactor := { maxLoad := 90, minLoad := 44, minLevel := 1 }
  let start : Map Value Nat LoadFactor := ⟨hash, rule, .blank 1⟩
  let before := (start.run [.insert (.bigInt 1) 1, .insert (.bigInt 2) 2, .erase (.bigInt 2)]).1
  let after := (before.erasePair (.bigInt 2)).state
  let last := (after.insert (.bigInt 1) 3).state
  ofCapacity ⟨40, fun _ => true⟩ 0 hash rule = .ok start
    ∧ before.table.load.level = 2 ∧ after.table.load.level = 1 ∧ last.table.load.level = 2
  := ⟨rfl, rfl, rfl, rfl⟩

end Map

end OpenAddressing
