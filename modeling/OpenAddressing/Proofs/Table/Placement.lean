import OpenAddressing.Proofs.Table.Mutation

/-!
# The slot that a mutation changes

A mutation of a well-formed table changes one slot at most. A new key takes the first slot of its
probe sequence without an entry, a tombstone as well as an empty one; a key that is present has its
entry changed in the slot that holds it. `FillsVacancy`, `ReplacesValue` and `LeavesTombstone` say
all of what is left behind. So an entry stays in its slot until it is removed: `HoldsAt` forgets the
value of an entry and keeps its place.
-/

namespace OpenAddressing

namespace Table

variable {K V : Type}

/-! ### One slot -/

/-- The tables have as many slots, and differ in slot `i` at most, which comes to be `slot`. -/
structure DiffersAt (table next : Table K V) (i : Nat) (slot : Slot K V) : Prop where
  size_eq : next.slots.size = table.slots.size
  slotAt_eq : ∀ j, next.slotAt j = if j = i then slot else table.slotAt j

theorem differsAt_withSlot {table : Table K V} {i : Nat} (hi : i < table.slots.size)
    (slot : Slot K V) (load : Load) :
  table.DiffersAt (table.withSlot i slot load) i slot
  := ⟨size_slots_withSlot _ _ _ _, slotAt_withSlot hi slot load⟩

/-- The insertion of a new key answers that there was none. The key takes slot `i`, the first of
its probe sequence without an entry. One more entry is counted, and one tombstone less just if the
slot was one. -/
structure FillsVacancy (table : Table K V) (hash : UInt64) (key : K) (value : V) (i : Nat)
    (outcome : Outcome (Table K V) (Option V)) : Prop where
  answer_eq : outcome.answer = .ok none
  isVacancy : table.IsVacancy hash i
  differsAt : table.DiffersAt outcome.state i (.occupied ⟨hash, key, value⟩)
  level_eq : outcome.state.load.level = table.load.level
  floor_eq : outcome.state.load.floor = table.load.floor
  live_eq : outcome.state.load.live = table.load.live + 1
  tombstones_eq : outcome.state.load.tombstones + (table.slotAt i).isTombstone.toNat
    = table.load.tombstones

/-- The insertion of a present key answers its old value, and changes nothing but that value in
slot `i`. The key that was inserted first and its hash are kept. -/
structure ReplacesValue (table : Table K V) (i : Nat) (entry : Entry K V) (value : V)
    (outcome : Outcome (Table K V) (Option V)) : Prop where
  answer_eq : outcome.answer = .ok (some entry.value)
  differsAt : table.DiffersAt outcome.state i (.occupied { entry with value })
  load_eq : outcome.state.load = table.load

/-- The removal of a present key answers its entry, and leaves a tombstone in slot `i`. -/
structure LeavesTombstone (table : Table K V) (i : Nat) (entry : Entry K V)
    (outcome : Outcome (Table K V) (Option (Entry K V))) : Prop where
  answer_eq : outcome.answer = .ok (some entry)
  differsAt : table.DiffersAt outcome.state i .tombstone
  level_eq : outcome.state.load.level = table.load.level
  floor_eq : outcome.state.load.floor = table.load.floor
  live_eq : outcome.state.load.live + 1 = table.load.live
  tombstones_eq : outcome.state.load.tombstones = table.load.tombstones + 1

/-- Slot `i` holds an entry with this hash and this key, whatever its value is. -/
def HoldsAt (i : Nat) (hash : UInt64) (key : K) (table : Table K V) : Prop :=
  ∃ value, table.slotAt i = .occupied ⟨hash, key, value⟩

/-- An entry stays where it is when another slot is replaced, or its own by one with another
value. -/
theorem HoldsAt.withSlot {table : Table K V} {i j : Nat} {hash : UInt64} {key : K}
    (h : table.HoldsAt j hash key) (hi : i < table.slots.size) {slot : Slot K V}
    (hslot : j = i → ∃ value, slot = .occupied ⟨hash, key, value⟩) (load : Load) :
  (table.withSlot i slot load).HoldsAt j hash key
  := by
  rw [HoldsAt, slotAt_withSlot hi]
  split
  next hj => apply hslot hj
  next => apply h

namespace WellFormed

variable [BEq K] {table : Table K V} {hash : K → UInt64} (h : table.WellFormed hash)
include h

theorem lt_size_of_slotAt {i : Nat} {entry : Entry K V}
    (hslot : table.slotAt i = .occupied entry) :
  i < table.slots.size
  := h.lt_size (h.reaches i entry hslot).lt_capacity

variable [EquivBEq K] (hhash : HashCompatible hash)
include hhash

/-! ### What a mutation leaves behind -/

/-- While a slot is empty, a new key takes the first slot without an entry. -/
theorem insert_fillsVacancy {key : K} {i : Nat} (hi : i < table.load.capacity)
    (hempty : table.slotAt i = .empty)
    (habsent : ∀ entry ∈ table.entries, (entry.key == key) = false) (value : V) :
  ∃ j, table.FillsVacancy (hash key) key value j (table.insert (hash key) key value)
  := by
  obtain ⟨j, tombstone, hvacancy, hslot, hinsert⟩ :=
    h.insert_of_absent hhash habsent (h.used_lt_capacity hi hempty) value
  use j
  rw [hinsert]
  constructor
  case answer_eq => rfl
  case isVacancy => apply hvacancy
  case differsAt => apply differsAt_withSlot (h.lt_size hvacancy.reaches.lt_capacity)
  case level_eq => rfl
  case floor_eq => rfl
  case live_eq => rfl
  case tombstones_eq =>
    rw [hslot]
    cases tombstone with
    | false => rfl
    | true => apply Nat.sub_add_cancel (h.tombstones_pos hslot)

/-- A present key has its value replaced in the slot that holds it. -/
theorem insert_replacesValue {i : Nat} {entry : Entry K V} {key : K}
    (hslot : table.slotAt i = .occupied entry) (hkey : entry.key == key) (value : V) :
  table.ReplacesValue i entry value (table.insert (hash key) key value)
  := by
  rw [h.insert_of_slotAt hhash hslot hkey value]
  constructor
  case answer_eq => rfl
  case differsAt => apply differsAt_withSlot (h.lt_size_of_slotAt hslot)
  case load_eq => rfl

/-- The slot that holds a removed key becomes a tombstone. -/
theorem erase_leavesTombstone {i : Nat} {entry : Entry K V} {key : K}
    (hslot : table.slotAt i = .occupied entry) (hkey : entry.key == key) :
  table.LeavesTombstone i entry (table.erase (hash key) key)
  := by
  rw [h.erase_of_slotAt hhash hslot hkey]
  constructor
  case answer_eq => rfl
  case differsAt => apply differsAt_withSlot (h.lt_size_of_slotAt hslot)
  case level_eq => rfl
  case floor_eq => rfl
  case live_eq => apply Nat.sub_add_cancel (h.live_pos hslot)
  case tombstones_eq => rfl

/-! ### Entries stay in their slots -/

variable {i : Nat} {khash : UInt64} {key : K} (hholds : table.HoldsAt i khash key)
include hholds

theorem holdsAt_insert (other : K) (value : V) :
  (table.insert (hash other) other value).state.HoldsAt i khash key
  := by
  obtain ⟨old, hold⟩ := hholds
  rcases h.insert_cases hhash other value with ⟨j, entry, hslot, -, hinsert⟩
    | ⟨j, tombstone, hvacancy, -, -, hinsert⟩ | ⟨-, -, hinsert⟩
  · rw [hinsert]
    apply HoldsAt.withSlot ⟨old, hold⟩ (h.lt_size_of_slotAt hslot)
    rintro rfl
    rw [hold] at hslot
    cases hslot
    use value
  · rw [hinsert]
    apply HoldsAt.withSlot ⟨old, hold⟩ (h.lt_size hvacancy.reaches.lt_capacity)
    rintro rfl
    have hoccupied := hvacancy.1
    rw [hold] at hoccupied
    cases hoccupied
  · rw [hinsert]
    use old, hold

theorem holdsAt_erase {other : K} (hother : (other == key) = false) :
  (table.erase (hash other) other).state.HoldsAt i khash key
  := by
  obtain ⟨old, hold⟩ := hholds
  rcases h.erase_cases hhash other with ⟨j, entry, hslot, hkey, herase⟩ | ⟨-, herase⟩
  · rw [herase]
    apply HoldsAt.withSlot ⟨old, hold⟩ (h.lt_size_of_slotAt hslot)
    rintro rfl
    rw [hold] at hslot
    cases hslot
    rw [BEq.symm hkey] at hother
    cases hother
  · rw [herase]
    use old, hold

theorem holdsAt_modify (other : K) (f : V → V) :
  (table.modify (hash other) other f).1.HoldsAt i khash key
  := by
  obtain ⟨old, hold⟩ := hholds
  rcases h.modify_cases hhash other f with ⟨j, entry, hslot, -, hmodify⟩ | ⟨-, hmodify⟩
  · rw [hmodify]
    apply HoldsAt.withSlot ⟨old, hold⟩ (h.lt_size_of_slotAt hslot)
    rintro rfl
    rw [hold] at hslot
    cases hslot
    use f old
  · rw [hmodify]
    use old, hold

end WellFormed

theorem HoldsAt.mapValues {table : Table K V} {i : Nat} {hash : UInt64} {key : K}
    (h : table.HoldsAt i hash key) (f : K → V → V) :
  (table.mapValues f).HoldsAt i hash key
  := by
  obtain ⟨old, hold⟩ := h
  use f key old
  rw [slotAt_mapValues, hold]
  rfl

end Table

end OpenAddressing
