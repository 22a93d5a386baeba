import OpenAddressing.Proofs.Keyed
import OpenAddressing.Proofs.Table.Search

/-!
# What a well-formed table tells

The load of a well-formed table counts its entries, so it has an empty slot as long as fewer
slots are in use than there are. Searching it for a key finds the one entry with that key, and
misses the key if there is none. All of this is for hashes that agree on equal keys.
-/

namespace OpenAddressing

variable {K V : Type} [BEq K]

/-- Equal keys have equal hashes. -/
def HashCompatible (hash : K → UInt64) : Prop :=
  ∀ a b : K, a == b → hash a = hash b

namespace Table

variable {table : Table K V} {hash : K → UInt64}

omit [BEq K] in
/-- Every slot of the table is on every probe sequence. -/
theorem mem_positions_probe {hash : UInt64} {i : Nat} :
  i ∈ (table.probe hash).positions ↔ i < table.load.capacity
  := ProbeSequence.mem_positions_start

namespace WellFormed

/-! ### Counting -/

/-- Every slot is in use or empty. -/
theorem used_add_empty (h : table.WellFormed hash) :
  table.load.used + table.slots.toList.countP Slot.isEmpty = table.load.capacity
  := by
  rw [← h.size_slots, ← Array.length_toList, ← Slot.countP_kinds, Load.used, h.live_eq,
    h.tombstones_eq]

theorem used_le_capacity (h : table.WellFormed hash) :
  table.load.used ≤ table.load.capacity
  := by
  have hall := h.used_add_empty
  omega

/-- The live entries are the entries. -/
theorem live_eq_length (h : table.WellFormed hash) :
  table.load.live = table.entries.length
  := by
  rw [h.live_eq, entries, Slot.length_filterMap_stored?]

/-- While not every slot is in use there is an empty one. -/
theorem exists_empty (h : table.WellFormed hash) (hroom : table.load.used < table.load.capacity) :
  ∃ i, i < table.load.capacity ∧ table.slotAt i = .empty
  := by
  have hall := h.used_add_empty
  have hpos : 0 < table.slots.toList.countP Slot.isEmpty := by omega
  obtain ⟨slot, hslot, hempty⟩ := List.countP_pos_iff.mp hpos
  obtain ⟨i, hi, rfl⟩ := Array.mem_iff_getElem.mp (Array.mem_toList_iff.mp hslot)
  use i
  rw [← h.size_slots, slotAt_of_lt hi]
  exact ⟨hi, Slot.isEmpty_iff.mp hempty⟩

theorem lt_size (h : table.WellFormed hash) {i : Nat} (hi : i < table.load.capacity) :
  i < table.slots.size
  := by
  rw [h.size_slots]
  apply hi

/-- An empty slot shows that not every slot is in use. -/
theorem used_lt_capacity (h : table.WellFormed hash) {i : Nat} (hi : i < table.load.capacity)
    (hslot : table.slotAt i = .empty) :
  table.load.used < table.load.capacity
  := by
  have hall := h.used_add_empty
  have hpos := countP_pos_of_slotAt (h.lt_size hi) Slot.isEmpty (by rw [hslot]; rfl)
  omega

/-- A table without an empty slot is used to the full. -/
theorem used_eq_capacity (h : table.WellFormed hash)
    (hslots : ∀ i < table.load.capacity, table.slotAt i ≠ .empty) :
  table.load.used = table.load.capacity
  := by
  apply Nat.le_antisymm h.used_le_capacity
  by_contra hlt
  obtain ⟨i, hi, hempty⟩ := h.exists_empty (Nat.lt_of_not_le hlt)
  apply hslots i hi hempty

/-! ### Keys -/

/-- The entries have pairwise different keys. -/
theorem distinctKeys_entries (h : table.WellFormed hash) :
  DistinctKeys Entry.key table.entries
  := by
  rw [DistinctKeys, entries, List.pairwise_filterMap, List.pairwise_iff_getElem]
  intro i j hi hj hij a ha b hb
  rw [Slot.stored?_eq_some_iff, Array.getElem_toList] at ha hb
  rw [← slotAt_of_lt] at ha hb
  by_contra hab
  apply Nat.ne_of_lt hij
  apply h.distinct i j a b ha hb
  simpa using hab

/-- Entries are reached by the hash of every key equal to theirs. -/
theorem reaches_of_beq (h : table.WellFormed hash) (hhash : HashCompatible hash) {key : K}
    {i : Nat} {entry : Entry K V} (hslot : table.slotAt i = .occupied entry)
    (hkey : entry.key == key) :
  entry.isFor (hash key) key ∧ table.Reaches (hash key) i
  := by
  have hentry : entry.hash = hash key := by
    rw [h.hash_eq i entry hslot]
    apply hhash _ _ hkey
  constructor
  · simp [Entry.isFor, hentry, hkey]
  · rw [← hentry]
    apply h.reaches i entry hslot

/-- A key that is missed has no entry. -/
theorem beq_eq_false_of_misses (h : table.WellFormed hash) (hhash : HashCompatible hash)
    {key : K} (hmisses : table.Misses (hash key) key) :
  ∀ entry ∈ table.entries, (entry.key == key) = false
  := by
  intro entry hentry
  obtain ⟨i, hslot⟩ := mem_entries.mp hentry
  by_contra hkey
  obtain ⟨hfor, hreach⟩ := h.reaches_of_beq hhash hslot (by simpa using hkey)
  rw [hmisses.isFor_eq_false hslot hreach] at hfor
  cases hfor

/-- A search finds a slot just if the slot holds an entry with the key. -/
theorem find?_eq_some_iff [EquivBEq K] (h : table.WellFormed hash)
    (hhash : HashCompatible hash) {key : K} {i : Nat} :
  table.find? (hash key) key = some i
    ↔ ∃ entry, table.slotAt i = .occupied entry ∧ entry.key == key
  := by
  constructor
  · intro hfound
    obtain ⟨entry, hslot, hfor⟩ := slotAt_of_find?_eq_some hfound
    use entry, hslot
    apply (Bool.and_eq_true_iff.mp hfor).2
  · rintro ⟨entry, hslot, hkey⟩
    cases hfound : table.find? (hash key) key with
    | none =>
        have hfalse := h.beq_eq_false_of_misses hhash (misses_of_find?_eq_none hfound) entry
          (mem_entries.mpr ⟨i, hslot⟩)
        rw [hfalse] at hkey
        cases hkey
    | some j =>
        obtain ⟨other, hother, hfor⟩ := slotAt_of_find?_eq_some hfound
        have hsame := BEq.trans (Bool.and_eq_true_iff.mp hfor).2 (BEq.symm hkey)
        rw [h.distinct j i other entry hother hslot hsame]

/-- A search finds nothing just if no entry has the key. -/
theorem find?_eq_none_iff [EquivBEq K] (h : table.WellFormed hash)
    (hhash : HashCompatible hash) {key : K} :
  table.find? (hash key) key = none ↔ ∀ entry ∈ table.entries, (entry.key == key) = false
  := by
  constructor
  · intro hnone
    apply h.beq_eq_false_of_misses hhash (misses_of_find?_eq_none hnone)
  · intro habsent
    cases hfound : table.find? (hash key) key with
    | none => rfl
    | some i =>
        obtain ⟨entry, hslot, hkey⟩ := (h.find?_eq_some_iff hhash).mp hfound
        rw [habsent entry (mem_entries.mpr ⟨i, hslot⟩)] at hkey
        cases hkey

/-- A search finds a slot just if some entry has the key. -/
theorem isSome_find?_iff [EquivBEq K] (h : table.WellFormed hash)
    (hhash : HashCompatible hash) {key : K} :
  (table.find? (hash key) key).isSome ↔ ∃ entry ∈ table.entries, entry.key == key
  := by
  constructor
  · intro hsome
    obtain ⟨i, hfound⟩ := Option.isSome_iff_exists.mp hsome
    obtain ⟨entry, hslot, hkey⟩ := (h.find?_eq_some_iff hhash).mp hfound
    use entry, mem_entries.mpr ⟨i, hslot⟩
  · rintro ⟨entry, hentry, hkey⟩
    obtain ⟨i, hslot⟩ := mem_entries.mp hentry
    rw [(h.find?_eq_some_iff hhash).mpr ⟨entry, hslot, hkey⟩]
    rfl

/-- Looking a key up is finding its entry in the list of all. -/
theorem lookup?_eq_find? [EquivBEq K] (h : table.WellFormed hash)
    (hhash : HashCompatible hash) (key : K) :
  table.lookup? (hash key) key = table.entries.find? fun entry => entry.key == key
  := by
  rw [lookup?]
  cases hfound : table.find? (hash key) key with
  | none =>
      have habsent := (h.find?_eq_none_iff hhash).mp hfound
      symm
      apply List.find?_eq_none.mpr
      intro entry hentry
      simp [habsent entry hentry]
  | some i =>
      obtain ⟨entry, hslot, hkey⟩ := (h.find?_eq_some_iff hhash).mp hfound
      rw [Option.bind_some, hslot]
      symm
      apply h.distinctKeys_entries.find?_eq_some_iff.mpr ⟨mem_entries.mpr ⟨i, hslot⟩, hkey⟩

/-- Looking a key up finds the one entry that has it. -/
theorem lookup?_eq_some_iff [EquivBEq K] (h : table.WellFormed hash)
    (hhash : HashCompatible hash) {key : K} {entry : Entry K V} :
  table.lookup? (hash key) key = some entry ↔ entry ∈ table.entries ∧ entry.key == key
  := by
  rw [h.lookup?_eq_find? hhash, h.distinctKeys_entries.find?_eq_some_iff]

/-- Where an insertion lands: on the entry with the key, or else on the first slot without an
entry, or else nowhere because every slot is in use. -/
theorem place_cases (h : table.WellFormed hash) (hhash : HashCompatible hash) (key : K) :
  (∃ i entry, table.place (hash key) key = .existing i entry
      ∧ table.slotAt i = .occupied entry ∧ entry.key == key)
    ∨ (∃ i tombstone, table.place (hash key) key = .vacant i tombstone
      ∧ table.IsVacancy (hash key) i ∧ (table.slotAt i = if tombstone then .tombstone else .empty)
      ∧ ∀ entry ∈ table.entries, (entry.key == key) = false)
    ∨ (table.place (hash key) key = .nowhere ∧ table.load.used = table.load.capacity
      ∧ ∀ entry ∈ table.entries, (entry.key == key) = false)
  := by
  cases hplace : table.place (hash key) key with
  | existing i entry =>
      obtain ⟨hslot, hfor⟩ := slotAt_of_place_eq_existing hplace
      left
      exact ⟨i, entry, rfl, hslot, (Bool.and_eq_true_iff.mp hfor).2⟩
  | vacant i tombstone =>
      obtain ⟨hmisses, hvacancy, hslot⟩ := isVacancy_of_place_eq_vacant hplace
      right
      left
      exact ⟨i, tombstone, rfl, hvacancy, hslot, h.beq_eq_false_of_misses hhash hmisses⟩
  | nowhere =>
      have hpasses := passes_of_place_eq_nowhere hplace
      right
      right
      use rfl
      constructor
      · apply h.used_eq_capacity
        intro i hi
        apply (hpasses i (mem_positions_probe.mpr hi)).1
      · apply h.beq_eq_false_of_misses hhash (Or.inl hpasses)

end WellFormed

end Table

end OpenAddressing
