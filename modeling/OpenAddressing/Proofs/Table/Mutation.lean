import OpenAddressing.Proofs.Table.WellFormed

/-!
# Inserting, erasing and changing entries

Every mutation of a table replaces at most one slot by one that is not empty, and
`WellFormed.withSlot` says when that keeps a table well formed. The mutations of a well-formed
table are then described case by case: `insert_cases`, `erase_cases` and `modify_cases` give the
whole outcome, and what follows them gives the entries that are left.
-/

namespace OpenAddressing

namespace Load

/-- The load after a new entry. -/
def filled (load : Load) (reused : Bool) : Load :=
  { load with live := load.live + 1, tombstones := load.tombstones - reused.toNat }

/-- The load after an entry has turned into a tombstone. -/
def vacated (load : Load) : Load :=
  { load with live := load.live - 1, tombstones := load.tombstones + 1 }

theorem used_filled_le (load : Load) (reused : Bool) :
  (load.filled reused).used ≤ load.used + 1
  := by
  simp only [used, filled]
  omega

theorem used_vacated {load : Load} (hlive : 0 < load.live) :
  load.vacated.used = load.used
  := by
  simp only [used, vacated]
  omega

/-- A new entry in place of a tombstone makes up for an entry that has turned into one. -/
theorem filled_vacated {load : Load} (hlive : 0 < load.live) :
  load.vacated.filled true = load
  := by
  rw [filled, vacated, Nat.sub_add_cancel hlive]
  rfl

/-- The counters admit a new entry in place of a tombstone, or in an empty slot. -/
theorem afterInsert_eq_ok {load : Load} {reused : Bool} (hle : load.used ≤ load.capacity)
    (hreused : reused → 0 < load.tombstones)
    (hempty : reused = false → load.used < load.capacity) :
  load.afterInsert reused = .ok (load.filled reused)
  := by
  rw [afterInsert, if_neg, if_pos]
  · rfl
  · simp only [used, capacity] at *
    cases reused <;> simp at * <;> omega
  · cases reused with
    | false => simp
    | true => simpa using Nat.pos_iff_ne_zero.mp (hreused rfl)

theorem afterErase_eq_ok {load : Load} (hlive : 0 < load.live) :
  load.afterErase = .ok load.vacated
  := by
  rw [afterErase, if_neg]
  · rfl
  · simpa using Nat.pos_iff_ne_zero.mp hlive

end Load

namespace Table

variable {K V : Type} {table : Table K V}

/-- A slot that is reached is one of the table. -/
theorem Reaches.lt_capacity {hash : UInt64} {i : Nat} (h : table.Reaches hash i) :
  i < table.load.capacity
  := by
  obtain ⟨before, after, hpositions, -⟩ := h
  rw [← mem_positions_probe, hpositions]
  apply List.mem_append_right _ List.mem_cons_self

/-- What is reached stays so as long as no slot becomes empty. -/
theorem Reaches.mono {hash : UInt64} {i : Nat} (h : table.Reaches hash i) {other : Table K V}
    (hlevel : other.load.level = table.load.level)
    (hslots : ∀ j, table.slotAt j ≠ .empty → other.slotAt j ≠ .empty) :
  other.Reaches hash i
  := by
  obtain ⟨before, after, hpositions, hbefore⟩ := h
  use before, after
  constructor
  · rw [← hpositions, probe, probe, Load.mask, Load.mask, Load.capacity, Load.capacity, hlevel]
  · intro j hj
    apply hslots j (hbefore j hj)

variable [BEq K] {hash : K → UInt64}

/-- A change of a value is not counted. -/
theorem load_modify (table : Table K V) (hash : UInt64) (key : K) (f : V → V) :
  (table.modify hash key f).1.load = table.load
  := by
  rw [modify]
  split
  next => rfl
  next =>
    split
    · rfl
    · rfl
    · rfl

namespace WellFormed

/-! ### Replacing a slot -/

/-- A table stays well formed when a slot is replaced by one that is not empty, if the load
counts the change, and an entry that is new there is reached and has a key of its own. -/
theorem withSlot [EquivBEq K] (h : table.WellFormed hash) {i : Nat}
    (hi : i < table.load.capacity) {slot : Slot K V} {load : Load} (hslot : slot ≠ .empty)
    (hlevel : load.level = table.load.level)
    (hlive : load.live + (table.slotAt i).isOccupied.toNat
      = table.load.live + slot.isOccupied.toNat)
    (htombstones : load.tombstones + (table.slotAt i).isTombstone.toNat
      = table.load.tombstones + slot.isTombstone.toNat)
    (hentry : ∀ entry, slot = .occupied entry → entry.hash = hash entry.key
      ∧ table.Reaches entry.hash i
      ∧ ∀ j other, j ≠ i → table.slotAt j = .occupied other → (other.key == entry.key) = false) :
  (table.withSlot i slot load).WellFormed hash
  := by
  have hsize := h.lt_size hi
  have hother : ∀ j entry, j ≠ i → (table.withSlot i slot load).slotAt j = .occupied entry →
      table.slotAt j = .occupied entry := by
    intro j entry hj hoccupied
    rw [slotAt_withSlot hsize, if_neg hj] at hoccupied
    apply hoccupied
  have hself : (table.withSlot i slot load).slotAt i = slot := by
    rw [slotAt_withSlot hsize, if_pos rfl]
  have hmono : ∀ {hash j}, table.Reaches hash j →
      (table.withSlot i slot load).Reaches hash j := by
    intro hash j hreach
    apply hreach.mono hlevel
    intro k hk
    rw [slotAt_withSlot hsize]
    split
    · apply hslot
    · apply hk
  constructor
  case size_slots =>
    rw [size_slots_withSlot, h.size_slots, withSlot_load, Load.capacity, Load.capacity, hlevel]
  case live_eq =>
    have hcount := countP_withSlot hsize slot load Slot.isOccupied
    rw [← h.live_eq] at hcount
    rw [withSlot_load]
    omega
  case tombstones_eq =>
    have hcount := countP_withSlot hsize slot load Slot.isTombstone
    rw [← h.tombstones_eq] at hcount
    rw [withSlot_load]
    omega
  case hash_eq =>
    intro j entry hj
    by_cases hij : j = i
    · subst hij
      apply (hentry entry (hself.symm.trans hj)).1
    · apply h.hash_eq j entry (hother j entry hij hj)
  case reaches =>
    intro j entry hj
    by_cases hij : j = i
    · subst hij
      apply hmono (hentry entry (hself.symm.trans hj)).2.1
    · apply hmono (h.reaches j entry (hother j entry hij hj))
  case distinct =>
    intro j k a b hj hk hab
    by_cases hij : j = i
    · by_cases hik : k = i
      · rw [hij, hik]
      · subst hij
        have hfalse := (hentry a (hself.symm.trans hj)).2.2 k b hik (hother k b hik hk)
        rw [BEq.comm, hfalse] at hab
        cases hab
    · by_cases hik : k = i
      · subst hik
        have hfalse := (hentry b (hself.symm.trans hk)).2.2 j a hij (hother j a hij hj)
        rw [hfalse] at hab
        cases hab
      · apply h.distinct j k a b (hother j a hij hj) (hother k b hik hk) hab

/-- An entry is counted. -/
theorem live_pos (h : table.WellFormed hash) {i : Nat} {entry : Entry K V}
    (hslot : table.slotAt i = .occupied entry) :
  0 < table.load.live
  := by
  rw [h.live_eq]
  have hne : table.slotAt i ≠ .empty := by simp [hslot]
  apply countP_pos_of_slotAt (lt_size_of_slotAt_ne_empty hne)
  rw [hslot]
  rfl

/-- A tombstone is counted. -/
theorem tombstones_pos (h : table.WellFormed hash) {i : Nat}
    (hslot : table.slotAt i = .tombstone) :
  0 < table.load.tombstones
  := by
  rw [h.tombstones_eq]
  have hne : table.slotAt i ≠ .empty := by simp [hslot]
  apply countP_pos_of_slotAt (lt_size_of_slotAt_ne_empty hne)
  rw [hslot]
  rfl

/-- A new entry may take a slot without one that it reaches, if no entry has its key. -/
theorem fill [EquivBEq K] (h : table.WellFormed hash) {i : Nat} {entry : Entry K V}
    (tombstone : Bool) (hslot : table.slotAt i = if tombstone then .tombstone else .empty)
    (hentry : entry.hash = hash entry.key) (hreach : table.Reaches entry.hash i)
    (habsent : ∀ other ∈ table.entries, (other.key == entry.key) = false) :
  table.load.afterInsert tombstone = .ok (table.load.filled tombstone)
    ∧ (table.withSlot i (.occupied entry) (table.load.filled tombstone)).WellFormed hash
  := by
  have hi := hreach.lt_capacity
  have htombstone : tombstone → 0 < table.load.tombstones := by
    rintro rfl
    apply h.tombstones_pos hslot
  constructor
  · apply Load.afterInsert_eq_ok h.used_le_capacity htombstone
    rintro rfl
    apply h.used_lt_capacity hi hslot
  · apply h.withSlot hi
    · intro hempty
      cases hempty
    · rfl
    · cases tombstone <;> rw [hslot] <;> rfl
    · cases tombstone with
      | false =>
          rw [hslot]
          rfl
      | true =>
          rw [hslot]
          apply Nat.sub_add_cancel (htombstone rfl)
    · intro other hother
      cases hother
      use hentry, hreach
      intro j other _ hj
      apply habsent other (mem_entries.mpr ⟨j, hj⟩)

/-- A new key may take a slot without an entry that it reaches. -/
theorem fillKey [EquivBEq K] (h : table.WellFormed hash) {i : Nat} {key : K} {tombstone : Bool}
    (hslot : table.slotAt i = if tombstone then .tombstone else .empty)
    (hreach : table.Reaches (hash key) i)
    (habsent : ∀ other ∈ table.entries, (other.key == key) = false) (value : V) :
  table.load.afterInsert tombstone = .ok (table.load.filled tombstone)
    ∧ (table.withSlot i (.occupied ⟨hash key, key, value⟩)
        (table.load.filled tombstone)).WellFormed hash
  := h.fill tombstone hslot rfl hreach habsent

/-- The value of an entry may change. -/
theorem setValue [EquivBEq K] (h : table.WellFormed hash) {i : Nat} {entry : Entry K V}
    (hslot : table.slotAt i = .occupied entry) (value : V) :
  (table.withSlot i (.occupied { entry with value }) table.load).WellFormed hash
  := by
  have hreach := h.reaches i entry hslot
  apply h.withSlot hreach.lt_capacity
  · intro hempty
    cases hempty
  · rfl
  · rw [hslot]
    rfl
  · rw [hslot]
    rfl
  · intro other hother
    cases hother
    use h.hash_eq i entry hslot, hreach
    intro j other hj hother
    by_contra hkey
    apply hj
    apply h.distinct j i other entry hother hslot
    simpa using hkey

/-- An entry may turn into a tombstone. -/
theorem vacate [EquivBEq K] (h : table.WellFormed hash) {i : Nat} {entry : Entry K V}
    (hslot : table.slotAt i = .occupied entry) :
  table.load.afterErase = .ok table.load.vacated
    ∧ (table.withSlot i .tombstone table.load.vacated).WellFormed hash
  := by
  have hi := (h.reaches i entry hslot).lt_capacity
  have hlive := h.live_pos hslot
  constructor
  · apply Load.afterErase_eq_ok hlive
  · apply h.withSlot hi
    · intro hempty
      cases hempty
    · rfl
    · rw [hslot]
      apply Nat.sub_add_cancel hlive
    · rw [hslot]
      rfl
    · intro other hother
      cases hother

/-! ### The mutations case by case -/

/-- An insertion replaces the value of the entry with the key, or adds an entry in the first
slot without one, or fails because there is neither. -/
theorem insert_cases (h : table.WellFormed hash) (hhash : HashCompatible hash) [EquivBEq K]
    (key : K) (value : V) :
  (∃ i entry, table.slotAt i = .occupied entry ∧ entry.key == key
      ∧ table.insert (hash key) key value
        = .ok (table.withSlot i (.occupied { entry with value }) table.load) (some entry.value))
    ∨ (∃ i tombstone, table.IsVacancy (hash key) i
      ∧ (table.slotAt i = if tombstone then .tombstone else .empty)
      ∧ (∀ entry ∈ table.entries, (entry.key == key) = false)
      ∧ table.insert (hash key) key value
        = .ok (table.withSlot i (.occupied ⟨hash key, key, value⟩)
            (table.load.filled tombstone)) none)
    ∨ (table.load.used = table.load.capacity
      ∧ (∀ entry ∈ table.entries, (entry.key == key) = false)
      ∧ table.insert (hash key) key value = .fault table table.full)
  := by
  rcases h.place_cases hhash key with ⟨i, entry, hplace, hslot, hkey⟩
    | ⟨i, tombstone, hplace, hvacancy, hslot, habsent⟩ | ⟨hplace, hused, habsent⟩
  · left
    use i, entry, hslot, hkey
    rw [insert, hplace]
    rfl
  · right
    left
    use i, tombstone, hvacancy, hslot, habsent
    rw [insert, hplace]
    obtain ⟨hload, -⟩ := h.fillKey hslot hvacancy.reaches habsent value
    simp only [hload]
    rfl
  · right
    right
    use hused, habsent
    rw [insert, hplace]

/-- A removal turns the entry with the key into a tombstone, or changes nothing. -/
theorem erase_cases (h : table.WellFormed hash) (hhash : HashCompatible hash) [EquivBEq K]
    (key : K) :
  (∃ i entry, table.slotAt i = .occupied entry ∧ entry.key == key
      ∧ table.erase (hash key) key
        = .ok (table.withSlot i .tombstone table.load.vacated) (some entry))
    ∨ ((∀ entry ∈ table.entries, (entry.key == key) = false)
      ∧ table.erase (hash key) key = .ok table none)
  := by
  cases hfound : table.find? (hash key) key with
  | none =>
      right
      use (h.find?_eq_none_iff hhash).mp hfound
      rw [erase, hfound]
  | some i =>
      obtain ⟨entry, hslot, hkey⟩ := (h.find?_eq_some_iff hhash).mp hfound
      left
      use i, entry, hslot, hkey
      simp only [erase, hfound, hslot, (h.vacate hslot).1]
      rfl

/-- Only one slot holds an entry with a key equal to the given one. -/
theorem eq_of_slotAt (h : table.WellFormed hash) [EquivBEq K] {i j : Nat} {a b : Entry K V}
    {key : K} (ha : table.slotAt i = .occupied a) (hakey : a.key == key)
    (hb : table.slotAt j = .occupied b) (hbkey : b.key == key) :
  i = j ∧ a = b
  := by
  obtain rfl := h.distinct i j a b ha hb (BEq.trans hakey (BEq.symm hbkey))
  rw [ha] at hb
  cases hb
  exact ⟨rfl, rfl⟩

/-- The insertion of a present key replaces the value in the slot that holds the key. -/
theorem insert_of_slotAt (h : table.WellFormed hash) (hhash : HashCompatible hash) [EquivBEq K]
    {i : Nat} {entry : Entry K V} {key : K} (hslot : table.slotAt i = .occupied entry)
    (hkey : entry.key == key) (value : V) :
  table.insert (hash key) key value
    = .ok (table.withSlot i (.occupied { entry with value }) table.load) (some entry.value)
  := by
  have hmem := mem_entries.mpr ⟨i, hslot⟩
  rcases h.insert_cases hhash key value with ⟨j, other, hother, hotherkey, hinsert⟩
    | ⟨_, _, -, -, habsent, -⟩ | ⟨-, habsent, -⟩
  · obtain ⟨rfl, rfl⟩ := h.eq_of_slotAt hslot hkey hother hotherkey
    apply hinsert
  · rw [habsent entry hmem] at hkey
    cases hkey
  · rw [habsent entry hmem] at hkey
    cases hkey

/-- While not every slot is in use, the insertion of an absent key fills the first slot without an
entry. -/
theorem insert_of_absent (h : table.WellFormed hash) (hhash : HashCompatible hash) [EquivBEq K]
    {key : K} (habsent : ∀ entry ∈ table.entries, (entry.key == key) = false)
    (hroom : table.load.used < table.load.capacity) (value : V) :
  ∃ i tombstone, table.IsVacancy (hash key) i
    ∧ (table.slotAt i = if tombstone then .tombstone else .empty)
    ∧ table.insert (hash key) key value
      = .ok (table.withSlot i (.occupied ⟨hash key, key, value⟩) (table.load.filled tombstone)) none
  := by
  rcases h.insert_cases hhash key value with ⟨i, entry, hslot, hkey, -⟩
    | ⟨i, tombstone, hvacancy, hslot, -, hinsert⟩ | ⟨hused, -, -⟩
  · rw [habsent entry (mem_entries.mpr ⟨i, hslot⟩)] at hkey
    cases hkey
  · exact ⟨i, tombstone, hvacancy, hslot, hinsert⟩
  · apply absurd hused hroom.ne

/-- The removal of a present key turns the slot that holds it into a tombstone. -/
theorem erase_of_slotAt (h : table.WellFormed hash) (hhash : HashCompatible hash) [EquivBEq K]
    {i : Nat} {entry : Entry K V} {key : K} (hslot : table.slotAt i = .occupied entry)
    (hkey : entry.key == key) :
  table.erase (hash key) key = .ok (table.withSlot i .tombstone table.load.vacated) (some entry)
  := by
  rcases h.erase_cases hhash key with ⟨j, other, hother, hotherkey, herase⟩ | ⟨habsent, -⟩
  · obtain ⟨rfl, rfl⟩ := h.eq_of_slotAt hslot hkey hother hotherkey
    apply herase
  · rw [habsent entry (mem_entries.mpr ⟨i, hslot⟩)] at hkey
    cases hkey

/-- An insertion stays at the level of the table, also if it fails. -/
theorem level_insert (h : table.WellFormed hash) (hhash : HashCompatible hash) [EquivBEq K]
    (key : K) (value : V) :
  (table.insert (hash key) key value).state.load.level = table.load.level
  := by
  rcases h.insert_cases hhash key value with ⟨i, entry, -, -, hinsert⟩
    | ⟨i, tombstone, -, -, -, hinsert⟩ | ⟨-, -, hinsert⟩
  · rw [hinsert]
    rfl
  · rw [hinsert]
    rfl
  · rw [hinsert]
    rfl

/-- A removal stays at the level of the table. -/
theorem level_erase (h : table.WellFormed hash) (hhash : HashCompatible hash) [EquivBEq K]
    (key : K) :
  (table.erase (hash key) key).state.load.level = table.load.level
  := by
  rcases h.erase_cases hhash key with ⟨i, entry, -, -, herase⟩ | ⟨-, herase⟩
  · rw [herase]
    rfl
  · rw [herase]
    rfl

/-- A change of a value replaces that of the entry with the key, or changes nothing. -/
theorem modify_cases (h : table.WellFormed hash) (hhash : HashCompatible hash) [EquivBEq K]
    (key : K) (f : V → V) :
  (∃ i entry, table.slotAt i = .occupied entry ∧ entry.key == key
      ∧ table.modify (hash key) key f
        = (table.withSlot i (.occupied { entry with value := f entry.value }) table.load,
            some (f entry.value)))
    ∨ ((∀ entry ∈ table.entries, (entry.key == key) = false)
      ∧ table.modify (hash key) key f = (table, none))
  := by
  cases hfound : table.find? (hash key) key with
  | none =>
      right
      use (h.find?_eq_none_iff hhash).mp hfound
      rw [modify, hfound]
  | some i =>
      obtain ⟨entry, hslot, hkey⟩ := (h.find?_eq_some_iff hhash).mp hfound
      left
      use i, entry, hslot, hkey
      simp only [modify, hfound, hslot]
      rfl

/-! ### Changing every slot -/

/-- Whether a table is well formed does not depend on its values. -/
theorem of_skeleton (h : table.WellFormed hash) {W : Type} {other : Table K W}
    (hsame : other.skeleton = table.skeleton) :
  other.WellFormed hash
  := by
  have hload := load_eq_of_skeleton hsame
  constructor
  case size_slots => rw [size_slots_eq_of_skeleton hsame, h.size_slots, hload]
  case live_eq =>
    rw [hload, h.live_eq]
    symm
    apply countP_eq_of_skeleton hsame Slot.isOccupied
    · apply Slot.isOccupied_mapValue
    · apply Slot.isOccupied_mapValue
  case tombstones_eq =>
    rw [hload, h.tombstones_eq]
    symm
    apply countP_eq_of_skeleton hsame Slot.isTombstone
    · apply Slot.isTombstone_mapValue
    · apply Slot.isTombstone_mapValue
  case hash_eq =>
    intro i entry hslot
    obtain ⟨old, hold, hkey, hhash⟩ := exists_occupied_of_skeleton hsame hslot
    rw [← hhash, ← hkey, h.hash_eq i old hold]
  case reaches =>
    intro i entry hslot
    obtain ⟨old, hold, -, hhash⟩ := exists_occupied_of_skeleton hsame hslot
    obtain ⟨before, after, hpositions, hbefore⟩ := h.reaches i old hold
    rw [← hhash]
    use before, after
    rw [probe, hload]
    use hpositions
    intro j hj
    apply slotAt_ne_empty_of_skeleton hsame (hbefore j hj)
  case distinct =>
    intro i j a b ha hb hab
    obtain ⟨olda, holda, hkeya, -⟩ := exists_occupied_of_skeleton hsame ha
    obtain ⟨oldb, holdb, hkeyb, -⟩ := exists_occupied_of_skeleton hsame hb
    apply h.distinct i j olda oldb holda holdb
    rw [hkeya, hkeyb]
    apply hab

theorem mapValues (h : table.WellFormed hash) {W : Type} (f : K → V → W) :
  (table.mapValues f).WellFormed hash
  := h.of_skeleton (skeleton_mapValues f table)

/-- A table in which every slot is empty is well formed. -/
theorem of_slots_empty {load : Load} (hlive : load.live = 0) (htombstones : load.tombstones = 0)
    {slots : Array (Slot K V)} (hsize : slots.size = load.capacity)
    (hempty : ∀ slot ∈ slots, slot = .empty) :
  (⟨load, slots⟩ : Table K V).WellFormed hash
  := by
  have hnone : ∀ kind : Slot K V → Bool, kind .empty = false → slots.toList.countP kind = 0 := by
    intro kind hkind
    apply List.countP_eq_zero.mpr
    intro slot hslot
    rw [hempty slot (Array.mem_toList_iff.mp hslot), hkind]
    simp
  have hslot : ∀ i entry, (⟨load, slots⟩ : Table K V).slotAt i ≠ .occupied entry := by
    intro i entry hslot
    have hne : (⟨load, slots⟩ : Table K V).slotAt i ≠ .empty := by simp [hslot]
    rw [slotAt_of_lt (lt_size_of_slotAt_ne_empty hne)] at hslot
    rw [hempty _ (Array.getElem_mem _)] at hslot
    cases hslot
  constructor
  case size_slots => apply hsize
  case live_eq => rw [hnone _ rfl, hlive]
  case tombstones_eq => rw [hnone _ rfl, htombstones]
  case hash_eq =>
    intro i entry h
    apply absurd h (hslot i entry)
  case reaches =>
    intro i entry h
    apply absurd h (hslot i entry)
  case distinct =>
    intro i j a b ha
    apply absurd ha (hslot i a)

theorem clear (h : table.WellFormed hash) :
  table.clear.WellFormed hash
  := by
  apply of_slots_empty rfl rfl
  · rw [Array.size_map]
    apply h.size_slots
  · intro slot hslot
    obtain ⟨_, _, rfl⟩ := Array.mem_map.mp hslot
    rfl

theorem blank (level : Nat) :
  (Table.blank level : Table K V).WellFormed hash
  := by
  apply of_slots_empty rfl rfl Array.size_replicate
  intro slot hslot
  apply Array.eq_of_mem_replicate hslot

end WellFormed

/-! ### Mutations of sound tables -/

/-- The table is well formed and was created at level `floor`. -/
structure IsSound (hash : K → UInt64) (floor : Nat) (table : Table K V) : Prop where
  wellFormed : table.WellFormed hash
  floor_eq : table.load.floor = floor

namespace IsSound

variable [EquivBEq K] {floor : Nat}

theorem insert (h : table.IsSound hash floor) (hhash : HashCompatible hash) (key : K)
    (value : V) :
  (table.insert (hash key) key value).state.IsSound hash floor
  := by
  rcases h.wellFormed.insert_cases hhash key value with ⟨i, entry, hslot, -, hinsert⟩
    | ⟨i, tombstone, hvacancy, hslot, habsent, hinsert⟩ | ⟨-, -, hinsert⟩
  · rw [hinsert]
    exact ⟨h.wellFormed.setValue hslot value, h.floor_eq⟩
  · rw [hinsert]
    exact ⟨(h.wellFormed.fillKey hslot hvacancy.reaches habsent value).2, h.floor_eq⟩
  · rw [hinsert]
    apply h

theorem erase (h : table.IsSound hash floor) (hhash : HashCompatible hash) (key : K) :
  (table.erase (hash key) key).state.IsSound hash floor
  := by
  rcases h.wellFormed.erase_cases hhash key with ⟨i, entry, hslot, -, herase⟩ | ⟨-, herase⟩
  · rw [herase]
    exact ⟨(h.wellFormed.vacate hslot).2, h.floor_eq⟩
  · rw [herase]
    apply h

theorem modify (h : table.IsSound hash floor) (hhash : HashCompatible hash) (key : K)
    (f : V → V) :
  (table.modify (hash key) key f).1.IsSound hash floor
  := by
  rcases h.wellFormed.modify_cases hhash key f with ⟨i, entry, hslot, -, hmodify⟩ | ⟨-, hmodify⟩
  · rw [hmodify]
    exact ⟨h.wellFormed.setValue hslot _, h.floor_eq⟩
  · rw [hmodify]
    apply h

end IsSound

/-! ### The entries that are left -/

/-- Changing the entry with a key changes what is for the key among the entries. -/
theorem WellFormed.entries_setEntry [EquivBEq K] (h : table.WellFormed hash) {i : Nat}
    {entry : Entry K V} {key : K} (hslot : table.slotAt i = .occupied entry)
    (hkey : entry.key == key) (f : Entry K V → Entry K V) (load : Load) :
  (table.withSlot i (.occupied (f entry)) load).entries
    = table.entries.map fun other => if other.key == key then f other else other
  := by
  obtain ⟨before, after, hentries, hwith⟩ := exists_entries_withSlot
    (h.lt_size (h.reaches i entry hslot).lt_capacity)
  have hdistinct := h.distinctKeys_entries
  rw [hslot] at hentries
  rw [Slot.stored?_occupied, Option.toList_some, List.append_assoc, List.singleton_append]
    at hentries
  rw [hentries] at hdistinct ⊢
  rw [hwith, Slot.stored?_occupied, Option.toList_some, List.append_assoc, List.singleton_append,
    hdistinct.map_if_middle hkey]

/-- Removing the entry with a key removes what is for the key among the entries. -/
theorem WellFormed.entries_vacate [EquivBEq K] (h : table.WellFormed hash) {i : Nat}
    {entry : Entry K V} {key : K} (hslot : table.slotAt i = .occupied entry)
    (hkey : entry.key == key) (load : Load) :
  (table.withSlot i .tombstone load).entries
    = table.entries.filter fun other => !(other.key == key)
  := by
  obtain ⟨before, after, hentries, hwith⟩ := exists_entries_withSlot
    (h.lt_size (h.reaches i entry hslot).lt_capacity)
  have hdistinct := h.distinctKeys_entries
  rw [hslot] at hentries
  rw [Slot.stored?_occupied, Option.toList_some, List.append_assoc, List.singleton_append]
    at hentries
  rw [hentries] at hdistinct ⊢
  rw [hwith, Slot.stored?_tombstone, Option.toList_none, List.append_nil,
    hdistinct.filter_middle hkey]

end Table

end OpenAddressing
