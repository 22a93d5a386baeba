import OpenAddressing.Proofs.Map.Settling

/-!
# Removing a key and inserting it again

A removal leaves a tombstone in the slot of its entry. That slot is reached by every key equal to
the removed one, so that such a key, if it is inserted next, meets the tombstone before it meets an
empty slot. It takes the first tombstone that it meets, which may be an earlier one. So what the
removal has made a tombstone is made up for, and no empty slot is used up.

* `run_exchanges`: in every state of a run under a load factor rule, a removal of a present key and
  the insertion of an equal one leave the same counters and the same empty slots, and all other
  entries in their slots, if neither has a rebuild made.
-/

namespace OpenAddressing

namespace Table

variable {K V : Type} [BEq K]

/-- The entry in slot `i` has been exchanged for one with an equal key, which is in slot `j`. -/
structure Exchanges (table : Table K V) (i j : Nat) (entry : Entry K V) (last : Table K V) :
    Prop where
  /-- The level, the level of creation and the counters are as they were. -/
  load_eq : last.load = table.load
  /-- The slots that were empty are empty, and no others. -/
  empty_iff : ∀ k, last.slotAt k = .empty ↔ table.slotAt k = .empty
  /-- The new entry is in slot `j`, which its probe sequence visits, and slot `i` not before. -/
  slotAt_eq : last.slotAt j = .occupied entry
  precedes : ∃ before after, (table.probe entry.hash).positions = before ++ j :: after
    ∧ i ∈ j :: after ∧ i ∉ before
  /-- If the entry has moved, it has taken the place of a tombstone and left one behind. -/
  tombstones : j ≠ i → table.slotAt j = .tombstone ∧ last.slotAt i = .tombstone
  /-- The other entries are where they were. -/
  keeps : ∀ k other, k ≠ i → table.slotAt k = .occupied other → last.slotAt k = .occupied other
  /-- The entries are what they were, but for the one with the key. -/
  entries_perm : last.entries.Perm
    (table.entries.map fun other => if other.key == entry.key then entry else other)

namespace WellFormed

variable [EquivBEq K] {table : Table K V} {hash : K → UInt64} (h : table.WellFormed hash) {i : Nat}
  {old : Entry K V} (hslot : table.slotAt i = .occupied old) {key : K} (hkey : old.key == key)
include h hslot hkey

/-- After a removal no entry has the key. -/
theorem beq_eq_false_of_vacate (load : Load) :
  ∀ entry ∈ (table.withSlot i .tombstone load).entries, (entry.key == key) = false
  := by
  rw [h.entries_vacate hslot hkey]
  intro entry hentry
  simpa using (List.mem_filter.mp hentry).2

/-- Where the entry with a key was removed, an entry with an equal key fills a slot that holds
none: the entries are as many as before, and the one with the key is the new one. -/
theorem entries_refill_perm {j : Nat} (hj : j < table.slots.size) {load : Load}
    (hvacant : ((table.withSlot i .tombstone load).slotAt j).isOccupied = false)
    (entry : Entry K V) (last : Load) :
  ((table.withSlot i .tombstone load).withSlot j (.occupied entry) last).entries.Perm
    (table.entries.map fun other => if other.key == key then entry else other)
  := by
  -- filling slot `i` instead would be replacing the old entry in its place
  have hi := h.lt_size_of_slotAt hslot
  have hthere := entries_fill_perm (by rwa [size_slots_withSlot]) hvacant entry last
  have hself : ((table.withSlot i .tombstone load).slotAt i).isOccupied = false := by
    rw [slotAt_withSlot hi, if_pos rfl]
    rfl
  have hhere := entries_fill_perm (by rwa [size_slots_withSlot]) hself entry last
  rw [withSlot_withSlot, h.entries_setEntry hslot hkey fun _ => entry] at hhere
  apply hthere.trans hhere.symm

variable (hhash : HashCompatible hash)
include hhash

omit [EquivBEq K] in
/-- The slot of a removed entry is reached by an equal key, so the first slot without an entry that
the key meets is a tombstone, and it does not come after that slot. -/
theorem tombstone_of_vacate (load : Load) {j : Nat} (hlevel : load.level = table.load.level)
    (hvacancy : (table.withSlot i .tombstone load).IsVacancy (hash key) j) :
  (table.withSlot i .tombstone load).slotAt j = .tombstone
    ∧ ∃ before after, (table.probe (hash key)).positions = before ++ j :: after
      ∧ i ∈ j :: after ∧ i ∉ before
  := by
  have hi := h.lt_size_of_slotAt hslot
  have hself : (table.withSlot i .tombstone load).slotAt i = .tombstone := by
    rw [slotAt_withSlot hi, if_pos rfl]
  obtain ⟨hvacant, before, after, hpositions, hbefore⟩ := hvacancy
  have hnot : i ∉ before := by
    intro hmem
    have hoccupied := hbefore i hmem
    rw [hself] at hoccupied
    cases hoccupied
  have hprobe : (table.withSlot i .tombstone load).probe (hash key) = table.probe (hash key) := by
    rw [probe, withSlot_load, Load.mask, Load.capacity, hlevel]
    rfl
  rw [hprobe] at hpositions
  obtain ⟨-, before', after', hpositions', hreached⟩ := h.reaches_of_beq hhash hslot hkey
  have hmem : i ∈ before ++ j :: after := by
    rw [← hpositions, hpositions']
    apply List.mem_append_right before' List.mem_cons_self
  refine ⟨?_, before, after, hpositions, (List.mem_append.mp hmem).resolve_left hnot, hnot⟩
  -- slot `j` comes before slot `i`, where none was empty, or it is slot `i`
  rcases mem_or_eq_or_mem_of_split (hpositions.symm.trans hpositions') with hj | rfl | hbad
  · have hne := hreached j hj
    rw [slotAt_withSlot hi] at hvacant ⊢
    split
    next => rfl
    next hij =>
      rw [if_neg hij] at hvacant
      cases hkind : table.slotAt j with
      | empty => apply absurd hkind hne
      | tombstone => rfl
      | occupied entry =>
          rw [hkind] at hvacant
          cases hvacant
  · apply hself
  · apply absurd hbad hnot

/-- A removal of a present key, and the insertion of an equal one into the table it leaves behind,
exchange the entry with the key, as long as not every slot is in use. -/
theorem exchanges (hroom : table.load.used < table.load.capacity) (value : V) :
  ∃ j last, (table.withSlot i .tombstone table.load.vacated).insert (hash key) key value
      = .ok last none
    ∧ table.Exchanges i j ⟨hash key, key, value⟩ last
  := by
  let entry : Entry K V := ⟨hash key, key, value⟩
  have hi := h.lt_size_of_slotAt hslot
  have hlive := h.live_pos hslot
  have herased := (h.vacate hslot).2
  rw [← Load.used_vacated hlive] at hroom
  obtain ⟨j, tombstone, hvacancy, hkind, hinsert⟩ :=
    herased.insert_of_absent hhash (h.beq_eq_false_of_vacate hslot hkey _) hroom value
  obtain ⟨htombstone, hprecedes⟩ :=
    h.tombstone_of_vacate hslot hkey hhash table.load.vacated rfl hvacancy
  obtain rfl : tombstone = true := by
    rw [htombstone] at hkind
    cases tombstone with
    | false => cases hkind
    | true => rfl
  have hj : j < table.slots.size := h.lt_size hvacancy.reaches.lt_capacity
  rw [withSlot_load, Load.filled_vacated hlive] at hinsert
  have hslots : ∀ k, ((table.withSlot i .tombstone table.load.vacated).withSlot j (.occupied entry)
      table.load).slotAt k
      = if k = j then .occupied entry else if k = i then .tombstone else table.slotAt k := by
    intro k
    rw [slotAt_withSlot (by rwa [size_slots_withSlot]), slotAt_withSlot hi]
  have hmoved : j ≠ i → table.slotAt j = .tombstone := by
    intro hne
    rw [← htombstone, slotAt_withSlot hi, if_neg hne]
  refine ⟨j, _, hinsert, ?_⟩
  constructor
  case load_eq => rfl
  case empty_iff =>
    -- neither slot was empty: slot `i` held the old entry, and slot `j` is the same or a tombstone
    intro k
    rw [hslots]
    grind
  case slotAt_eq => rw [hslots, if_pos rfl]
  case precedes => apply hprecedes
  case tombstones =>
    intro hne
    use hmoved hne
    rw [hslots, if_neg hne.symm, if_pos rfl]
  case keeps =>
    intro k other hk hother
    rw [hslots, if_neg, if_neg hk, hother]
    rintro rfl
    rw [hmoved hk] at hother
    cases hother
  case entries_perm =>
    apply h.entries_refill_perm hslot hkey hj (by rw [htombstone]; rfl)

end WellFormed

end Table

namespace Map

variable {K V : Type} [BEq K] {hash : K → UInt64} {floor : Nat} {map : Map K V LoadFactor}

/-! ### Calls without a rebuild -/

namespace IsRoomy

variable [EquivBEq K] (h : map.IsRoomy hash floor)
include h

/-- A removal that reports no rebuild is made from the table as it is. -/
theorem erasePair_of_rebuilds_eq_nil {key : K} (hrebuilds : (map.erasePair key).rebuilds = []) :
  map.erasePair key
    = ((map.table.erase (hash key) key).map (·.map Entry.pair)).within
      fun table => { map with table := table }
  := by
  have hbefore : map.beforeErase.rebuilds = [] := by
    rw [erasePair_eq, Outcome.map_andThen] at hrebuilds
    apply Outcome.rebuilds_eq_nil_of_andThen (by exact hrebuilds)
  have hnone := h.onErase_eq_none hbefore
  rw [erasePair_eq, beforeErase_eq, hnone, ← h.sound.hash_eq]
  rfl

/-- An insertion that reports no rebuild is made into the table as it is, unless the table is
refused to grow. -/
theorem insert_of_rebuilds_eq_nil {key : K} {value : V}
    (hrebuilds : (map.insert key value).rebuilds = []) (hgrown : ¬map.Outgrown) :
  map.insert key value
    = (map.table.insert (hash key) key value).within fun table => { map with table := table }
  := by
  rcases h.beforeInsert_cases with ⟨houtgrown, -⟩ | ⟨hanswer, -⟩
  · apply absurd houtgrown hgrown
  · have hbefore : map.beforeInsert.rebuilds = [] := by
      rw [insert_eq] at hrebuilds
      apply Outcome.rebuilds_eq_nil_of_andThen (by exact hrebuilds)
    rw [beforeInsert_eq] at hanswer hbefore
    have hnone := h.sound.table.wellFormed.eq_none_of_resize hanswer hbefore
    rw [insert_eq, beforeInsert_eq, hnone, ← h.sound.hash_eq]
    rfl

end IsRoomy

/-! ### Runs -/

/-- In every state of a run, and for every key that is present there, a removal of the key and the
insertion of an equal one that comes next exchange its entry, if neither has a rebuild made and the
table does not have to outgrow the largest level. Level and counters are what they were, the same
slots are empty, and all other entries are in their slots; the entry itself may have moved, to the
slot of a tombstone that comes before its own on its probe sequence. -/
theorem run_exchanges [EquivBEq K] {memory : Memory} {capacity : Nat} {rule : LoadFactor}
    {start : Map K V LoadFactor} (hhash : HashCompatible hash)
    (hstart : ofCapacity memory capacity hash rule = .ok start) (ops : List (Op K V))
    {key other : K} (hpresent : (start.run ops).1.contains key) (hother : other == key) (value : V)
    (herase : ((start.run ops).1.erase key).rebuilds = [])
    (hinsert : (((start.run ops).1.erase key).state.insert other value).rebuilds = [])
    (hgrown : ¬((start.run ops).1.erase key).state.Outgrown) :
  let map := (start.run ops).1
  ∃ i j old last, map.table.slotAt i = .occupied old ∧ old.key == key
    ∧ (map.erase key).answer = .ok (some old.value)
    ∧ (map.erase key).state.insert other value = .ok { map with table := last } none
    ∧ map.table.Exchanges i j ⟨hash other, other, value⟩ last
  := by
  intro map
  have hkept := kept_isRoomy (V := V) hhash start.table.load.level
  have hroomy : map.IsRoomy hash start.table.load.level :=
    hkept.run ops (isRoomy_of_ofCapacity hstart)
  have hwell := hroomy.sound.table.wellFormed
  obtain ⟨old, hold, hkey⟩ : ∃ old ∈ map.table.entries, old.key == key := by
    rw [← hwell.isSome_find?_iff hhash, ← hroomy.sound.hash_eq]
    apply hpresent
  obtain ⟨i, hslot⟩ := Table.mem_entries.mp hold
  have herased : map.erase key
      = .ok { map with table := map.table.withSlot i .tombstone map.table.load.vacated }
        (some old.value) := by
    rw [erase, hroomy.erasePair_of_rebuilds_eq_nil (by exact herase),
      hwell.erase_of_slotAt hhash hslot hkey]
    rfl
  have hmiddle := hkept.exec (.erase key) hroomy
  have hinserted := hmiddle.insert_of_rebuilds_eq_nil hinsert hgrown
  obtain ⟨j, last, hlast, hexchanges⟩ :=
    hwell.exchanges hslot (PartialEquivBEq.trans hkey (PartialEquivBEq.symm hother)) hhash
      hroomy.room.used_lt value
  use i, j, old, last, hslot, hkey
  refine ⟨?_, ?_, hexchanges⟩
  · rw [herased]
    rfl
  · rw [exec, Outcome.map_state, herased] at hinserted
    rw [herased, hinserted]
    change Outcome.within _ ((map.table.withSlot i .tombstone _).insert _ _ _) = _
    rw [hlast]
    rfl

/-- Of three keys with the same hash the first was removed. The third, which is zero, is removed and
inserted again as the other zero, and takes the slot of the first. -/
theorem run_exchanges_of_earlier_tombstone :
  let hash := (Hashing.constant 3).hashValue
  let start : Map Value Nat LoadFactor := ⟨hash, {}, .blank 3⟩
  let ops := [.insert .null 1, .insert (.boolean true) 2, .insert (.decimal ⟨0⟩) 3, .erase .null]
  let zero := Value.decimal ⟨0x8000000000000000⟩
  let map := (start.run ops).1
  ofCapacity ⟨40, fun _ => true⟩ 0 hash {} = .ok start ∧ map.contains (.decimal ⟨0⟩)
    ∧ zero == .decimal ⟨0⟩ ∧ (map.erase (.decimal ⟨0⟩)).rebuilds = []
    ∧ ((map.erase (.decimal ⟨0⟩)).state.insert zero 4).rebuilds = []
    ∧ ¬(map.erase (.decimal ⟨0⟩)).state.Outgrown
    ∧ (map.table.slotAt 6).stored?.map Entry.value = some 3
    ∧ (((map.erase (.decimal ⟨0⟩)).state.insert zero 4).state.table.slotAt 3).stored?.map
      Entry.value = some 4
    ∧ ∃ i j old last, map.table.slotAt i = .occupied old ∧ old.key == .decimal ⟨0⟩
      ∧ (map.erase (.decimal ⟨0⟩)).answer = .ok (some old.value)
      ∧ (map.erase (.decimal ⟨0⟩)).state.insert zero 4 = .ok { map with table := last } none
      ∧ map.table.Exchanges i j ⟨3, zero, 4⟩ last
  := by
  intro hash start ops zero map
  have hstart : ofCapacity ⟨40, fun _ => true⟩ 0 hash {} = .ok start := rfl
  have hpresent : map.contains (.decimal ⟨0⟩) := by decide
  have hother : zero == .decimal ⟨0⟩ := by decide
  have herase : (map.erase (.decimal ⟨0⟩)).rebuilds = [] := by decide
  have hinsert : ((map.erase (.decimal ⟨0⟩)).state.insert zero 4).rebuilds = [] := by decide
  have hgrown : ¬(map.erase (.decimal ⟨0⟩)).state.Outgrown := by decide
  refine ⟨hstart, hpresent, hother, herase, hinsert, hgrown, by decide, by decide, ?_⟩
  apply run_exchanges (Hashing.constant 3).hashCompatible hstart ops hpresent hother 4 herase
    hinsert hgrown

end Map

end OpenAddressing
