import Mathlib.Tactic.Use
import OpenAddressing.Table.WellFormed

/-!
# Slots and entries

What a table stores is seen in three ways: slot by slot through `slotAt`, as the list of its
entries, and through the numbers of slots of each kind. A mutation replaces one slot, and
`withSlot` is the table it leaves behind; the lemmas here say what the three views make of that.
-/

namespace OpenAddressing

variable {K V : Type}

/-! ### Kinds of slots -/

namespace Slot

theorem countP_kinds (slots : List (Slot K V)) :
  slots.countP isOccupied + slots.countP isTombstone + slots.countP isEmpty = slots.length
  := by
  induction slots with
  | nil => rfl
  | cons slot slots ih =>
      simp only [List.countP_cons, List.length_cons]
      cases slot <;> simp only [isOccupied, isTombstone, isEmpty] <;> grind

theorem length_filterMap_stored? (slots : List (Slot K V)) :
  (slots.filterMap stored?).length = slots.countP isOccupied
  := by
  induction slots with
  | nil => rfl
  | cons slot slots ih =>
      cases slot <;> simp [List.filterMap_cons, List.countP_cons, isOccupied, stored?, ih]

@[simp]
theorem stored?_empty :
  (empty : Slot K V).stored? = none
  := rfl

@[simp]
theorem stored?_tombstone :
  (tombstone : Slot K V).stored? = none
  := rfl

@[simp]
theorem stored?_occupied (entry : Entry K V) :
  (occupied entry).stored? = some entry
  := rfl

theorem isTombstone_iff {slot : Slot K V} :
  slot.isTombstone ↔ slot = .tombstone
  := by
  cases slot <;> simp [isTombstone]

theorem isEmpty_iff {slot : Slot K V} :
  slot.isEmpty ↔ slot = .empty
  := by
  cases slot <;> simp [isEmpty]

theorem isOccupied_mapValue {W : Type} (f : K → V → W) (slot : Slot K V) :
  (slot.mapValue f).isOccupied = slot.isOccupied
  := by
  cases slot <;> rfl

theorem isTombstone_mapValue {W : Type} (f : K → V → W) (slot : Slot K V) :
  (slot.mapValue f).isTombstone = slot.isTombstone
  := by
  cases slot <;> rfl

/-- Slots are told by their entries and by what they are without the values. -/
theorem eq_of_skeleton {a b : List (Slot K V)}
    (hskeleton : a.map (mapValue fun _ _ => ()) = b.map (mapValue fun _ _ => ()))
    (hentries : a.filterMap stored? = b.filterMap stored?) :
  a = b
  := by
  induction a generalizing b with
  | nil => exact (List.map_eq_nil_iff.mp hskeleton.symm).symm
  | cons slot a ih =>
      cases b with
      | nil => cases hskeleton
      | cons other b =>
          obtain ⟨hslot, hrest⟩ := List.cons.inj hskeleton
          cases slot with
          | empty =>
              cases other with
              | empty => rw [ih hrest hentries]
              | tombstone => cases hslot
              | occupied entry => cases hslot
          | tombstone =>
              cases other with
              | empty => cases hslot
              | tombstone => rw [ih hrest hentries]
              | occupied entry => cases hslot
          | occupied entry =>
              cases other with
              | empty => cases hslot
              | tombstone => cases hslot
              | occupied entry' =>
                  obtain ⟨rfl, hmore⟩ := List.cons.inj hentries
                  rw [ih hrest hmore]

end Slot

namespace Table

/-! ### Slots by their numbers -/

theorem slotAt_of_lt {table : Table K V} {i : Nat} (hi : i < table.slots.size) :
  table.slotAt i = table.slots[i]
  := by
  simp [slotAt, hi]

/-- Only the slots of the table are not empty. -/
theorem lt_size_of_slotAt_ne_empty {table : Table K V} {i : Nat} (h : table.slotAt i ≠ .empty) :
  i < table.slots.size
  := by
  by_cases hi : i < table.slots.size
  · apply hi
  · simp [slotAt, hi] at h

/-- The entries are what the slots hold. -/
theorem mem_entries {table : Table K V} {entry : Entry K V} :
  entry ∈ table.entries ↔ ∃ i, table.slotAt i = .occupied entry
  := by
  simp only [entries, List.mem_filterMap, Slot.stored?_eq_some_iff, exists_eq_right,
    Array.mem_toList_iff]
  constructor
  · intro h
    obtain ⟨i, hi, hslot⟩ := Array.mem_iff_getElem.mp h
    use i
    rw [slotAt_of_lt hi, hslot]
  · rintro ⟨i, hslot⟩
    have hne : table.slotAt i ≠ .empty := by simp [hslot]
    have hi := lt_size_of_slotAt_ne_empty hne
    rw [slotAt_of_lt hi] at hslot
    rw [← hslot]
    apply Array.getElem_mem

/-! ### Replacing a slot -/

/-- The table with slot `i` replaced, and with another load. -/
def withSlot (table : Table K V) (i : Nat) (slot : Slot K V) (load : Load) : Table K V where
  load := load
  slots := table.slots.setIfInBounds i slot

@[simp]
theorem withSlot_load (table : Table K V) (i : Nat) (slot : Slot K V) (load : Load) :
  (table.withSlot i slot load).load = load
  := rfl

@[simp]
theorem size_slots_withSlot (table : Table K V) (i : Nat) (slot : Slot K V) (load : Load) :
  (table.withSlot i slot load).slots.size = table.slots.size
  := Array.size_setIfInBounds

theorem slotAt_withSlot {table : Table K V} {i : Nat} (hi : i < table.slots.size)
    (slot : Slot K V) (load : Load) (j : Nat) :
  (table.withSlot i slot load).slotAt j = if j = i then slot else table.slotAt j
  := by
  by_cases hj : j = i
  · subst hj
    simp [slotAt, withSlot, hi]
  · have hij : i ≠ j := fun h => hj h.symm
    simp [slotAt, withSlot, hj, Array.getD_eq_getD_getElem?, hij]

/-- Of two slots that take the same place the second one stays. -/
theorem withSlot_withSlot (table : Table K V) (i : Nat) (first slot : Slot K V)
    (before load : Load) :
  (table.withSlot i first before).withSlot i slot load = table.withSlot i slot load
  := by
  simp [withSlot]

/-- The slots around slot `i` stay where they are when it is replaced. -/
theorem exists_toList_withSlot {table : Table K V} {i : Nat} (hi : i < table.slots.size) :
  ∃ before after, table.slots.toList = before ++ table.slotAt i :: after
    ∧ ∀ slot load, (table.withSlot i slot load).slots.toList = before ++ slot :: after
  := by
  use table.slots.toList.take i, table.slots.toList.drop (i + 1)
  constructor
  · rw [slotAt_of_lt hi, ← Array.getElem_toList hi, List.getElem_cons_drop,
      List.take_append_drop]
  · intro slot load
    rw [withSlot, Array.toList_setIfInBounds, List.set_eq_take_append_cons_drop, if_pos]
    simpa using hi

/-- A slot counts for its kind. -/
theorem countP_pos_of_slotAt {table : Table K V} {i : Nat} (hi : i < table.slots.size)
    (kind : Slot K V → Bool) (hkind : kind (table.slotAt i)) :
  0 < table.slots.toList.countP kind
  := by
  apply List.countP_pos_iff.mpr
  use table.slotAt i
  rw [slotAt_of_lt hi] at hkind ⊢
  exact ⟨Array.getElem_mem_toList hi, hkind⟩

/-- The slots of a kind lose the old slot and gain the new one. -/
theorem countP_withSlot {table : Table K V} {i : Nat} (hi : i < table.slots.size)
    (slot : Slot K V) (load : Load) (kind : Slot K V → Bool) :
  (table.withSlot i slot load).slots.toList.countP kind + (kind (table.slotAt i)).toNat
    = table.slots.toList.countP kind + (kind slot).toNat
  := by
  obtain ⟨before, after, htable, hwith⟩ := exists_toList_withSlot hi
  rw [htable, hwith]
  simp only [List.countP_append, List.countP_cons]
  cases kind slot <;> cases kind (table.slotAt i) <;> simp <;> omega

/-- The entries of the other slots stay in order when slot `i` is replaced. -/
theorem exists_entries_withSlot {table : Table K V} {i : Nat} (hi : i < table.slots.size) :
  ∃ before after, table.entries = before ++ (table.slotAt i).stored?.toList ++ after
    ∧ ∀ slot load,
      (table.withSlot i slot load).entries = before ++ slot.stored?.toList ++ after
  := by
  obtain ⟨before, after, htable, hwith⟩ := exists_toList_withSlot hi
  have hsplit : ∀ slot : Slot K V, (before ++ slot :: after).filterMap Slot.stored?
      = before.filterMap Slot.stored? ++ slot.stored?.toList ++ after.filterMap Slot.stored? := by
    intro slot
    rw [List.filterMap_append, List.filterMap_cons, List.append_assoc]
    cases slot.stored? <;> rfl
  use before.filterMap Slot.stored?, after.filterMap Slot.stored?
  constructor
  · rw [entries, htable, hsplit]
  · intro slot load
    rw [entries, hwith, hsplit]

/-- A slot without an entry that takes one adds it to the entries. -/
theorem entries_fill_perm {table : Table K V} {i : Nat} (hi : i < table.slots.size)
    (hslot : (table.slotAt i).isOccupied = false) (entry : Entry K V) (load : Load) :
  (table.withSlot i (.occupied entry) load).entries.Perm (table.entries ++ [entry])
  := by
  obtain ⟨before, after, hentries, hwith⟩ := exists_entries_withSlot hi
  have hnone : (table.slotAt i).stored? = none := by
    cases hkind : table.slotAt i with
    | empty => rfl
    | tombstone => rfl
    | occupied other =>
        rw [hkind] at hslot
        cases hslot
  rw [hentries, hwith, hnone]
  rw [Slot.stored?_occupied, Option.toList_some, Option.toList_none, List.append_nil,
    List.append_assoc, List.append_assoc]
  apply List.Perm.append_left
  apply List.perm_append_comm

/-! ### Changing every value -/

theorem slotAt_mapValues {W : Type} (f : K → V → W) (table : Table K V) (i : Nat) :
  (table.mapValues f).slotAt i = (table.slotAt i).mapValue f
  := by
  by_cases hi : i < table.slots.size <;> simp [slotAt, mapValues, hi, Slot.mapValue]

theorem countP_mapValues {W : Type} (f : K → V → W) (table : Table K V)
    (kind : Slot K V → Bool) {kind' : Slot K W → Bool}
    (hkind : ∀ slot, kind' (slot.mapValue f) = kind slot) :
  (table.mapValues f).slots.toList.countP kind' = table.slots.toList.countP kind
  := by
  rw [mapValues, Array.toList_map, List.countP_map]
  congr 1
  funext slot
  apply hkind

theorem entries_mapValues {W : Type} (f : K → V → W) (table : Table K V) :
  (table.mapValues f).entries
    = table.entries.map fun entry => ⟨entry.hash, entry.key, f entry.key entry.value⟩
  := by
  rw [entries, mapValues, Array.toList_map, List.filterMap_map, entries, List.map_filterMap]
  congr 1
  funext slot
  cases slot <;> rfl

/-- The table without its values. -/
def skeleton (table : Table K V) : Table K Unit :=
  table.mapValues fun _ _ => ()

theorem skeleton_mapValues {W : Type} (f : K → V → W) (table : Table K V) :
  (table.mapValues f).skeleton = table.skeleton
  := by
  rw [skeleton, skeleton, mapValues, mapValues, mapValues, Array.map_map]
  congr 2
  funext slot
  cases slot with
  | empty => rfl
  | tombstone => rfl
  | occupied entry => rfl

section Skeleton

variable {W : Type} {table : Table K V} {other : Table K W}
  (hsame : other.skeleton = table.skeleton)
include hsame

theorem load_eq_of_skeleton :
  other.load = table.load
  := congrArg Table.load hsame

theorem size_slots_eq_of_skeleton :
  other.slots.size = table.slots.size
  := by
  have hsize := congrArg (fun bare : Table K Unit => bare.slots.size) hsame
  simp only [skeleton, mapValues, Array.size_map] at hsize
  apply hsize

theorem slotAt_eq_of_skeleton (i : Nat) :
  (other.slotAt i).mapValue (fun _ _ => ()) = (table.slotAt i).mapValue fun _ _ => ()
  := by
  rw [← slotAt_mapValues, ← slotAt_mapValues]
  apply congrArg (fun bare : Table K Unit => bare.slotAt i) hsame

/-- Where one table has an entry, the other has one with the same hash and the same key. -/
theorem exists_occupied_of_skeleton {i : Nat} {entry : Entry K W}
    (hslot : other.slotAt i = .occupied entry) :
  ∃ old, table.slotAt i = .occupied old ∧ old.key = entry.key ∧ old.hash = entry.hash
  := by
  have hi := slotAt_eq_of_skeleton hsame i
  rw [hslot] at hi
  cases hold : table.slotAt i with
  | empty =>
      rw [hold] at hi
      cases hi
  | tombstone =>
      rw [hold] at hi
      cases hi
  | occupied old =>
      rw [hold] at hi
      have hentry := Slot.occupied.inj hi
      exact ⟨old, rfl, (congrArg Entry.key hentry).symm, (congrArg Entry.hash hentry).symm⟩

theorem slotAt_ne_empty_of_skeleton {i : Nat} (hslot : table.slotAt i ≠ .empty) :
  other.slotAt i ≠ .empty
  := by
  intro hempty
  apply hslot
  have hi := slotAt_eq_of_skeleton hsame i
  rw [hempty] at hi
  cases hold : table.slotAt i with
  | empty => rfl
  | tombstone =>
      rw [hold] at hi
      cases hi
  | occupied old =>
      rw [hold] at hi
      cases hi

/-- The slots of a kind that has nothing to do with values are as many in both tables. -/
theorem countP_eq_of_skeleton (bare : Slot K Unit → Bool) {kind : Slot K V → Bool}
    {kind' : Slot K W → Bool} (hkind : ∀ slot, bare (slot.mapValue fun _ _ => ()) = kind slot)
    (hkind' : ∀ slot, bare (slot.mapValue fun _ _ => ()) = kind' slot) :
  other.slots.toList.countP kind' = table.slots.toList.countP kind
  := by
  rw [← countP_mapValues _ other kind' hkind', ← countP_mapValues _ table kind hkind]
  apply congrArg (fun table : Table K Unit => table.slots.toList.countP bare) hsame

end Skeleton

/-- Tables are told by their entries and by what they are without the values. -/
theorem eq_of_skeleton {a b : Table K V} (hskeleton : a.skeleton = b.skeleton)
    (hentries : a.entries = b.entries) :
  a = b
  := by
  have hload : a.load = b.load := load_eq_of_skeleton hskeleton
  have hslots : a.slots = b.slots := by
    apply Array.ext'
    apply Slot.eq_of_skeleton _ hentries
    have hbare := congrArg (fun bare : Table K Unit => bare.slots.toList) hskeleton
    simpa [skeleton, mapValues] using hbare
  cases a
  cases b
  cases hload
  cases hslots
  rfl

theorem entries_of_slots_empty {table : Table K V} (h : ∀ slot ∈ table.slots, slot = .empty) :
  table.entries = []
  := by
  apply List.filterMap_eq_nil_iff.mpr
  intro slot hslot
  rw [h slot (Array.mem_toList_iff.mp hslot)]
  rfl

theorem entries_blank (level : Nat) :
  (blank level : Table K V).entries = []
  := entries_of_slots_empty fun _ hslot => Array.eq_of_mem_replicate hslot

end Table

end OpenAddressing
