import OpenAddressing.Table.Basic

/-!
# Well-formed tables

A table is well formed if its load counts its slots, every entry keeps the hash of its key and
is reached along its probe sequence, and no key has two entries. The conditions speak of the
slots only, and not of the functions that search them.
-/

namespace OpenAddressing

namespace Table

variable {K V : Type}

/-- Slot `i` is on the probe sequence of a hash, and no slot before it is empty. -/
def Reaches (table : Table K V) (hash : UInt64) (i : Nat) : Prop :=
  ∃ before after, (table.probe hash).positions = before ++ i :: after ∧
    ∀ j ∈ before, table.slotAt j ≠ .empty

/-- The conditions that every operation keeps. -/
structure WellFormed [BEq K] (hash : K → UInt64) (table : Table K V) : Prop where
  /-- There are as many slots as the level says. -/
  size_slots : table.slots.size = table.load.capacity
  /-- The live entries are counted. -/
  live_eq : table.load.live = table.slots.toList.countP Slot.isOccupied
  /-- The tombstones are counted. -/
  tombstones_eq : table.load.tombstones = table.slots.toList.countP Slot.isTombstone
  /-- Entries keep the hash of their key. -/
  hash_eq : ∀ i entry, table.slotAt i = .occupied entry → entry.hash = hash entry.key
  /-- No empty slot comes before an entry on its probe sequence. -/
  reaches : ∀ i entry, table.slotAt i = .occupied entry → table.Reaches entry.hash i
  /-- No two slots hold equal keys. -/
  distinct : ∀ i j a b, table.slotAt i = .occupied a → table.slotAt j = .occupied b →
    a.key == b.key → i = j

end Table

end OpenAddressing
