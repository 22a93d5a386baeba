import OpenAddressing.Sizing.Resize
import OpenAddressing.Table.Basic

/-!
# Rebuilding a table

A rebuild moves the entries of a table into an empty one, in the order of the slots and by the
hashes they keep; tombstones are left behind. Since the keys are distinct and the new table has
no tombstones, `reinsert` takes the first empty slot and compares nothing. If the new table is
too small, the rebuild breaks off at the first entry without a slot, and what has been moved by
then is all that is left.
-/

namespace OpenAddressing

namespace Table

variable {K : Type} {V : Type}

/-- The first empty slot on the probe sequence of a hash. -/
def vacancy? (table : Table K V) (hash : UInt64) : Option Nat :=
  let found := (table.probe hash).walk () fun _ i =>
    if (table.slotAt i).isEmpty then .error i else .ok ()
  match found with
  | .error i => some i
  | .ok _ => none

/-- Put an entry whose key is not in the table, which has no tombstones. -/
def reinsert (table : Table K V) (entry : Entry K V) : Outcome (Table K V) Unit :=
  match table.vacancy? entry.hash with
  | none => .fault table table.full
  | some i =>
    match table.load.afterInsert false with
    | .ok load => .ok { load, slots := table.slots.setIfInBounds i (.occupied entry) } ()
    | .error cause => .fault table cause

/-- Put one entry after the other, up to the first that finds no slot. -/
def reinsertAll : List (Entry K V) → Table K V → Outcome (Table K V) Unit
  | [], table => .ok table ()
  | entry :: entries, table =>
    (table.reinsert entry).andThen fun table _ => reinsertAll entries table

/-- The table of the given level in which every slot is empty, created at the same level as
this one. -/
def restart (table : Table K V) (level : Nat) : Table K V where
  load := table.load.restart level
  slots := Array.replicate (2 ^ level) .empty

/-- Move the entries into an empty table of the given level. The memory for its slots is taken as
granted. -/
def rebuild (table : Table K V) (level : Nat) : Outcome (Table K V) Unit :=
  let before := table.load
  (reinsertAll table.entries (table.restart level)).andThen fun table _ =>
    { state := table
      rebuilds := [⟨before.level, level, table.load.live, before.tombstones⟩]
      answer := .ok () }

/-- Rebuild the table as the sizing rule wants it, with the memory for the new slots taken as
granted. Only the first table of a map may be refused its memory. -/
def resize (table : Table K V) : Option Resize → Outcome (Table K V) Unit
  | none => .ok table ()
  | some resize =>
    match resize.targetLevel table.load.level with
    | .error cause => .fault table cause
    | .ok level =>
      if level ≤ maxLevel then table.rebuild level else .fault table .capacityOverflow

end Table

end OpenAddressing
