import OpenAddressing.Outcome
import OpenAddressing.ProbeSequence
import OpenAddressing.Sizing.Load
import OpenAddressing.Table.Slot

/-!
# Tables

A `Table` is an array of `2 ^ level` slots together with its load. A key is searched along the
probe sequence of its hash, and an empty slot proves it absent, so that the slots of removed
entries become tombstones. `place` finds where an insertion lands: on the entry of the key if
there is one, else on the first slot of the sequence without an entry, be it a tombstone or
empty.
-/

namespace OpenAddressing

/-- A table of slots with its load. -/
structure Table (K : Type) (V : Type) where
  load : Load
  slots : Array (Slot K V)
  deriving Repr

/-- Where an insertion lands. -/
inductive Placement (K : Type) (V : Type) where
  /-- On the entry of the key. -/
  | existing (i : Nat) (entry : Entry K V)
  /-- On a slot without an entry, which is a tombstone or empty. -/
  | vacant (i : Nat) (tombstone : Bool)
  /-- Nowhere: the sequence has neither. -/
  | nowhere

namespace Table

variable {K : Type} {V : Type}

/-- The table of the given level in which every slot is empty. -/
def blank (level : Nat) : Table K V where
  load := .fresh level
  slots := Array.replicate (2 ^ level) .empty

instance : Inhabited (Table K V) := ⟨blank 0⟩

/-- The slot of the given number. -/
def slotAt (table : Table K V) (i : Nat) : Slot K V :=
  table.slots.getD i .empty

/-- The entries, in the order of the slots. -/
def entries (table : Table K V) : List (Entry K V) :=
  table.slots.toList.filterMap Slot.stored?

/-- The probe sequence of a hash. -/
def probe (table : Table K V) (hash : UInt64) : ProbeSequence :=
  .start hash table.load.mask

/-- The fault of an insertion that lands nowhere. -/
def full (table : Table K V) : Fault :=
  .tableFull table.load.live table.load.tombstones table.load.capacity

/-! ### Searching -/

/-- The slot that holds the entry of `key`. -/
def find? [BEq K] (table : Table K V) (hash : UInt64) (key : K) : Option Nat :=
  let found := (table.probe hash).walk () fun _ i =>
    match table.slotAt i with
    | .empty => .error none
    | .tombstone => .ok ()
    | .occupied entry => if entry.isFor hash key then .error (some i) else .ok ()
  match found with
  | .error answer => answer
  | .ok _ => none

/-- The entry of `key`. -/
def lookup? [BEq K] (table : Table K V) (hash : UInt64) (key : K) : Option (Entry K V) :=
  (table.find? hash key).bind fun i => (table.slotAt i).stored?

/-- Where an insertion of `key` lands. -/
def place [BEq K] (table : Table K V) (hash : UInt64) (key : K) : Placement K V :=
  let placed := (table.probe hash).walk none fun reusable i =>
    match table.slotAt i with
    | .occupied entry =>
      if entry.isFor hash key then .error (.existing i entry) else .ok reusable
    | .tombstone => .ok (reusable.or (some i))
    | .empty =>
      match reusable with
      | some j => .error (.vacant j true)
      | none => .error (.vacant i false)
  match placed with
  | .error placement => placement
  | .ok _ => .nowhere

/-! ### Changing entries -/

/-- Insert an entry, or replace the value of the one `key` has; that one keeps its key. The
answer is the replaced value. -/
def insert [BEq K] (table : Table K V) (hash : UInt64) (key : K) (value : V) :
    Outcome (Table K V) (Option V) :=
  match table.place hash key with
  | .existing i entry =>
    .ok { table with slots := table.slots.setIfInBounds i (.occupied { entry with value }) }
      (some entry.value)
  | .vacant i tombstone =>
    match table.load.afterInsert tombstone with
    | .ok load =>
      .ok { load, slots := table.slots.setIfInBounds i (.occupied { hash, key, value }) } none
    | .error cause => .fault table cause
  | .nowhere => .fault table table.full

/-- Remove the entry of `key`, leaving a tombstone. The answer is the removed entry. -/
def erase [BEq K] (table : Table K V) (hash : UInt64) (key : K) :
    Outcome (Table K V) (Option (Entry K V)) :=
  match table.find? hash key with
  | none => .ok table none
  | some i =>
    match table.slotAt i with
    | .occupied entry =>
      match table.load.afterErase with
      | .ok load =>
        .ok { load, slots := table.slots.setIfInBounds i .tombstone } (some entry)
      | .error cause => .fault table cause
    | .empty | .tombstone => .ok table none

/-- Change the value of `key`. The answer is the new value. -/
def modify [BEq K] (table : Table K V) (hash : UInt64) (key : K) (f : V → V) :
    Table K V × Option V :=
  match table.find? hash key with
  | none => (table, none)
  | some i =>
    match table.slotAt i with
    | .occupied entry =>
      let value := f entry.value
      ({ table with slots := table.slots.setIfInBounds i (.occupied { entry with value }) },
        some value)
    | .empty | .tombstone => (table, none)

/-- Change every value. -/
def mapValues {W : Type} (f : K → V → W) (table : Table K V) : Table K W where
  load := table.load
  slots := table.slots.map (Slot.mapValue f)

/-- Empty every slot. -/
def clear (table : Table K V) : Table K V where
  load := table.load.cleared
  slots := table.slots.map fun _ => .empty

end Table

end OpenAddressing
