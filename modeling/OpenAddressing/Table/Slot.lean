/-!
# Slots

A slot of the table is empty, holds an entry, or is a tombstone. An entry keeps the hash of its
key, so that a rebuild need not compute it again and a search compares keys only where the
hashes agree.
-/

namespace OpenAddressing

/-- A key with its hash and its value. -/
structure Entry (K : Type) (V : Type) where
  hash : UInt64
  key : K
  value : V
  deriving Repr

namespace Entry

variable {K : Type} {V : Type}

/-- The key and the value of an entry. -/
def pair (entry : Entry K V) : K × V :=
  (entry.key, entry.value)

/-- Whether an entry is the one for `key`. The keys are compared only if the hashes agree. -/
def isFor [BEq K] (entry : Entry K V) (hash : UInt64) (key : K) : Bool :=
  entry.hash == hash && entry.key == key

end Entry

/-- A place of the table. -/
inductive Slot (K : Type) (V : Type) where
  /-- Nothing has been here since the table was built or last cleared. -/
  | empty
  /-- An entry was removed from here, so a search has to go on. -/
  | tombstone
  /-- An entry is here. -/
  | occupied (entry : Entry K V)
  deriving Repr

namespace Slot

variable {K : Type} {V : Type}

instance : Inhabited (Slot K V) := ⟨.empty⟩

/-- The entry in a slot. -/
def stored? : Slot K V → Option (Entry K V)
  | empty => none
  | tombstone => none
  | occupied entry => some entry

/-- Whether a slot is empty. -/
def isEmpty : Slot K V → Bool
  | empty => true
  | tombstone => false
  | occupied _ => false

/-- Whether the entry of a slot was removed. -/
def isTombstone : Slot K V → Bool
  | empty => false
  | tombstone => true
  | occupied _ => false

/-- Whether a slot holds an entry. -/
def isOccupied : Slot K V → Bool
  | empty => false
  | tombstone => false
  | occupied _ => true

/-- The slot with the value of its entry replaced. -/
def mapValue {W : Type} (f : K → V → W) : Slot K V → Slot K W
  | empty => empty
  | tombstone => tombstone
  | occupied entry => occupied ⟨entry.hash, entry.key, f entry.key entry.value⟩

@[simp]
theorem stored?_eq_some_iff {slot : Slot K V} {entry : Entry K V} :
  slot.stored? = some entry ↔ slot = occupied entry
  := by
  cases slot <;> simp [stored?]

end Slot

end OpenAddressing
