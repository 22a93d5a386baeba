import OpenAddressing.Map.Basic

/-!
# Building maps

A new map gets the level that its sizing rule offers for the requested number of entries. The
offer is turned down if the table would not be addressable, or if the memory is refused; a
`Memory` says how large a slot is and what is granted. `Map.collect` builds a map and fills it
from a list.
-/

namespace OpenAddressing

/-- The memory that tables are made of. -/
structure Memory where
  /-- The bytes that one slot takes. -/
  slotBytes : Nat
  /-- Whether so many bytes are granted. -/
  grants : Nat → Bool

namespace Memory

/-- The largest number of bytes that one table may take. -/
def largest : Nat := 2 ^ (63 : Nat) - 1

end Memory

namespace Map

variable {K : Type} {V : Type} {P : Type}

/-- The empty map for the requested number of entries. -/
def ofCapacity [SizingRule P] (memory : Memory) (capacity : Nat) (hash : K → UInt64) (rule : P) :
    Except CapacityError (Map K V P) :=
  match SizingRule.startLevel? rule capacity with
  | none => .error (.overflow capacity)
  | some level =>
    if maxLevel < level then
      .error (.overflow capacity)
    else
      let bytes := 2 ^ level * memory.slotBytes
      if Memory.largest < bytes then
        .error (.overflow capacity)
      else if memory.grants bytes then
        .ok ⟨hash, rule, .blank level⟩
      else
        .error (.allocation (2 ^ level))

/-- The map that the pairs are inserted into one after the other, up to the first fault. It is
made for `expected` entries at first. -/
def collect [BEq K] [SizingRule P] (memory : Memory) (expected : Nat) (hash : K → UInt64)
    (rule : P) (pairs : List (K × V)) : Except CapacityError (Outcome (Map K V P) Unit) :=
  (ofCapacity memory expected hash rule).map (insertMany pairs)

end Map

end OpenAddressing
