/-!
# Faults

A call on a hash map either answers or breaks off with a `Fault`, which is a cause, together
with the wording `Fault.message` reports it with. Building a map has causes of its own,
collected in `CapacityError`.
-/

namespace OpenAddressing

/-- The causes for which a call on a map breaks off before it has an answer. -/
inductive Fault where
  /-- No slot of the probe sequence is free for a new key. -/
  | tableFull (live tombstones slots : Nat)
  /-- The table would have to grow beyond the largest level. -/
  | capacityOverflow
  /-- A level has no successor among the 32-bit numbers. -/
  | levelOverflow
  /-- A counter would have to fall below zero. -/
  | counterUnderflow
  /-- More slots would be in use than the table has. -/
  | overfull
  /-- A lookup called back into the map that was running it. -/
  | reentered
  /-- Code run on behalf of a key gave up. -/
  | callbackFailed
  deriving Repr, DecidableEq

namespace Fault

/-- The wording of a fault. -/
def message : Fault → String
  | tableFull live tombstones slots =>
    s!"open hash map is full: {live} live, {tombstones} tombstones in {slots} slots"
  | capacityOverflow => "capacity overflow"
  | levelOverflow => "attempt to add with overflow"
  | counterUnderflow => "attempt to subtract with overflow"
  | overfull => "more slots in use than the table has"
  | reentered => "OpenHashMap re-entered from a key's Hash or Eq impl"
  | callbackFailed => "user code failed"

end Fault

/-- The causes for which no map can be built. -/
inductive CapacityError where
  /-- No addressable table holds the requested number of entries. -/
  | overflow (requested : Nat)
  /-- The memory for the slots was refused. -/
  | allocation (slots : Nat)
  deriving Repr, DecidableEq

namespace CapacityError

/-- The wording of a capacity error. -/
def message : CapacityError → String
  | overflow requested => s!"capacity overflow: cannot size a table for {requested} entries"
  | allocation slots => s!"failed to allocate {slots} slots"

/-- Whether a further cause lies behind the error: a refusal comes from the allocator, an
overflow is found by arithmetic alone. -/
def hasCause : CapacityError → Bool
  | overflow _ => false
  | allocation _ => true

end CapacityError

end OpenAddressing
