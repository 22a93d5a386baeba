import OpenAddressing.Fault
import OpenAddressing.Word

/-!
# The load of a table

`Load` counts what fills a table of `2 ^ level` slots: live entries and tombstones, the marks
that removed entries leave behind. It also remembers `floor`, the level the table was created
at. An insertion and a removal each change the counters in one way, `afterInsert` and
`afterErase`, and refuse to leave the range in which the counters make sense.
-/

namespace OpenAddressing

/-- The largest level of a table. -/
def maxLevel : Nat := 62

/-- How full a table is. The default is the load of the smallest table, with one slot. -/
structure Load where
  /-- The binary logarithm of the number of slots. -/
  level : Nat := 0
  /-- The level the table was created at. -/
  floor : Nat := 0
  /-- The number of slots that hold an entry. -/
  live : Nat := 0
  /-- The number of slots whose entry was removed. -/
  tombstones : Nat := 0
  deriving Repr, DecidableEq, Inhabited

namespace Load

/-- The load of a new table of the given level. -/
def fresh (level : Nat) : Load where
  level := level
  floor := level

/-- The number of slots. -/
def capacity (load : Load) : Nat :=
  2 ^ load.level

/-- The largest slot number. -/
def mask (load : Load) : Nat :=
  load.capacity - 1

/-- The number of slots that are not empty. -/
def used (load : Load) : Nat :=
  load.live + load.tombstones

/-- The load of an empty table of the given level that replaces this one. -/
def restart (load : Load) (level : Nat) : Load :=
  { load with level := level, live := 0, tombstones := 0 }

/-- The load once every slot has been emptied. -/
def cleared (load : Load) : Load :=
  { load with live := 0, tombstones := 0 }

/-- The load after a new entry, which `reused` the place of a tombstone or took an empty
slot. -/
def afterInsert (load : Load) (reused : Bool) : Except Fault Load :=
  if reused && load.tombstones == 0 then
    .error .counterUnderflow
  else
    let next : Load :=
      { load with live := load.live + 1, tombstones := load.tombstones - reused.toNat }
    if next.used ≤ next.capacity then .ok next else .error .overfull

/-- The load after an entry has turned into a tombstone. -/
def afterErase (load : Load) : Except Fault Load :=
  if load.live == 0 then
    .error .counterUnderflow
  else
    .ok { load with live := load.live - 1, tombstones := load.tombstones + 1 }

theorem capacity_pos (load : Load) :
  0 < load.capacity
  := Nat.two_pow_pos load.level

end Load

end OpenAddressing
