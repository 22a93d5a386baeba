import OpenAddressing.Sizing.Load

/-!
# Resizing

A `Resize` is the way a table is rebuilt before a mutation goes on, and `Resize.targetLevel` is the
level it is rebuilt at. A `SizingRule` decides when: it is asked for the level of a new table,
and again before every insertion and every removal. It may remember what it was asked, so each
answer comes with the rule's next state.
-/

namespace OpenAddressing

/-- The ways to rebuild a table. -/
inductive Resize where
  /-- Twice as many slots. -/
  | grow
  /-- Half as many slots. -/
  | shrink
  /-- As many slots, without the tombstones. -/
  | compact
  deriving Repr, DecidableEq

namespace Resize

/-- The level a table of the given level is rebuilt at. Levels are 32-bit numbers, the largest
of which has no successor; the smallest shrinks to itself. -/
def targetLevel : Resize → Nat → Except Fault Nat
  | grow, level => if level + 1 < 2 ^ (32 : Nat) then .ok (level + 1) else .error .levelOverflow
  | shrink, level => .ok (level - 1)
  | compact, level => .ok level

end Resize

/-- The rules by which a table is sized. -/
class SizingRule (P : Type) where
  /-- The level of a new table that is to hold the given number of entries, if there is one. -/
  startLevel? : P → Nat → Option Nat
  /-- The rebuild wanted before an insertion into a table of the given load. -/
  onInsert : P → Load → Option Resize × P
  /-- The rebuild wanted before a removal, of a present or of an absent key. -/
  onErase : P → Load → Option Resize × P

end OpenAddressing
