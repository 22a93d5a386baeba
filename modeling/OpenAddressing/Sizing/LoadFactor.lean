import OpenAddressing.Sizing.Resize

/-!
# Sizing by load factor

`LoadFactor` decides by percentages of the slots. Before an insertion that might push the slots
in use over `maxLoad`, the table is compacted if tombstones outnumber the entries and doubled
otherwise. Before a removal, a table whose live entries lie under `minLoad` is halved, though
never below the level it was created at, and one with too many tombstones is compacted.
`minLoad` is less than half of `maxLoad`, so that the entries of a halved table are within its
maximal load, though one more may not be.
-/

namespace OpenAddressing

/-- The percentages of a load factor rule, and the level below which it makes no table. -/
structure LoadFactor where
  /-- The percentage of slots in use above which an insertion has the table rebuilt. -/
  maxLoad : Nat := 70
  /-- The percentage of live entries under which a table is halved. -/
  minLoad : Nat := 15
  /-- The percentage of tombstones above which a table is compacted. -/
  maxTombstones : Nat := 25
  /-- The smallest level of a table. -/
  minLevel : Nat := 3
  one_le_maxLoad : 1 ≤ maxLoad := by decide
  maxLoad_le : maxLoad ≤ 90 := by decide
  one_le_maxTombstones : 1 ≤ maxTombstones := by decide
  maxTombstones_le : maxTombstones ≤ 100 := by decide
  minLoad_lt : minLoad * 2 < maxLoad := by decide
  minLevel_le : minLevel ≤ maxLevel := by decide
  deriving DecidableEq

/-- The causes for which percentages make no load factor rule. -/
inductive LoadFactorError where
  | maxLoad (percent : Nat)
  | maxTombstones (percent : Nat)
  | minLoad (min max : Nat)
  | minLevel (level : Nat)
  deriving Repr, DecidableEq

namespace LoadFactorError

/-- The wording of an error. -/
def message : LoadFactorError → String
  | maxLoad percent => s!"max load must be within 1..=90 percent, got {percent}"
  | maxTombstones percent => s!"max tombstones must be within 1..=100 percent, got {percent}"
  | minLoad min max => s!"min load {min}% must be less than half of max load {max}%"
  | minLevel level => s!"min level {level} exceeds the largest addressable table"

end LoadFactorError

namespace LoadFactor

instance : Inhabited LoadFactor := ⟨{}⟩

/-- The rule with the given percentages. The maximal load is checked first, then the
tombstones, then the minimal load, and the level last. -/
def ofPercents (maxLoad minLoad maxTombstones minLevel : Nat) :
    Except LoadFactorError LoadFactor :=
  if hload : 1 ≤ maxLoad ∧ maxLoad ≤ 90 then
    if htomb : 1 ≤ maxTombstones ∧ maxTombstones ≤ 100 then
      if hmin : minLoad * 2 < maxLoad then
        if hlevel : minLevel ≤ maxLevel then
          .ok ⟨maxLoad, minLoad, maxTombstones, minLevel, hload.1, hload.2, htomb.1, htomb.2,
            hmin, hlevel⟩
        else .error (.minLevel minLevel)
      else .error (.minLoad minLoad maxLoad)
    else .error (.maxTombstones maxTombstones)
  else .error (.maxLoad maxLoad)

/-- Whether `count` is more than `percent` of `capacity`. -/
def isOver (count capacity percent : Nat) : Bool :=
  decide (capacity * percent < count * 100)

/-- The smallest level from `minLevel` on at which the entries stay within the maximal
load. -/
def startLevel? (rule : LoadFactor) (entries : Nat) : Option Nat :=
  (List.range' rule.minLevel (maxLevel + 1 - rule.minLevel)).find? fun level =>
    !isOver entries (2 ^ level) rule.maxLoad

/-- The rebuild wanted before an insertion. -/
def onInsert (rule : LoadFactor) (load : Load) : Option Resize :=
  if isOver (load.used + 1) load.capacity rule.maxLoad then
    if load.live < load.tombstones then some .compact else some .grow
  else none

/-- The rebuild wanted before a removal. -/
def onErase (rule : LoadFactor) (load : Load) : Option Resize :=
  if load.live * 100 < load.capacity * rule.minLoad
      ∧ max rule.minLevel load.floor < load.level then
    some .shrink
  else if isOver load.tombstones load.capacity rule.maxTombstones then
    some .compact
  else none

instance : SizingRule LoadFactor where
  startLevel? := startLevel?
  onInsert rule load := (rule.onInsert load, rule)
  onErase rule load := (rule.onErase load, rule)

end LoadFactor

end OpenAddressing
