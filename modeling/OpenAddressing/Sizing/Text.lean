import OpenAddressing.Sizing.LoadFactor
import OpenAddressing.Text.Layout

/-!
# The text of loads and of load factor rules

Loads, rules and errors are shown on one line by the name of their kind and their numbers.
-/

namespace OpenAddressing

/-- A load for inspection. -/
def Load.inspect (load : Load) : String :=
  Text.record "Occupancy" [("level", load.level), ("floor", load.floor), ("live", load.live),
    ("tombstones", load.tombstones)]

/-- A load factor rule for inspection. -/
def LoadFactor.inspect (rule : LoadFactor) : String :=
  Text.record "LoadFactorPolicy" [("max_load_percent", rule.maxLoad),
    ("min_load_percent", rule.minLoad), ("max_tombstone_percent", rule.maxTombstones),
    ("min_level", rule.minLevel)]

/-- An error for inspection. -/
def LoadFactorError.inspect : LoadFactorError → String
  | maxLoad percent => s!"MaxLoad({percent})"
  | maxTombstones percent => s!"MaxTombstones({percent})"
  | minLoad min max => Text.record "MinLoad" [("min", min), ("max", max)]
  | minLevel level => s!"MinLevel({level})"

/-- The name of a way to rebuild a table. -/
def Resize.name : Resize → String
  | grow => "Grow"
  | shrink => "Shrink"
  | compact => "Compact"

end OpenAddressing
