import OpenAddressing.Map.Basic
import OpenAddressing.Text.Layout

/-!
# The text of a map

A map is shown by its entries, in the order of the slots, between braces.
-/

namespace OpenAddressing

namespace Map

variable {K V P : Type}

/-- A map on one line, by the texts of its keys and values. -/
def inspect (map : Map K V P) (key : K → String) (value : V → String) : String :=
  Text.enclose "\x7b" "\x7d" (map.toList.map fun (k, v) => key k ++ ": " ++ value v)

/-- A map with every entry on lines of its own. -/
def inspectBlock (map : Map K V P) (key : K → Text.Block) (value : V → String) : Text.Block :=
  Text.Block.enclose "\x7b" "\x7d"
    (map.toList.map fun (k, v) => (key k).appendLast (": " ++ value v))

end Map

end OpenAddressing
