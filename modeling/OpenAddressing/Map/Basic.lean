import OpenAddressing.Sizing.Resize
import OpenAddressing.Table.Rebuild

/-!
# Hash maps

A `Map` is a table with the function that hashes its keys and the rule that sizes it. Before an
insertion and before a removal the rule is asked, and the table is rebuilt if the rule wants it,
whether the key turns out to be present or not. Everything else leaves the rule alone.
-/

namespace OpenAddressing

/-- A hash map from `K` to `V`, sized by a rule of type `P`. -/
structure Map (K : Type) (V : Type) (P : Type) where
  /-- The hash of a key. -/
  hash : K → UInt64
  /-- The sizing rule, with all it remembers. -/
  rule : P
  /-- The slots. -/
  table : Table K V

namespace Map

variable {K : Type} {V : Type} {P : Type}

/-! ### Reading -/

/-- The number of entries. -/
def size (map : Map K V P) : Nat :=
  map.table.load.live

/-- Whether there is no entry. -/
def isEmpty (map : Map K V P) : Bool :=
  map.size == 0

/-- The number of slots. -/
def capacity (map : Map K V P) : Nat :=
  map.table.load.capacity

/-- The entries, in the order of the slots. -/
def entries (map : Map K V P) : List (Entry K V) :=
  map.table.entries

/-- The keys with their values, in the order of the slots. -/
def toList (map : Map K V P) : List (K × V) :=
  map.entries.map Entry.pair

section Lookup

variable [BEq K]

/-- The stored key and the value of `key`. -/
def getPair? (map : Map K V P) (key : K) : Option (K × V) :=
  (map.table.lookup? (map.hash key) key).map Entry.pair

/-- The value of `key`. -/
def get? (map : Map K V P) (key : K) : Option V :=
  (map.table.lookup? (map.hash key) key).map Entry.value

/-- Whether there is an entry for `key`. -/
def contains (map : Map K V P) (key : K) : Bool :=
  (map.table.find? (map.hash key) key).isSome

end Lookup

/-! ### Changing -/

section Update

variable [BEq K] [SizingRule P]

/-- Insert an entry, or replace the value of the one `key` has; that one keeps its key. The
answer is the replaced value. -/
def insert (map : Map K V P) (key : K) (value : V) : Outcome (Map K V P) (Option V) :=
  let ⟨hash, rule, table⟩ := map
  let (wanted, rule) := SizingRule.onInsert rule table.load
  let outcome := (table.resize wanted).andThen fun table _ => table.insert (hash key) key value
  outcome.within fun table => ⟨hash, rule, table⟩

/-- Insert or replace one entry after the other, up to the first fault. -/
def insertMany : List (K × V) → Map K V P → Outcome (Map K V P) Unit
  | [], map => .ok map ()
  | (key, value) :: pairs, map =>
    (map.insert key value).andThen fun map _ => insertMany pairs map

/-- Remove the entry of `key`. The answer is the removed key with its value. -/
def erasePair (map : Map K V P) (key : K) : Outcome (Map K V P) (Option (K × V)) :=
  let ⟨hash, rule, table⟩ := map
  let (wanted, rule) := SizingRule.onErase rule table.load
  let outcome := (table.resize wanted).andThen fun table _ => table.erase (hash key) key
  (outcome.map (·.map Entry.pair)).within fun table => ⟨hash, rule, table⟩

/-- Remove the entry of `key`. The answer is the removed value. -/
def erase (map : Map K V P) (key : K) : Outcome (Map K V P) (Option V) :=
  (map.erasePair key).map (·.map Prod.snd)

end Update

/-- Change the value of `key`. The answer is the new value. -/
def modify [BEq K] (map : Map K V P) (key : K) (f : V → V) : Map K V P × Option V :=
  let ⟨hash, rule, table⟩ := map
  let (table, value) := table.modify (hash key) key f
  (⟨hash, rule, table⟩, value)

/-- Change every value. -/
def mapValues (f : K → V → V) (map : Map K V P) : Map K V P :=
  let ⟨hash, rule, table⟩ := map
  ⟨hash, rule, table.mapValues f⟩

/-- Remove every entry. The table stays as large as it is. -/
def clear (map : Map K V P) : Map K V P :=
  let ⟨hash, rule, table⟩ := map
  ⟨hash, rule, table.clear⟩

end Map

end OpenAddressing
