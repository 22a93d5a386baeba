import OpenAddressing.Map.Run

/-!
# What keys do during a lookup

A lookup hashes the key it is given and compares it with stored keys, and on both occasions code
of the key's owner runs, which may use the very map that is being searched. An `Action` is such
a use, and `Hooks` say which key acts on which occasion. An `Event` records that a key acted, or
what it saw.
-/

namespace OpenAddressing

/-- The lookups that a map answers. -/
inductive Lookup where
  | get
  | getPair
  | contains
  deriving Repr, DecidableEq

/-- What a key does with the map when its turn comes. -/
inductive Action where
  /-- Nothing. -/
  | note
  /-- Look a key up. -/
  | lookup (lookup : Lookup)
  /-- Ask for the number of entries. -/
  | size
  /-- Ask whether there is no entry. -/
  | isEmpty
  /-- Ask for the number of slots. -/
  | capacity
  /-- List the keys. -/
  | keys
  /-- List the values. -/
  | values
  /-- Look a key up in a copy of the map. -/
  | containsInCopy
  /-- Give up. -/
  | fail
  deriving Repr, DecidableEq

/-- The occasions on which a key acts. -/
inductive Occasion where
  | hashing
  | comparing
  deriving Repr, DecidableEq

/-- Which actions the keys take. -/
structure Hooks (K : Type) where
  /-- What a key does while it is hashed. -/
  onHash : K → Option Action
  /-- What a stored key does before it is compared with the key looked up. -/
  onCompare : (stored query : K) → Option Action
  /-- The key that is looked up in a copy by a key that acts, given the keys of the copy. -/
  inCopy : (actor : K) → List K → K

/-- What an action makes known. -/
inductive Observation (K V : Type) where
  | number (n : Nat)
  | flag (yes : Bool)
  | keys (keys : List K)
  | values (values : List V)
  deriving Repr

/-- What happens during a lookup. -/
inductive Event (K V : Type) where
  /-- A key acted. -/
  | acted (occasion : Occasion) (key : K) (action : Action)
  /-- The action made something known. -/
  | saw (observation : Observation K V)
  deriving Repr

namespace Lookup

variable {K V : Type}

/-- The answer of a lookup that has found an entry, or none. -/
def reply (lookup : Lookup) (found : Option (Entry K V)) : Reply K V :=
  match lookup with
  | get => .value? (found.map Entry.value)
  | getPair => .pair? (found.map Entry.pair)
  | contains => .flag found.isSome

end Lookup

end OpenAddressing
