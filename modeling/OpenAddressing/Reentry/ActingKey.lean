import OpenAddressing.Reentry.Guarded

/-!
# Keys that act

An `ActingKey` is told by its number, brings its hash along, and knows what it does while it is
hashed and while it is compared.
-/

namespace OpenAddressing

/-- A key with a hash and actions of its own. -/
structure ActingKey where
  id : UInt32
  hash : UInt64
  onHash : Option Action := none
  onCompare : Option Action := none
  deriving Repr

namespace ActingKey

/-- Keys are told by their numbers alone. -/
instance : BEq ActingKey := ⟨fun a b => a.id == b.id⟩

/-- Every key does as it knows. In a copy, a key looks for its own number with the hash of the
first key there. -/
def hooks : Hooks ActingKey where
  onHash key := key.onHash
  onCompare stored _ := stored.onCompare
  inCopy actor keys :=
    { id := actor.id
      hash := match keys with
        | [] => 0
        | first :: _ => first.hash }

end ActingKey

end OpenAddressing
