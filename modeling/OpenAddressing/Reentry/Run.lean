import OpenAddressing.Reentry.Guarded

/-!
# Calls on a guarded map

A `Call` on a guarded map is a lookup during which keys act, or any call that a map answers, made
while no key acts. The map is marked as busy while a key may be hashed or compared. So it is not
marked while all values are changed or all entries are removed.
-/

namespace OpenAddressing

namespace Op

variable {K V : Type}

/-- Whether a call marks the map as busy. -/
def isGuarded : Op K V → Bool
  | insertMany pairs => !pairs.isEmpty
  | mapValues _ => false
  | clear => false
  | _ => true

end Op

/-- A call on a guarded map. -/
inductive Call (K V : Type) where
  /-- A call during which no key acts. -/
  | quiet (op : Op K V)
  /-- A lookup during which keys act. -/
  | acting (hooks : Hooks K) (lookup : Lookup) (query : K)

namespace Guarded

variable {K V P : Type} [BEq K] [SizingRule P]

/-- Make a call while no key acts. If many entries are inserted, the mark is set for each of them,
which comes to the same as setting it for all. -/
def execQuietly (state : Guarded K V P) (op : Op K V) :
    Guarded K V P × Except Fault (Reply K V) :=
  let call := fun (state : Guarded K V P) =>
    let outcome := state.map.exec op
    ({ state with map := outcome.state }, outcome.answer)
  if op.isGuarded then state.guarded call else call state

/-- Make a call. -/
def exec (state : Guarded K V P) : Call K V → Guarded K V P × Except Fault (Reply K V)
  | .quiet op => state.execQuietly op
  | .acting hooks lookup query => state.lookup hooks lookup query

/-- Make one call after the other, whether they answer or break off. -/
def run : List (Call K V) → Guarded K V P → Guarded K V P × List (Except Fault (Reply K V))
  | [], state => (state, [])
  | call :: calls, state =>
    let (next, answer) := state.exec call
    let (last, answers) := run calls next
    (last, answer :: answers)

end Guarded

end OpenAddressing
