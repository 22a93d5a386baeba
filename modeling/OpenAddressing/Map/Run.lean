import OpenAddressing.Map.Basic

/-!
# Runs of operations

`Op` is a call that reads or changes a single map, and `Reply` its answer. `Map.exec` makes one
call. `Map.run` makes one after the other and goes on past faults with the map as the fault
left it; `Map.runToFault` stops at the first one.
-/

namespace OpenAddressing

/-- A call on a map. -/
inductive Op (K : Type) (V : Type) where
  | get (key : K)
  | getPair (key : K)
  | contains (key : K)
  | insert (key : K) (value : V)
  | insertMany (pairs : List (K × V))
  | modify (key : K) (f : V → V)
  | mapValues (f : K → V → V)
  | erase (key : K)
  | erasePair (key : K)
  | clear

/-- The answer to a call. -/
inductive Reply (K : Type) (V : Type) where
  /-- The call answers nothing. -/
  | done
  /-- A value, or none. -/
  | value? (value : Option V)
  /-- A stored key with its value, or none. -/
  | pair? (pair : Option (K × V))
  /-- Yes or no. -/
  | flag (yes : Bool)
  deriving Repr, DecidableEq

namespace Reply

variable {K : Type} {V : Type}

/-- Whether the answer tells of an entry. -/
def isHit : Reply K V → Bool
  | done => false
  | value? value => value.isSome
  | pair? pair => pair.isSome
  | flag yes => yes

end Reply

namespace Map

variable {K : Type} {V : Type} {P : Type} [BEq K] [SizingRule P]

/-- Make a call. -/
def exec (map : Map K V P) : Op K V → Outcome (Map K V P) (Reply K V)
  | .get key => .ok map (.value? (map.get? key))
  | .getPair key => .ok map (.pair? (map.getPair? key))
  | .contains key => .ok map (.flag (map.contains key))
  | .insert key value => (map.insert key value).map .value?
  | .insertMany pairs => (map.insertMany pairs).map fun _ => .done
  | .modify key f =>
    let (map, value) := map.modify key f
    .ok map (.value? value)
  | .mapValues f => .ok (map.mapValues f) .done
  | .erase key => (map.erase key).map .value?
  | .erasePair key => (map.erasePair key).map .pair?
  | .clear => .ok map.clear .done

/-- Make one call after the other, whether they answer or break off. -/
def run : List (Op K V) → Map K V P → Map K V P × List (Except Fault (Reply K V))
  | [], map => (map, [])
  | op :: ops, map =>
    let outcome := map.exec op
    let (last, answers) := run ops outcome.state
    (last, outcome.answer :: answers)

/-- Make one call after the other, up to the first fault. -/
def runToFault : List (Op K V) → Map K V P → Outcome (Map K V P) (List (Reply K V))
  | [], map => .ok map []
  | op :: ops, map =>
    (map.exec op).andThen fun map reply => (runToFault ops map).map (reply :: ·)

end Map

end OpenAddressing
