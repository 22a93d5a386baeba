import OpenAddressing.Map.Construction
import OpenAddressing.Sizing.LoadFactor

/-!
# Building maps in words

The numbers that are computed while a map is built are kept in words of the machine, most of them
of 64 bits. Here every result is checked to fit the word it is kept in, and a computation that has
one which does not is `none`. The multiplication that finds the size of a table in bytes is checked
by the computation itself, so that a product which is too large is an answer.
-/

namespace OpenAddressing

namespace LoadFactor

/-- Whether `count` is more than `percent` of `capacity`, in words of 128 bits. -/
def isOverInWords? (count capacity percent : Nat) : Option Bool := do
  let whole ← fit? 128 (count * 100)
  let part ← fit? 128 (capacity * percent)
  return decide (part < whole)

/-- The level of a new table, in words. -/
def startLevelInWords? (rule : LoadFactor) (entries : Nat) : Option (Option Nat) :=
  (List.range' rule.minLevel (maxLevel + 1 - rule.minLevel)).findM? fun level => do
    let slots ← fit? 64 (2 ^ level)
    let isOver ← isOverInWords? entries slots rule.maxLoad
    return !isOver

end LoadFactor

namespace Map

variable {K : Type} {V : Type} {P : Type}

/-- The empty map for the requested number of entries, in words. -/
def ofCapacityInWords? [SizingRule P] (memory : Memory) (capacity : Nat) (hash : K → UInt64)
    (rule : P) : Option (Except CapacityError (Map K V P)) :=
  match (SizingRule.startLevel? rule capacity).filter (· ≤ maxLevel) with
  | none => some (.error (.overflow capacity))
  | some level => do
    let slots ← fit? 64 (2 ^ level)
    match (fit? 64 (slots * memory.slotBytes)).filter (· ≤ Memory.largest) with
    | none => return .error (.overflow capacity)
    | some bytes =>
      if memory.grants bytes then
        return .ok ⟨hash, rule, .blank level⟩
      else
        return .error (.allocation slots)

end Map

end OpenAddressing
