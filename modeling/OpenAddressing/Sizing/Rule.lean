import OpenAddressing.Sizing.LoadFactor

/-!
# Other sizing rules

Rules beside the load factor: a table that is never rebuilt, one that doubles when half of its
slots are in use, and one that follows a script. `Rule` is the choice among all of them, made
while a program runs.
-/

namespace OpenAddressing

/-- Answers written down beforehand, and how many of them have been given. -/
structure Script where
  /-- The level of a new table, whatever it is to hold. -/
  level? : Option Nat
  /-- The answers before insertions, one after the other. -/
  inserts : List (Option Resize)
  /-- The answers before removals, one after the other. -/
  erases : List (Option Resize)
  /-- The number of insertions asked about so far. -/
  insertsAsked : Nat := 0
  /-- The number of removals asked about so far. -/
  erasesAsked : Nat := 0
  deriving Repr

namespace Script

/-- Once a list of answers is over, no rebuild is wanted. -/
instance : SizingRule Script where
  startLevel? script _ := script.level?
  onInsert script _ :=
    (script.inserts.getD script.insertsAsked none,
      { script with insertsAsked := script.insertsAsked + 1 })
  onErase script _ :=
    (script.erases.getD script.erasesAsked none,
      { script with erasesAsked := script.erasesAsked + 1 })

end Script

/-- The sizing rules a program can choose from. -/
inductive Rule where
  /-- Keep within the percentages of a load factor. -/
  | loadFactor (rule : LoadFactor)
  /-- Start at the level and stay there. -/
  | fixed (level? : Option Nat)
  /-- Start at the level, and double as soon as half of the slots are in use. -/
  | doubling (level? : Option Nat)
  /-- Follow a script. -/
  | scripted (script : Script)

namespace Rule

instance : Inhabited Rule := ⟨.loadFactor default⟩

instance : SizingRule Rule where
  startLevel?
    | loadFactor rule, entries => rule.startLevel? entries
    | fixed level?, _ => level?
    | doubling level?, _ => level?
    | scripted script, entries => SizingRule.startLevel? script entries
  onInsert
    | loadFactor rule, load => (rule.onInsert load, loadFactor rule)
    | fixed level?, _ => (none, fixed level?)
    | doubling level?, load =>
      (if load.capacity ≤ load.used * 2 then some .grow else none, doubling level?)
    | scripted script, load => (SizingRule.onInsert script load).map id scripted
  onErase
    | loadFactor rule, load => (rule.onErase load, loadFactor rule)
    | fixed level?, _ => (none, fixed level?)
    | doubling level?, _ => (none, doubling level?)
    | scripted script, load => (SizingRule.onErase script load).map id scripted

end Rule

end OpenAddressing
