import OpenAddressing.Cursor

/-!
# Editors

An `Editor` runs through the entries of a map as a cursor does, and may change the value of each
entry it delivers. It carries the slots it has passed, with the values they have by now, and the
cursor over those ahead. It need not be run to the end: the map that it leaves behind has the
slots passed and the slots ahead.
-/

namespace OpenAddressing

variable {K V P α : Type}

/-- A run through the entries of a map that may change their values. -/
structure Editor (K V α : Type) where
  /-- The slots already passed. -/
  passed : List (Slot K V)
  /-- What is left of the run. -/
  ahead : Cursor K V α

namespace Editor

/-- The slots up to the first entry, which has its value changed. -/
def passFirst (f : V → V) : List (Slot K V) → List (Slot K V)
  | [] => []
  | .occupied entry :: _ => [.occupied { entry with value := f entry.value }]
  | slot :: slots => slot :: passFirst f slots

/-- Deliver the next entry, if there is one, and change its value. -/
def next (f : V → V) (editor : Editor K V α) : Except Fault (Option α × Editor K V α) := do
  let (item, ahead) ← editor.ahead.next
  .ok (item, { passed := editor.passed ++ passFirst f editor.ahead.slots, ahead })

/-- Deliver the next entries, and change the value of each of them in its own way. -/
def take : List (V → V) → Editor K V α → Except Fault (List α × Editor K V α)
  | [], editor => .ok ([], editor)
  | f :: fs, editor => do
    let (item, editor) ← editor.next f
    match item with
    | none => .ok ([], editor)
    | some item =>
      let (items, editor) ← editor.take fs
      .ok (item :: items, editor)

/-- All slots, those already passed and those ahead. -/
def slots (editor : Editor K V α) : List (Slot K V) :=
  editor.passed ++ editor.ahead.slots

end Editor

namespace Map

/-- A run through the map that may change values. -/
def editor (map : Map K V P) (view : Entry K V → α) : Editor K V α where
  passed := []
  ahead := map.cursor view

/-- The map as an editor leaves it behind. -/
def edited (map : Map K V P) (editor : Editor K V α) : Map K V P :=
  { map with table := { map.table with slots := editor.slots.toArray } }

end Map

end OpenAddressing
