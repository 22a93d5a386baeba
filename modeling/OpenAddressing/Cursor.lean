import OpenAddressing.Map.Basic

/-!
# Cursors

A `Cursor` runs through the entries of a map in the order of the slots. It carries the slots it
has not seen and the number of entries it has still to deliver; the number comes from the load
of the table and is counted down with every entry, so the two agree only if the load counts the
slots rightly. The keys alone and the values alone are delivered by the same cursor with another
`view`.
-/

namespace OpenAddressing

variable {K V P α : Type}

/-- What is left of a run through the entries of a map. -/
structure Cursor (K V α : Type) where
  /-- The slots not yet seen. -/
  slots : List (Slot K V)
  /-- The number of entries still to be delivered. -/
  remaining : Nat
  /-- What is delivered of an entry. -/
  view : Entry K V → α

namespace Cursor

/-- The first entry among some slots, with the slots behind it. -/
def firstStored? : List (Slot K V) → Option (Entry K V × List (Slot K V))
  | [] => none
  | slot :: slots =>
    match slot.stored? with
    | some entry => some (entry, slots)
    | none => firstStored? slots

/-- Deliver the next entry, if there is one. -/
def next (cursor : Cursor K V α) : Except Fault (Option α × Cursor K V α) :=
  match firstStored? cursor.slots with
  | none => .ok (none, { cursor with slots := [] })
  | some (entry, slots) =>
    if cursor.remaining == 0 then
      .error .counterUnderflow
    else
      .ok (some (cursor.view entry), { cursor with slots, remaining := cursor.remaining - 1 })

/-- Deliver the next entries, at most `count` of them. -/
def take : Nat → Cursor K V α → Except Fault (List α × Cursor K V α)
  | 0, cursor => .ok ([], cursor)
  | count + 1, cursor => do
    let (item, cursor) ← cursor.next
    match item with
    | none => .ok ([], cursor)
    | some item =>
      let (items, cursor) ← cursor.take count
      .ok (item :: items, cursor)

/-- Deliver all entries that are left. -/
def drain (cursor : Cursor K V α) : Except Fault (List α × Cursor K V α) :=
  cursor.take (cursor.slots.length + 1)

end Cursor

namespace Map

/-- A run through the map. -/
def cursor (map : Map K V P) (view : Entry K V → α) : Cursor K V α where
  slots := map.table.slots.toList
  remaining := map.size
  view := view

end Map

end OpenAddressing
