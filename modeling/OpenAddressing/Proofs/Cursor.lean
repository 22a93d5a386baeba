import Mathlib.Tactic.Use
import OpenAddressing.Cursor
import OpenAddressing.Proofs.Table.Slots

/-!
# What a cursor delivers

A cursor finds its items by passing slots, and tells how many are to come by counting down. If the
number it starts with is that of the entries ahead, the two agree all the way: each step delivers
the next entry, no step counts below zero, and the cursor is over when the number is zero.

* `IsInSync.delivers`: a cursor that tells the number of the entries ahead delivers them.
-/

namespace OpenAddressing

variable {K V α : Type}

namespace Cursor

/-- The cursor delivers just these items, one with each step. Before each of them the number of
items still to come is told, and after the last one the cursor is over and stays so. -/
inductive Delivers : Cursor K V α → List α → Prop
  | done {cursor last : Cursor K V α} (hremaining : cursor.remaining = 0)
      (hnext : cursor.next = .ok (none, last)) (hlast : last.remaining = 0)
      (hstays : last.next = .ok (none, last)) : Delivers cursor []
  | step {cursor rest : Cursor K V α} {item : α} {items : List α}
      (hremaining : cursor.remaining = items.length + 1)
      (hnext : cursor.next = .ok (some item, rest)) (hrest : Delivers rest items) :
      Delivers cursor (item :: items)

variable {cursor : Cursor K V α}

namespace Delivers

variable {items : List α}

/-- The number of items still to come is told. -/
theorem remaining_eq (h : cursor.Delivers items) :
  cursor.remaining = items.length
  := by
  cases h with
  | done hremaining => apply hremaining
  | step hremaining => apply hremaining

/-- The cursor is over just if it tells that nothing is to come. -/
theorem next_eq_none_iff (h : cursor.Delivers items) :
  (∃ last, cursor.next = .ok (none, last)) ↔ cursor.remaining = 0
  := by
  cases h with
  | done hremaining hnext => exact ⟨fun _ => hremaining, fun _ => ⟨_, hnext⟩⟩
  | step hremaining hnext =>
      constructor
      · rintro ⟨last, hlast⟩
        rw [hnext] at hlast
        cases hlast
      · intro hzero
        rw [hremaining] at hzero
        cases hzero

/-- Items that are taken are the first ones, and the others are still delivered. -/
theorem take (h : cursor.Delivers items) (count : Nat) :
  ∃ rest, cursor.take count = .ok (items.take count, rest) ∧ rest.Delivers (items.drop count)
  := by
  induction count generalizing cursor items with
  | zero => exact ⟨cursor, rfl, h⟩
  | succ count ih =>
      cases h with
      | done hremaining hnext hlast hstays =>
          refine ⟨_, ?_, .done hlast hstays hlast hstays⟩
          rw [Cursor.take, hnext]
          rfl
      | step hremaining hnext hrest =>
          obtain ⟨rest, htake, hdrop⟩ := ih hrest
          refine ⟨rest, ?_, hdrop⟩
          simp only [Cursor.take, hnext, htake, bind, Except.bind, List.take_succ_cons]

end Delivers

/-! ### Cursors in step with their slots -/

/-- Either no slot has an entry, or the first one that has is found together with the slots behind
it. -/
theorem firstStored?_cases (slots : List (Slot K V)) :
  (firstStored? slots = none ∧ slots.filterMap Slot.stored? = [])
    ∨ ∃ before entry behind, firstStored? slots = some (entry, behind)
      ∧ slots = before ++ .occupied entry :: behind ∧ before.filterMap Slot.stored? = []
  := by
  induction slots with
  | nil => exact .inl ⟨rfl, rfl⟩
  | cons slot slots ih =>
      cases hstored : slot.stored? with
      | some entry =>
          right
          obtain rfl := Slot.stored?_eq_some_iff.mp hstored
          exact ⟨[], entry, slots, rfl, rfl, rfl⟩
      | none =>
          rw [firstStored?, hstored, List.filterMap_cons_none hstored]
          rcases ih with hnone | ⟨before, entry, behind, hfirst, rfl, hbefore⟩
          · exact .inl hnone
          · right
            use slot :: before, entry, behind, hfirst, rfl
            rw [List.filterMap_cons_none hstored, hbefore]

/-- The entries in the slots not yet seen. -/
def entries (cursor : Cursor K V α) : List (Entry K V) :=
  cursor.slots.filterMap Slot.stored?

/-- The number that the cursor tells is that of the entries ahead. -/
def IsInSync (cursor : Cursor K V α) : Prop :=
  cursor.remaining = cursor.entries.length

namespace IsInSync

/-- A step finds that no entry is left, or passes the first one and counts down. -/
theorem next_cases (h : cursor.IsInSync) :
  (cursor.entries = [] ∧ cursor.next = .ok (none, { cursor with slots := [] }))
    ∨ ∃ before entry rest, cursor.slots = before ++ .occupied entry :: rest.slots
      ∧ before.filterMap Slot.stored? = [] ∧ cursor.entries = entry :: rest.entries
      ∧ cursor.next = .ok (some (cursor.view entry), rest) ∧ rest.IsInSync
      ∧ rest.view = cursor.view
  := by
  rcases firstStored?_cases cursor.slots with ⟨hnone, hentries⟩
    | ⟨before, entry, behind, hfirst, hslots, hbefore⟩
  · left
    use hentries
    rw [next, hnone]
  · right
    let rest : Cursor K V α := { cursor with slots := behind, remaining := cursor.remaining - 1 }
    have hentries : cursor.entries = entry :: rest.entries := by
      rw [entries, hslots, List.filterMap_append, hbefore]
      rfl
    have hremaining : cursor.remaining = rest.entries.length + 1 := by
      rw [h, hentries, List.length_cons]
    refine ⟨before, entry, rest, hslots, hbefore, hentries, ?_, ?_, rfl⟩
    · rw [next, hfirst]
      dsimp only
      rw [if_neg]
      simp [hremaining]
    · change cursor.remaining - 1 = rest.entries.length
      rw [hremaining, Nat.add_sub_cancel]

/-- A cursor that tells the number of the entries ahead delivers them. -/
theorem delivers (h : cursor.IsInSync) :
  cursor.Delivers (cursor.entries.map cursor.view)
  := by
  generalize hentries : cursor.entries = entries
  induction entries generalizing cursor with
  | nil =>
      have hremaining : cursor.remaining = 0 := by rw [h, hentries, List.length_nil]
      rcases h.next_cases with ⟨-, hnext⟩ | ⟨-, entry, rest, -, -, hcons, -⟩
      · exact .done hremaining hnext hremaining rfl
      · cases hentries.symm.trans hcons
  | cons entry entries ih =>
      rcases h.next_cases with ⟨hnil, -⟩ | ⟨-, first, rest, -, -, hcons, hnext, hrest, hview⟩
      · cases hentries.symm.trans hnil
      · obtain ⟨rfl, hbehind⟩ := List.cons.inj (hentries.symm.trans hcons)
        apply Delivers.step _ hnext
        · rw [← hview]
          apply ih hrest hbehind.symm
        · rw [h, hentries, List.length_cons, List.length_map]

end IsInSync

end Cursor

end OpenAddressing
