import OpenAddressing.Editor
import OpenAddressing.Proofs.Cursor

/-!
# What an editor leaves behind

An editor passes the same entries as a cursor, and each of them has its value changed in its own
way. Nothing else about the slots is changed, neither their kinds nor the keys and hashes of the
entries, and it does not matter how far the editor has come: the entries it has not delivered are
as they were.

* `take_edits`: what an editor has delivered after any number of steps, and the slots by then.
-/

namespace OpenAddressing

variable {K V α : Type}

namespace Entry

/-- The entries with their values changed, each in its own way as far as there are ways. -/
def editEach : List (V → V) → List (Entry K V) → List (Entry K V)
  | [], entries => entries
  | _ :: _, [] => []
  | f :: fs, entry :: entries => { entry with value := f entry.value } :: editEach fs entries

/-- The entry of each place has its value changed in the way of that place, if there is one. -/
theorem getElem?_editEach (fs : List (V → V)) (entries : List (Entry K V)) (n : Nat) :
  (editEach fs entries)[n]?
    = entries[n]?.map fun entry => { entry with value := fs.getD n id entry.value }
  := by
  induction fs generalizing entries n with
  | nil => exact Option.map_id'.symm
  | cons f fs ih =>
      cases entries with
      | nil => rfl
      | cons entry entries =>
          cases n with
          | zero => rfl
          | succ n => apply ih

/-- Ways that are told by the keys change all values. -/
theorem editEach_map (f : K → V → V) (entries : List (Entry K V)) :
  editEach (entries.map fun entry => f entry.key) entries
    = entries.map fun entry => { entry with value := f entry.key entry.value }
  := by
  induction entries with
  | nil => rfl
  | cons entry entries ih => exact congrArg (List.cons _) ih

theorem map_key_editEach (fs : List (V → V)) (entries : List (Entry K V)) :
  (editEach fs entries).map key = entries.map key
  := by
  induction fs generalizing entries with
  | nil => rfl
  | cons f fs ih =>
      cases entries with
      | nil => rfl
      | cons entry entries => exact congrArg (List.cons entry.key) (ih entries)

end Entry

namespace Editor

/-! ### One step -/

theorem passFirst_of_nil (f : V → V) {slots : List (Slot K V)}
    (hentries : slots.filterMap Slot.stored? = []) :
  passFirst f slots = slots
  := by
  induction slots with
  | nil => rfl
  | cons slot slots ih =>
      cases slot with
      | empty => exact congrArg (List.cons .empty) (ih hentries)
      | tombstone => exact congrArg (List.cons .tombstone) (ih hentries)
      | occupied entry => cases hentries

theorem passFirst_of_cons (f : V → V) {before : List (Slot K V)}
    (hbefore : before.filterMap Slot.stored? = []) (entry : Entry K V) (behind : List (Slot K V)) :
  passFirst f (before ++ .occupied entry :: behind)
    = before ++ [.occupied { entry with value := f entry.value }]
  := by
  induction before with
  | nil => rfl
  | cons slot before ih =>
      cases slot with
      | empty => exact congrArg (List.cons .empty) (ih hbefore)
      | tombstone => exact congrArg (List.cons .tombstone) (ih hbefore)
      | occupied other => cases hbefore

/-- A step finds that no entry is left, or passes the first one and changes its value. -/
theorem next_cases {editor : Editor K V α} (h : editor.ahead.IsInSync) (f : V → V) :
  (editor.ahead.entries = []
      ∧ editor.next f
        = .ok (none, ⟨editor.passed ++ editor.ahead.slots, { editor.ahead with slots := [] }⟩))
    ∨ ∃ before entry rest, editor.ahead.slots = before ++ .occupied entry :: rest.ahead.slots
      ∧ before.filterMap Slot.stored? = [] ∧ editor.ahead.entries = entry :: rest.ahead.entries
      ∧ editor.next f = .ok (some (editor.ahead.view entry), rest)
      ∧ rest.passed = editor.passed ++ (before ++ [.occupied { entry with value := f entry.value }])
      ∧ rest.ahead.IsInSync ∧ rest.ahead.view = editor.ahead.view
  := by
  rcases h.next_cases with ⟨hentries, hnext⟩
    | ⟨before, entry, rest, hslots, hbefore, hentries, hnext, hrest, hview⟩
  · left
    use hentries
    simp only [next, hnext, bind, Except.bind]
    rw [passFirst_of_nil f hentries]
  · right
    refine ⟨before, entry, ⟨_, rest⟩, hslots, hbefore, hentries, ?_, rfl, hrest, hview⟩
    simp only [next, hnext, bind, Except.bind]
    rw [hslots, passFirst_of_cons f hbefore]

/-! ### Many steps -/

/-- The editor has made the changes, as far as there were entries for them, and has the others still
ahead. Apart from the values, the slots are as they were. -/
structure Edits (editor : Editor K V α) (fs : List (V → V)) (last : Editor K V α) : Prop where
  inSync : last.ahead.IsInSync
  view_eq : last.ahead.view = editor.ahead.view
  ahead_eq : last.ahead.entries = editor.ahead.entries.drop fs.length
  skeleton_eq : last.slots.map (Slot.mapValue fun _ _ => ())
    = editor.slots.map (Slot.mapValue fun _ _ => ())
  entries_eq : last.slots.filterMap Slot.stored?
    = editor.passed.filterMap Slot.stored? ++ Entry.editEach fs editor.ahead.entries

theorem take_edits {editor : Editor K V α} (h : editor.ahead.IsInSync) (fs : List (V → V)) :
  ∃ last, editor.take fs
      = .ok ((editor.ahead.entries.take fs.length).map editor.ahead.view, last)
    ∧ editor.Edits fs last
  := by
  induction fs generalizing editor with
  | nil =>
      use editor, rfl
      constructor
      case inSync => apply h
      case view_eq => rfl
      case ahead_eq => rfl
      case skeleton_eq => rfl
      case entries_eq => apply List.filterMap_append
  | cons f fs ih =>
      rcases next_cases h f with ⟨hnil, hnext⟩
        | ⟨before, entry, rest, hslots, hbefore, hentries, hnext, hpassed, hrest, hview⟩
      · refine ⟨⟨editor.passed ++ editor.ahead.slots, { editor.ahead with slots := [] }⟩, ?_, ?_⟩
        · simp only [take, hnext, hnil, bind, Except.bind, List.take_nil, List.map_nil]
        · constructor
          case inSync =>
            rw [Cursor.IsInSync, hnil] at h
            apply h
          case view_eq => rfl
          case ahead_eq =>
            rw [hnil]
            rfl
          case skeleton_eq => rw [slots, slots, List.append_nil]
          case entries_eq =>
            rw [slots, List.append_nil, List.filterMap_append, hnil]
            apply congrArg _ hnil
      · obtain ⟨last, htake, hlast⟩ := ih hrest
        refine ⟨last, ?_, ?_⟩
        · simp only [take, hnext, htake, bind, Except.bind, hentries, hview, List.length_cons,
            List.take_succ_cons, List.map_cons]
        · constructor
          case inSync => apply hlast.inSync
          case view_eq => rw [hlast.view_eq, hview]
          case ahead_eq =>
            rw [hlast.ahead_eq, hentries]
            rfl
          case skeleton_eq =>
            rw [hlast.skeleton_eq, slots, slots, hpassed, hslots]
            simp [Slot.mapValue]
          case entries_eq =>
            rw [hlast.entries_eq, hpassed, List.filterMap_append, List.filterMap_append, hbefore,
              hentries, List.append_assoc]
            rfl

end Editor

end OpenAddressing
