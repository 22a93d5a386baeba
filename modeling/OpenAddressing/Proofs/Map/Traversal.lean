import OpenAddressing.Proofs.Editor
import OpenAddressing.Proofs.Map.Refinement

/-!
# Running through a map

The number of items that a run through a map announces is a counter of the table, and the items are
found by passing the slots. Both agree in every state of a map, so that a run delivers the entries
in the order of the slots, each of them once, and is over when it says so. A run that changes values
leaves all else as it was, and later lookups find the new values.

* `run_isTraversable`: this holds in every state of a run, whatever the sizing rule wants and
  wherever calls break off.
-/

namespace OpenAddressing

variable {K V P : Type}

namespace Map

/-! ### Exact runs through a map -/

/-- The edited map differs from the map in the values alone. The value of the entry in each place
has been changed in the way of that place, if there is one, and this is what lookups find. -/
structure IsEdited [BEq K] (fs : List (V → V)) (map edited : Map K V P) : Prop where
  hash_eq : edited.hash = map.hash
  rule_eq : edited.rule = map.rule
  skeleton_eq : edited.table.skeleton = map.table.skeleton
  getElem?_entries : ∀ n, edited.entries[n]? = map.entries[n]?.map fun entry : Entry K V =>
    { entry with value := fs.getD n id entry.value }
  getPair?_eq : ∀ n entry key, map.entries[n]? = some entry → entry.key == key →
    edited.getPair? key = some (entry.key, fs.getD n id entry.value)
  contains_eq : ∀ key, edited.contains key = map.contains key

/-- Runs through the map are exact. -/
structure IsTraversable [BEq K] (map : Map K V P) : Prop where
  /-- The entries have different keys, and the map tells their number. -/
  distinct : DistinctKeys Entry.key map.entries
  size_eq : map.size = map.entries.length
  /-- After any number of steps the first entries have been delivered, the number of the others is
  told, and the run is over just if it is zero. -/
  reads : ∀ {α : Type} (view : Entry K V → α) (n : Nat),
    ∃ rest, (map.cursor view).take n = .ok ((map.entries.take n).map view, rest)
      ∧ rest.Delivers ((map.entries.drop n).map view) ∧ rest.remaining = map.size - n
      ∧ ((∃ last, rest.next = .ok (none, last)) ↔ rest.remaining = 0)
  /-- The keys and the values that are delivered belong together. -/
  zip_eq : (map.entries.map Entry.key).zip (map.entries.map Entry.value) = map.toList
  /-- A run that changes values does the same, and changes nothing else. -/
  edits : ∀ {α : Type} (view : Entry K V → α) (fs : List (V → V)),
    ∃ last, (map.editor view).take fs = .ok ((map.entries.take fs.length).map view, last)
      ∧ last.ahead.Delivers ((map.entries.drop fs.length).map view)
      ∧ last.ahead.remaining = map.size - fs.length
      ∧ map.IsEdited fs (map.edited last)
  /-- To change all values in one way is to run through all entries. -/
  editsAll : ∀ {α : Type} (view : Entry K V → α) (f : K → V → V),
    ∃ last, (map.editor view).take (map.entries.map fun entry => f entry.key)
        = .ok (map.entries.map view, last)
      ∧ map.edited last = map.mapValues f

variable [BEq K] {hash : K → UInt64} {floor : Nat} {map : Map K V P}

/-! ### Sound maps -/

namespace IsSound

variable (h : map.IsSound hash floor)
include h

theorem isInSync_cursor {α : Type} (view : Entry K V → α) :
  (map.cursor view).IsInSync
  := h.table.wellFormed.live_eq_length

theorem reads {α : Type} (view : Entry K V → α) (n : Nat) :
  ∃ rest, (map.cursor view).take n = .ok ((map.entries.take n).map view, rest)
    ∧ rest.Delivers ((map.entries.drop n).map view) ∧ rest.remaining = map.size - n
    ∧ ((∃ last, rest.next = .ok (none, last)) ↔ rest.remaining = 0)
  := by
  obtain ⟨rest, htake, hrest⟩ := (h.isInSync_cursor view).delivers.take n
  use rest
  rw [List.map_take, List.map_drop]
  refine ⟨htake, hrest, ?_, hrest.next_eq_none_iff⟩
  rw [hrest.remaining_eq, List.length_drop, List.length_map]
  apply congrArg (· - n) h.table.wellFormed.live_eq_length.symm

/-- What an editor has done after any number of steps, with the map it leaves behind. -/
theorem take_editor {α : Type} (view : Entry K V → α) (fs : List (V → V)) :
  ∃ last, (map.editor view).take fs = .ok ((map.entries.take fs.length).map view, last)
    ∧ last.ahead.Delivers ((map.entries.drop fs.length).map view)
    ∧ (map.edited last).table.skeleton = map.table.skeleton
    ∧ (map.edited last).entries = Entry.editEach fs map.entries
  := by
  have hinSync : (map.editor view).ahead.IsInSync := h.isInSync_cursor view
  obtain ⟨last, htake, hlast⟩ := Editor.take_edits hinSync fs
  refine ⟨last, htake, ?_, ?_, hlast.entries_eq⟩
  · have hdelivers := hlast.inSync.delivers
    rw [hlast.ahead_eq, hlast.view_eq] at hdelivers
    apply hdelivers
  · apply congrArg (Table.mk map.table.load)
    apply Array.ext'
    rw [Array.toList_map, Array.toList_map]
    apply hlast.skeleton_eq

variable [EquivBEq K] (hhash : HashCompatible hash)
include hhash

/-- A map that differs in the values alone is found to hold the new ones. -/
theorem isEdited {fs : List (V → V)} {table : Table K V}
    (hskeleton : table.skeleton = map.table.skeleton)
    (hentries : table.entries = Entry.editEach fs map.entries) :
  map.IsEdited fs { map with table }
  := by
  have hwell := h.table.wellFormed.of_skeleton hskeleton
  have hplaces : ∀ n, table.entries[n]? = map.entries[n]?.map fun entry : Entry K V =>
      { entry with value := fs.getD n id entry.value } := by
    intro n
    rw [hentries, Entry.getElem?_editEach]
  constructor
  case hash_eq => rfl
  case rule_eq => rfl
  case skeleton_eq => apply hskeleton
  case getElem?_entries => apply hplaces
  case getPair?_eq =>
    intro n entry key hentry hkey
    let changed : Entry K V := { entry with value := fs.getD n id entry.value }
    have hchanged : table.entries[n]? = some changed := by rw [hplaces, hentry, Option.map_some]
    have hfound : table.lookup? (hash key) key = some changed :=
      (hwell.lookup?_eq_some_iff hhash).mpr ⟨List.mem_of_getElem? hchanged, hkey⟩
    rw [getPair?, h.hash_eq, hfound]
    rfl
  case contains_eq =>
    intro key
    have hkeys : table.entries.map Entry.key = map.table.entries.map Entry.key := by
      rw [hentries, Entry.map_key_editEach]
      rfl
    have hsome : ∀ entries : List (Entry K V), (∃ entry ∈ entries, entry.key == key)
        ↔ ∃ other ∈ entries.map Entry.key, other == key := by simp
    rw [contains, contains, h.hash_eq, Bool.eq_iff_iff, hwell.isSome_find?_iff hhash,
      h.table.wellFormed.isSome_find?_iff hhash, hsome, hsome, hkeys]

omit hhash [EquivBEq K] in
/-- To change all values in one way is to run through all entries. -/
theorem exists_editor_eq_mapValues {α : Type} (view : Entry K V → α) (f : K → V → V) :
  ∃ last, (map.editor view).take (map.entries.map fun entry => f entry.key)
      = .ok (map.entries.map view, last)
    ∧ map.edited last = map.mapValues f
  := by
  obtain ⟨last, htake, -, hskeleton, hentries⟩ :=
    h.take_editor view (map.entries.map fun entry => f entry.key)
  rw [List.length_map, List.take_length] at htake
  use last, htake
  have htable : (map.edited last).table = map.table.mapValues f := by
    apply Table.eq_of_skeleton
    · rw [hskeleton, Table.skeleton_mapValues]
    · rw [Table.entries_mapValues]
      apply hentries.trans (Entry.editEach_map f map.entries)
  exact congrArg (Map.mk map.hash map.rule) htable

end IsSound

/-! ### Runs -/

/-- In every state of a run, the states that faults leave behind included, runs through the map are
exact. Whatever is viewed of the entries, they are delivered in the order of the slots and each of
them once. The number that is told is that of the items still to come, and the run is over just if
it is zero. A run that changes values changes neither the keys and hashes nor the counters, and
later lookups find the new values. -/
theorem run_isTraversable [EquivBEq K] [SizingRule P] {memory : Memory} {capacity : Nat} {rule : P}
    {start : Map K V P} (hhash : HashCompatible hash)
    (hstart : ofCapacity memory capacity hash rule = .ok start) (ops : List (Op K V)) :
  (start.run ops).1.IsTraversable
  := by
  have h := (kept_isSound hhash start.table.load.level).run ops (isSound_of_ofCapacity hstart)
  constructor
  case distinct => apply h.table.wellFormed.distinctKeys_entries
  case size_eq => apply h.table.wellFormed.live_eq_length
  case reads =>
    intro α view n
    apply h.reads
  case zip_eq => rw [List.zip_map']; rfl
  case edits =>
    intro α view fs
    obtain ⟨last, htake, hdelivers, hskeleton, hentries⟩ := h.take_editor view fs
    refine ⟨last, htake, hdelivers, ?_, h.isEdited hhash hskeleton hentries⟩
    rw [hdelivers.remaining_eq, List.length_map, List.length_drop]
    apply congrArg (· - fs.length) h.table.wellFormed.live_eq_length.symm
  case editsAll =>
    intro α view f
    apply h.exists_editor_eq_mapValues

/-- The fourth insertion has a table of four slots halved, and breaks off when the third entry finds
no slot. Two entries are left to run through. -/
theorem run_isTraversable_of_faults :
  let hash := (Hashing.constant 3).hashValue
  let script : Script := ⟨some 2, [none, none, none, some .shrink], [], 0, 0⟩
  let start : Map Value Nat Script := ⟨hash, script, .blank 2⟩
  let ops := [.insert .null 1, .insert (.boolean true) 2, .insert (.bigInt 0) 3,
    .insert (.boolean false) 4, .modify (.boolean true) (· + 5)]
  let map := (start.run ops).1
  ofCapacity ⟨40, fun _ => true⟩ 0 hash script = .ok start
    ∧ (start.run ops).2 = [.ok (.value? none), .ok (.value? none), .ok (.value? none),
      .error (.tableFull 2 0 2), .ok (.value? (some 7))]
    ∧ map.size = 2 ∧ map.toList = [(.bigInt 0, 3), (.boolean true, 7)]
    ∧ map.IsTraversable
  := by
  have hstart : ofCapacity ⟨40, fun _ => true⟩ 0 (Hashing.constant 3).hashValue
      (⟨some 2, [none, none, none, some .shrink], [], 0, 0⟩ : Script)
      = .ok (⟨_, _, .blank 2⟩ : Map Value Nat Script) := rfl
  exact ⟨hstart, rfl, rfl, rfl, run_isTraversable (Hashing.constant 3).hashCompatible hstart _⟩

end Map

end OpenAddressing
