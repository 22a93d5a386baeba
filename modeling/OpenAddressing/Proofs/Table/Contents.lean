import OpenAddressing.Proofs.Map.Dictionary
import OpenAddressing.Proofs.Table.Rebuild

/-!
# What a table holds

A table stands for the dictionary of its entries. On well-formed tables searches answer what
the dictionary answers, mutations change it as they should, and a rebuild that is completed
leaves it alone.
-/

namespace OpenAddressing

namespace Table

variable {K V : Type}

/-- The dictionary that a table stands for. -/
def dictionary (table : Table K V) : Dictionary K V where
  pairs := table.entries.map Entry.pair

theorem dictionary_mapValues (table : Table K V) (f : K → V → V) :
  (table.mapValues f).dictionary = table.dictionary.mapValues f
  := by
  rw [dictionary, entries_mapValues, dictionary, Dictionary.mapValues]
  simp only [List.map_map]
  rfl

theorem dictionary_clear (table : Table K V) :
  table.clear.dictionary = ⟨[]⟩
  := by
  rw [dictionary, entries_of_slots_empty]
  · rfl
  · intro slot hslot
    obtain ⟨_, _, rfl⟩ := Array.mem_map.mp hslot
    rfl

theorem dictionary_blank (level : Nat) :
  (blank level : Table K V).dictionary = ⟨[]⟩
  := by
  rw [dictionary, entries_blank]
  rfl

variable [BEq K] {table : Table K V} {hash : K → UInt64}

theorem dictionary_update (table : Table K V) (key : K) (f : V → V) :
  table.dictionary.update key f = ⟨(table.entries.map fun entry =>
    if entry.key == key then { entry with value := f entry.value } else entry).map Entry.pair⟩
  := by
  rw [dictionary, Dictionary.update, List.map_map, List.map_map]
  congr 2
  funext entry
  rw [Function.comp_apply, Function.comp_apply]
  split
  next hkey => rw [if_pos (show entry.key == key from hkey)]; rfl
  next hkey => rw [if_neg (show ¬(entry.key == key) from hkey)]

namespace WellFormed

theorem distinct_dictionary (h : table.WellFormed hash) :
  table.dictionary.Distinct
  := h.distinctKeys_entries.map fun _ => rfl

/-! ### Searching -/

/-- The dictionary finds the pair of the entry with the key. -/
theorem dictionary_find?_eq_some [EquivBEq K] (h : table.WellFormed hash) {i : Nat}
    {entry : Entry K V} {key : K} (hslot : table.slotAt i = .occupied entry)
    (hkey : entry.key == key) :
  table.dictionary.find? key = some entry.pair
  := by
  apply h.distinct_dictionary.find?_eq_some_iff.mpr
  exact ⟨List.mem_map_of_mem (mem_entries.mpr ⟨i, hslot⟩), hkey⟩

/-- The dictionary finds nothing if no entry has the key. -/
theorem dictionary_find?_eq_none {key : K}
    (habsent : ∀ entry ∈ table.entries, (entry.key == key) = false) :
  table.dictionary.find? key = none
  := by
  apply List.find?_eq_none.mpr
  intro pair hpair
  obtain ⟨entry, hentry, rfl⟩ := List.mem_map.mp hpair
  rw [show (entry.pair.1 == key) = false from habsent entry hentry]
  simp

variable [EquivBEq K] (h : table.WellFormed hash) (hhash : HashCompatible hash)
include h hhash

/-- Looking a key up is finding it in the dictionary. -/
theorem lookup?_map_pair (key : K) :
  (table.lookup? (hash key) key).map Entry.pair = table.dictionary.find? key
  := by
  rw [h.lookup?_eq_find? hhash, dictionary, Dictionary.find?, List.find?_map]
  rfl

/-- A search finds a slot just if the dictionary has the key. -/
theorem isSome_find?_eq (key : K) :
  (table.find? (hash key) key).isSome = (table.dictionary.find? key).isSome
  := by
  cases hfound : table.find? (hash key) key with
  | none =>
      rw [dictionary_find?_eq_none ((h.find?_eq_none_iff hhash).mp hfound)]
      rfl
  | some i =>
      obtain ⟨entry, hslot, hkey⟩ := (h.find?_eq_some_iff hhash).mp hfound
      rw [h.dictionary_find?_eq_some hslot hkey]
      rfl

/-! ### Mutations -/

/-- An insertion that answers answers what the dictionary answers, and changes it in the same
way. -/
theorem insert_yields (key : K) (value : V) :
  (table.insert (hash key) key value).Yields Table.dictionary
    (table.dictionary.insert key value) ((table.dictionary.find? key).map Prod.snd)
  := by
  rcases h.insert_cases hhash key value with ⟨i, entry, hslot, hkey, hinsert⟩
    | ⟨i, tombstone, hvacancy, hslot, habsent, hinsert⟩ | ⟨-, -, hinsert⟩
  · rw [hinsert, Dictionary.insert, h.dictionary_find?_eq_some hslot hkey, dictionary_update,
      ← h.entries_setEntry hslot hkey]
    apply Outcome.Yields.ok
    apply Dictionary.Agrees.refl
    apply (h.setValue hslot value).distinct_dictionary
  · rw [hinsert, Dictionary.insert, dictionary_find?_eq_none habsent]
    apply Outcome.Yields.ok
    constructor
    case distinct =>
      apply (h.fillKey hslot hvacancy.reaches habsent value).2.distinct_dictionary
    case perm =>
      have hperm := (entries_fill_perm (h.lt_size hvacancy.reaches.lt_capacity)
        (by rw [hslot]; cases tombstone <;> rfl) ⟨hash key, key, value⟩
        (table.load.filled tombstone)).map Entry.pair
      rw [List.map_append] at hperm
      apply hperm
  · rw [hinsert]
    apply Outcome.Yields.fault

/-- A removal answers what the dictionary answers, and changes it in the same way. -/
theorem erase_yields (key : K) :
  ((table.erase (hash key) key).map (·.map Entry.pair)).Yields Table.dictionary
    (table.dictionary.erase key) (table.dictionary.find? key)
  := by
  rcases h.erase_cases hhash key with ⟨i, entry, hslot, hkey, herase⟩ | ⟨habsent, herase⟩
  · rw [herase, h.dictionary_find?_eq_some hslot hkey]
    apply Outcome.Yields.ok
    use (h.vacate hslot).2.distinct_dictionary
    apply List.Perm.of_eq
    change (table.withSlot i .tombstone table.load.vacated).entries.map Entry.pair = _
    rw [h.entries_vacate hslot hkey, Dictionary.erase, dictionary, List.filter_map]
    rfl
  · rw [herase, dictionary_find?_eq_none habsent]
    apply Outcome.Yields.ok
    use h.distinct_dictionary
    apply List.Perm.of_eq
    symm
    apply List.filter_eq_self.mpr
    intro pair hpair
    obtain ⟨entry, hentry, rfl⟩ := List.mem_map.mp hpair
    rw [show (entry.pair.1 == key) = false from habsent entry hentry]
    rfl

/-- Changing the value of a key answers what the dictionary answers, and changes it in the
same way. -/
theorem modify_agrees (key : K) (f : V → V) :
  (table.modify (hash key) key f).2
      = (table.dictionary.find? key).map (fun pair => f pair.2)
    ∧ (table.modify (hash key) key f).1.dictionary.Agrees (table.dictionary.update key f)
  := by
  rw [dictionary_update]
  rcases h.modify_cases hhash key f with ⟨i, entry, hslot, hkey, hmodify⟩ | ⟨habsent, hmodify⟩
  · rw [hmodify, h.dictionary_find?_eq_some hslot hkey, ← h.entries_setEntry hslot hkey]
    use rfl
    apply Dictionary.Agrees.refl
    apply (h.setValue hslot _).distinct_dictionary
  · rw [hmodify, dictionary_find?_eq_none habsent]
    use rfl
    use h.distinct_dictionary
    apply List.Perm.of_eq
    rw [dictionary, List.map_congr_left (g := id) (l := table.entries), List.map_id]
    intro entry hentry
    simp [habsent entry hentry]

omit hhash in
/-- A rebuild that is completed leaves the dictionary alone. -/
theorem resize_yields (wanted : Option Resize) :
  (table.resize wanted).Yields Table.dictionary table.dictionary ()
  := by
  intro answer hanswer
  have hperm := (h.entries_resize_perm hanswer).map Entry.pair
  use rfl, h.distinct_dictionary.perm hperm.symm
  apply hperm

end WellFormed

end Table

end OpenAddressing
