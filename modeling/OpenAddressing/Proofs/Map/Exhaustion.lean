import OpenAddressing.Proofs.Map.WellFormed

/-!
# Tables without an empty slot

A table may be used to the full, by entries and tombstones in any proportion, if its sizing rule
lets it. Even then every scan comes to an end: a search finds the entry of its key if there is
one, and an insertion replaces the value of that entry. Only a new key finds no place, and then
the insertion leaves the table as it is.

* `run_insert_breaksOff_iff`: in every state of a run, an insertion whose rebuild is completed
  breaks off just if no entry has the key and no slot is empty.
-/

namespace OpenAddressing

namespace Table

variable {K V : Type}

/-- No slot is empty: each holds an entry or is a tombstone. -/
def IsFull (table : Table K V) : Prop :=
  ∀ i < table.load.capacity, table.slotAt i ≠ .empty

variable [BEq K]

/-- Whatever key a search or a removal is for, it answers, and with the entry of the key if
there is one. -/
structure ScansExactly (hash : K → UInt64) (table : Table K V) : Prop where
  isSome_find?_iff : ∀ key, (table.find? (hash key) key).isSome
    ↔ ∃ entry ∈ table.entries, entry.key == key
  lookup?_eq_some_iff : ∀ key entry, table.lookup? (hash key) key = some entry
    ↔ entry ∈ table.entries ∧ entry.key == key
  answer_erase : ∀ key, (table.erase (hash key) key).answer
    = .ok (table.lookup? (hash key) key)

namespace WellFormed

variable {table : Table K V} {hash : K → UInt64} (h : table.WellFormed hash)
include h

theorem isFull_iff :
  table.IsFull ↔ table.load.used = table.load.capacity
  := by
  constructor
  · apply h.used_eq_capacity
  · intro hused i hi hempty
    apply Nat.ne_of_lt (h.used_lt_capacity hi hempty) hused

variable [EquivBEq K] (hhash : HashCompatible hash)
include hhash

/-! ### Scans -/

/-- A removal answers what a search for the key finds. -/
theorem answer_erase (key : K) :
  (table.erase (hash key) key).answer = .ok (table.lookup? (hash key) key)
  := by
  rcases h.erase_cases hhash key with ⟨i, entry, hslot, hkey, herase⟩ | ⟨habsent, herase⟩
  · rw [herase, (h.lookup?_eq_some_iff hhash).mpr ⟨mem_entries.mpr ⟨i, hslot⟩, hkey⟩]
    rfl
  · rw [herase, lookup?, (h.find?_eq_none_iff hhash).mpr habsent]
    rfl

theorem scansExactly :
  table.ScansExactly hash
  where
    isSome_find?_iff _ := h.isSome_find?_iff hhash
    lookup?_eq_some_iff _ _ := h.lookup?_eq_some_iff hhash
    answer_erase := h.answer_erase hhash

/-! ### Insertions -/

omit [EquivBEq K] in
/-- A new key finds no place in a full table. -/
theorem insert_of_isFull {key : K} (habsent : ∀ entry ∈ table.entries, (entry.key == key) = false)
    (hfull : table.IsFull) (value : V) :
  table.insert (hash key) key value = .fault table table.full
  := by
  rcases h.place_cases hhash key with ⟨i, entry, -, hslot, hkey⟩
    | ⟨i, tombstone, hplace, -⟩ | ⟨hplace, -⟩
  · rw [habsent entry (mem_entries.mpr ⟨i, hslot⟩)] at hkey
    cases hkey
  · obtain ⟨j, hj, hempty⟩ := exists_empty_of_place_eq_vacant hplace
    apply absurd hempty (hfull j (mem_positions_probe.mp hj))
  · rw [insert, hplace]

/-- An insertion breaks off for no other reason, and leaves the table alone. -/
theorem insert_of_error {key : K} {value : V} {cause : Fault}
    (herror : (table.insert (hash key) key value).answer = .error cause) :
  (∀ entry ∈ table.entries, (entry.key == key) = false) ∧ table.IsFull
    ∧ table.insert (hash key) key value = .fault table table.full
  := by
  rcases h.insert_cases hhash key value with ⟨i, entry, -, -, hinsert⟩
    | ⟨i, tombstone, -, -, -, hinsert⟩ | ⟨hused, habsent, hinsert⟩
  · rw [hinsert] at herror
    cases herror
  · rw [hinsert] at herror
    cases herror
  · exact ⟨habsent, h.isFull_iff.mpr hused, hinsert⟩

/-- A present key has its value replaced. -/
theorem answer_insert_of_mem {key : K} {entry : Entry K V} (hentry : entry ∈ table.entries)
    (hkey : entry.key == key) (value : V) :
  (table.insert (hash key) key value).answer = .ok (some entry.value)
  := by
  obtain ⟨i, hslot⟩ := mem_entries.mp hentry
  rw [h.insert_of_slotAt hhash hslot hkey]
  rfl

end WellFormed

end Table

namespace Map

variable {K V P : Type} [BEq K] [SizingRule P]

/-- After a completed rebuild an insertion is one into the rebuilt table. -/
theorem insert_of_beforeInsert_ok {map : Map K V P} (hbefore : map.beforeInsert.answer = .ok ())
    (key : K) (value : V) :
  (map.insert key value).answer = (map.beforeInsert.state.insert (map.hash key) key value).answer
    ∧ (map.insert key value).state.table
      = (map.beforeInsert.state.insert (map.hash key) key value).state
  := by
  rw [insert_eq, Outcome.andThen_of_ok hbefore]
  exact ⟨rfl, rfl⟩

/-- An insertion into a map in any state of a run, once the rebuild that its sizing rule wants is
completed, breaks off just if no entry of the rebuilt table has the key and none of its slots is
empty, so that all of them are in use, some as tombstones perhaps. It tells so, and leaves the
rebuilt table as it is. The value of a present key is replaced however full the table is, and
every search and every removal there comes to an end with the right answer. -/
theorem run_insert_breaksOff_iff [EquivBEq K] {memory : Memory} {capacity : Nat}
    {hash : K → UInt64} {rule : P} {start : Map K V P} (hhash : HashCompatible hash)
    (hstart : ofCapacity memory capacity hash rule = .ok start) (ops : List (Op K V)) (key : K)
    (value : V) (hbefore : (start.run ops).1.beforeInsert.answer = .ok ()) :
  let table := (start.run ops).1.beforeInsert.state
  let outcome := (start.run ops).1.insert key value
  ((∃ cause, outcome.answer = .error cause)
      ↔ (∀ entry ∈ table.entries, (entry.key == key) = false) ∧ table.IsFull)
    ∧ (table.IsFull ↔ table.load.used = table.load.capacity)
    ∧ (∀ cause, outcome.answer = .error cause →
      cause.message = "open hash map is full: " ++ toString table.load.live ++ " live, "
          ++ toString table.load.tombstones ++ " tombstones in "
          ++ toString table.load.capacity ++ " slots"
        ∧ outcome.state.table = table)
    ∧ (∀ entry ∈ table.entries, entry.key == key → outcome.answer = .ok (some entry.value))
    ∧ table.ScansExactly hash
  := by
  intro table outcome
  have hsound := (kept_isSound hhash start.table.load.level).run ops
    (isSound_of_ofCapacity hstart)
  have hwell : table.WellFormed hash := (hsound.table.resize _).wellFormed
  obtain ⟨hanswer, hstate⟩ := insert_of_beforeInsert_ok hbefore key value
  rw [hsound.hash_eq] at hanswer hstate
  refine ⟨⟨?_, ?_⟩, hwell.isFull_iff, ?_, ?_, hwell.scansExactly hhash⟩
  · rintro ⟨cause, herror⟩
    obtain ⟨habsent, hfull, -⟩ := hwell.insert_of_error hhash (hanswer.symm.trans herror)
    exact ⟨habsent, hfull⟩
  · rintro ⟨habsent, hfull⟩
    use table.full
    apply hanswer.trans
    rw [hwell.insert_of_isFull hhash habsent hfull]
    rfl
  · intro cause herror
    obtain ⟨-, -, hinsert⟩ := hwell.insert_of_error hhash (hanswer.symm.trans herror)
    rw [hinsert] at hanswer hstate
    cases hanswer.symm.trans herror
    exact ⟨rfl, hstate⟩
  · intro entry hentry hkey
    apply hanswer.trans
    apply hwell.answer_insert_of_mem hhash hentry hkey

/-- A table of two slots that is never rebuilt. One of its two entries was removed, so that a
tombstone is left for the third key, but no empty slot. -/
theorem run_insert_breaksOff_iff_of_tombstone :
  let hash := (Hashing.constant 3).hashValue
  let rule : Rule := .fixed (some 1)
  let start : Map Value Nat Rule := ⟨hash, rule, .blank 1⟩
  let ops := [.insert .null 1, .insert (.boolean true) 2, .erase .null]
  let table := (start.run ops).1.beforeInsert.state
  let outcome := (start.run ops).1.insert (.boolean false) 3
  ofCapacity ⟨40, fun _ => true⟩ 0 hash rule = .ok start
    ∧ (start.run ops).1.beforeInsert.answer = .ok ()
    ∧ outcome.answer = .error (.tableFull 1 1 2)
    ∧ ((∃ cause, outcome.answer = .error cause)
      ↔ (∀ entry ∈ table.entries, (entry.key == .boolean false) = false) ∧ table.IsFull)
    ∧ (table.IsFull ↔ table.load.used = table.load.capacity)
    ∧ (∀ cause, outcome.answer = .error cause →
      cause.message = "open hash map is full: " ++ toString table.load.live ++ " live, "
          ++ toString table.load.tombstones ++ " tombstones in "
          ++ toString table.load.capacity ++ " slots"
        ∧ outcome.state.table = table)
    ∧ (∀ entry ∈ table.entries, entry.key == .boolean false →
      outcome.answer = .ok (some entry.value))
    ∧ table.ScansExactly hash
  := by
  have hstart : ofCapacity ⟨40, fun _ => true⟩ 0 (Hashing.constant 3).hashValue
      (.fixed (some 1) : Rule) = .ok (⟨_, _, .blank 1⟩ : Map Value Nat Rule) := rfl
  exact ⟨hstart, rfl, rfl,
    run_insert_breaksOff_iff (Hashing.constant 3).hashCompatible hstart _ _ _ rfl⟩

end Map

end OpenAddressing
