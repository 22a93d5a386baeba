import OpenAddressing.Proofs.Map.WellFormed

/-!
# Rebuilding is inserting anew

A rebuild takes the hashes from the entries, compares no keys and looks for an empty slot only. It
comes to the same as inserting the entries into an empty table in the ordinary way, each key hashed
afresh: the keys are distinct, so no insertion finds one of them, and where there are no tombstones
the first empty slot is the first one without an entry. The level that the table counts as created
at is the only difference.

* `run_rebuild_eq_insertAll`: this holds of the table in every state of a run.
-/

namespace OpenAddressing

namespace Outcome

variable {σ τ α β γ : Type}

theorem map_map (f : α → β) (g : β → γ) (outcome : Outcome σ α) :
  (outcome.map f).map g = outcome.map fun answer => g (f answer)
  := by
  obtain ⟨state, rebuilds, _ | answer⟩ := outcome
  · rfl
  · rfl

/-- Seeing the state as part of another may wait for what comes next. -/
theorem within_andThen {f : σ → τ} {next : σ → α → Outcome σ β} {next' : τ → α → Outcome τ β}
    (hnext : ∀ state answer, next' (f state) answer = (next state answer).within f)
    (outcome : Outcome σ α) :
  (outcome.within f).andThen next' = (outcome.andThen next).within f
  := by
  obtain ⟨state, rebuilds, _ | answer⟩ := outcome
  · rfl
  · rw [within, andThen, hnext, andThen]
    rfl

end Outcome

/-- The counters do not depend on the level of creation. -/
theorem Load.afterInsert_withFloor (load : Load) (floor : Nat) (reused : Bool) :
  { load with floor := floor }.afterInsert reused
    = (load.afterInsert reused).map fun next => { next with floor := floor }
  := by
  by_cases hunder : reused && load.tombstones == 0
  · rw [afterInsert, afterInsert, if_pos hunder, if_pos hunder]
    rfl
  · rw [afterInsert, afterInsert, if_neg hunder, if_neg hunder]
    dsimp only
    split
    next hle => rw [if_pos (by exact hle)]; rfl
    next hle => rw [if_neg (by exact hle)]; rfl

namespace Table

variable {K V : Type}

/-! ### The level of creation -/

/-- The table as if it had been created at level `floor`. -/
def withFloor (table : Table K V) (floor : Nat) : Table K V where
  load := { table.load with floor := floor }
  slots := table.slots

theorem restart_eq_withFloor (table : Table K V) (level : Nat) :
  table.restart level = (blank level).withFloor table.load.floor
  := rfl

variable [BEq K]

/-- An insertion does not depend on the level of creation. -/
theorem insert_withFloor (table : Table K V) (floor : Nat) (hash : UInt64) (key : K) (value : V) :
  (table.withFloor floor).insert hash key value
    = (table.insert hash key value).within (·.withFloor floor)
  := by
  have hplace : (table.withFloor floor).place hash key = table.place hash key := rfl
  rw [insert, insert, hplace]
  cases table.place hash key with
  | existing i entry => rfl
  | nowhere => rfl
  | vacant i tombstone =>
      simp only [withFloor, Load.afterInsert_withFloor]
      cases table.load.afterInsert tombstone with
      | ok load => rfl
      | error cause => rfl

/-! ### Inserting entries anew -/

/-- Insert entries one after the other, up to the first fault, each by the hash of its key. The
answer lists the replaced values. -/
def insertAll (hash : K → UInt64) :
    List (Entry K V) → Table K V → Outcome (Table K V) (List (Option V))
  | [], table => .ok table []
  | entry :: entries, table =>
    (table.insert (hash entry.key) entry.key entry.value).andThen fun table replaced =>
      (insertAll hash entries table).map (replaced :: ·)

theorem insertAll_withFloor (hash : K → UInt64) (entries : List (Entry K V)) (table : Table K V)
    (floor : Nat) :
  insertAll hash entries (table.withFloor floor)
    = (insertAll hash entries table).within (·.withFloor floor)
  := by
  induction entries generalizing table with
  | nil => rfl
  | cons entry entries ih =>
      rw [insertAll, insertAll, insert_withFloor]
      apply Outcome.within_andThen
      intro next replaced
      rw [ih]
      rfl

variable {table : Table K V} {hash : K → UInt64}

namespace WellFormed

/-- While a table without tombstones has room, a new entry is inserted into the slot that it is
reinserted into, and leaves no tombstones. -/
theorem insert_eq_reinsert [EquivBEq K] (h : table.WellFormed hash)
    (hhash : HashCompatible hash) (htombstones : table.load.tombstones = 0)
    (hroom : table.load.live < table.load.capacity) {entry : Entry K V}
    (hentry : entry.hash = hash entry.key)
    (habsent : ∀ other ∈ table.entries, (other.key == entry.key) = false) :
  table.insert (hash entry.key) entry.key entry.value = (table.reinsert entry).map fun _ => none
  := by
  obtain ⟨i, hempty, hreach, hreinsert⟩ := h.reinsert_of_lt htombstones hroom hentry habsent
  have hused : table.load.used < table.load.capacity := by
    rw [Load.used, htombstones]
    apply hroom
  obtain ⟨j, tombstone, hvacancy, hslot, hinsert⟩ :=
    h.insert_of_absent hhash habsent hused entry.value
  have hnone : ∀ k, table.slotAt k ≠ .tombstone := by
    intro k hk
    apply Nat.ne_of_gt (h.tombstones_pos hk) htombstones
  obtain rfl : tombstone = false := by
    by_contra htombstone
    rw [if_pos (eq_true_of_ne_false htombstone)] at hslot
    apply hnone j hslot
  rw [hentry] at hreach
  obtain rfl : i = j := (hreach.isVacancy hempty hnone).unique hvacancy
  rw [hreinsert, hinsert, ← hentry]
  rfl

/-- While there is room for all of them, new entries are inserted as they are reinserted, and
none of them replaces a value. -/
theorem insertAll_eq_reinsertAll [EquivBEq K] {entries : List (Entry K V)}
    (h : table.WellFormed hash) (hhash : HashCompatible hash)
    (htombstones : table.load.tombstones = 0)
    (hroom : table.load.live + entries.length ≤ table.load.capacity)
    (hentries : ∀ entry ∈ entries, entry.hash = hash entry.key)
    (hdistinct : DistinctKeys Entry.key (table.entries ++ entries)) :
  insertAll hash entries table
    = (Table.reinsertAll entries table).map fun _ => List.replicate entries.length none
  := by
  induction entries generalizing table with
  | nil => rfl
  | cons entry entries ih =>
      have hentry := hentries entry List.mem_cons_self
      have habsent : ∀ other ∈ table.entries, (other.key == entry.key) = false := by
        intro other hother
        apply (List.pairwise_append.mp hdistinct).2.2 other hother entry List.mem_cons_self
      rw [List.length_cons] at hroom
      have hlt : table.load.live < table.load.capacity := by omega
      obtain ⟨i, hslot, hreach, hreinsert⟩ := h.reinsert_of_lt htombstones hlt hentry habsent
      obtain ⟨-, hfilled⟩ := h.fill false hslot hentry hreach habsent
      have hperm := entries_fill_perm (h.lt_size hreach.lt_capacity) (by rw [hslot]; rfl) entry
        (table.load.filled false)
      have hinsert : table.insert (hash entry.key) entry.key entry.value
          = .ok (table.withSlot i (.occupied entry) (table.load.filled false)) none := by
        rw [h.insert_eq_reinsert hhash htombstones hlt hentry habsent, hreinsert]
        rfl
      rw [insertAll, hinsert, Outcome.ok_andThen, Table.reinsertAll, hreinsert, Outcome.ok_andThen]
      rw [ih hfilled htombstones]
      · apply Outcome.map_map
      · change table.load.live + 1 + entries.length ≤ table.load.capacity
        omega
      · intro other hother
        apply hentries other (List.mem_cons_of_mem entry hother)
      · apply hdistinct.perm
        rw [List.append_cons]
        apply List.Perm.append_right
        apply hperm.symm

/-- A rebuild with a slot for each entry makes the table that the entries are inserted into anew,
but for the level of creation. -/
theorem rebuild_eq_insertAll [EquivBEq K] (h : table.WellFormed hash)
    (hhash : HashCompatible hash) {level : Nat} (hroom : table.load.live ≤ 2 ^ level) :
  let plain := insertAll hash table.entries (Table.blank level)
  (table.rebuild level).answer = .ok ()
    ∧ plain.answer = .ok (List.replicate table.load.live none)
    ∧ (table.rebuild level).state = plain.state.withFloor table.load.floor
  := by
  intro plain
  have hplain : plain.within (·.withFloor table.load.floor)
      = (Table.reinsertAll table.entries (table.restart level)).map
          fun _ => List.replicate table.entries.length none := by
    rw [← insertAll_withFloor, ← restart_eq_withFloor]
    apply (WellFormed.restart table level).insertAll_eq_reinsertAll hhash rfl _ h.hash_eq_of_mem
    · rw [entries_restart]
      apply h.distinctKeys_entries
    · rw [h.live_eq_length] at hroom
      apply Nat.le_trans (Nat.le_of_eq (Nat.zero_add _)) hroom
  have hanswer : (Table.reinsertAll table.entries (table.restart level)).answer = .ok () := by
    rw [(h.reinsertAll_restart level).answer_eq, ← h.live_eq_length]
    apply if_pos
    apply Nat.le_trans (Nat.le_of_eq (Nat.zero_add _)) hroom
  rw [Table.rebuild, Outcome.andThen_of_ok hanswer]
  use rfl
  constructor
  · rw [← Outcome.within_answer (·.withFloor table.load.floor) plain, hplain,
      Outcome.map_answer, hanswer, h.live_eq_length]
    rfl
  · rw [← Outcome.within_state (·.withFloor table.load.floor) plain, hplain]
    rfl

end WellFormed

end Table

namespace Map

variable {K V P : Type} [BEq K] [SizingRule P] [EquivBEq K] {hash : K → UInt64}

/-- In every state of a run, the states that faults leave behind included, a rebuild of the table
at a level with a slot for each entry makes the same slots and the same counters as inserting the
entries, in the order of the slots and each by the hash of its key, into an empty table of that
level. None of these insertions finds an equal key. Only the level that the table counts as
created at is kept by the rebuild and is new otherwise. -/
theorem run_rebuild_eq_insertAll {memory : Memory} {capacity : Nat} {rule : P}
    {start : Map K V P} (hhash : HashCompatible hash)
    (hstart : ofCapacity memory capacity hash rule = .ok start) (ops : List (Op K V))
    {level : Nat} (hroom : (start.run ops).1.table.load.live ≤ 2 ^ level) :
  let map := (start.run ops).1
  let rebuilt := map.table.rebuild level
  let plain := Table.insertAll map.hash map.table.entries (.blank level)
  rebuilt.answer = .ok () ∧ plain.answer = .ok (List.replicate map.size none)
    ∧ rebuilt.state.slots = plain.state.slots
    ∧ rebuilt.state.load = { plain.state.load with floor := map.table.load.floor }
  := by
  intro map rebuilt plain
  have hsound := (kept_isSound hhash start.table.load.level).run ops
    (isSound_of_ofCapacity hstart)
  have hplain : plain = Table.insertAll hash map.table.entries (.blank level) := by
    rw [← hsound.hash_eq]
  obtain ⟨hanswer, hreplaced, hstate⟩ := hsound.table.wellFormed.rebuild_eq_insertAll hhash hroom
  rw [hplain]
  use hanswer, hreplaced
  constructor
  · apply congrArg Table.slots hstate
  · apply congrArg Table.load hstate

/-- Of three entries with the same hash the second was removed. A table of two slots takes the
other two, in the order of the old slots, which is not that of their insertion. -/
theorem run_rebuild_eq_insertAll_of_tombstone :
  let hash := (Hashing.constant 3).hashValue
  let rule : Rule := .fixed (some 2)
  let start : Map Value Nat Rule := ⟨hash, rule, .blank 2⟩
  let ops := [.insert .null 1, .insert (.boolean true) 2, .insert (.boolean false) 3,
    .insert .null 4, .erase (.boolean true)]
  let map := (start.run ops).1
  let rebuilt := map.table.rebuild 1
  let plain := Table.insertAll map.hash map.table.entries (.blank 1)
  ofCapacity ⟨40, fun _ => true⟩ 0 hash rule = .ok start
    ∧ map.table.load = ⟨2, 2, 2, 1⟩ ∧ map.toList = [(.boolean false, 3), (.null, 4)]
    ∧ map.table.load.live ≤ 2 ^ 1
    ∧ rebuilt.answer = .ok () ∧ plain.answer = .ok (List.replicate map.size none)
    ∧ rebuilt.state.slots = plain.state.slots
    ∧ rebuilt.state.load = { plain.state.load with floor := map.table.load.floor }
  := by
  have hstart : ofCapacity ⟨40, fun _ => true⟩ 0 (Hashing.constant 3).hashValue
      (.fixed (some 2) : Rule) = .ok (⟨_, _, .blank 2⟩ : Map Value Nat Rule) := rfl
  exact ⟨hstart, rfl, rfl, by decide,
    run_rebuild_eq_insertAll (Hashing.constant 3).hashCompatible hstart _ (by decide)⟩

end Map

end OpenAddressing
