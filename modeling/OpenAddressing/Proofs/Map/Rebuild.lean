import OpenAddressing.Proofs.Map.WellFormed
import OpenAddressing.Proofs.Sizing.LoadFactor

/-!
# When a rebuild breaks off

A rebuild moves the entries of a table one after the other, and each finds a slot as long as one
is empty. So it breaks off just if there are more entries than slots at the new level, and then
as many entries as there are slots have been moved. The level of a table stays among those that
tables may have, and at such a level neither growing nor compacting breaks off.

* `run_rebuildsExactly`: this holds of the table in every state of a run.
-/

namespace OpenAddressing

/-! ### Levels of wanted rebuilds -/

theorem Resize.targetLevel_grow {level : Nat} (h : level < maxLevel) :
  grow.targetLevel level = .ok (level + 1)
  := by
  rw [maxLevel] at h
  apply if_pos
  omega

namespace Table

variable {K V : Type}

/-- The level is one that tables may have. -/
def IsAddressable (table : Table K V) : Prop :=
  table.load.level ≤ maxLevel

/-- An addressable table is halved by a rebuild one level below. -/
theorem IsAddressable.resize_shrink {table : Table K V} (h : table.IsAddressable) :
  table.resize (some .shrink) = table.rebuild (table.load.level - 1)
  := if_pos (Nat.le_trans (Nat.sub_le _ _) h)

variable [BEq K]

/-! ### Outcomes of rebuilds -/

/-- The rebuild moved all entries, each once, and left the tombstones behind. -/
structure Completes (hash : K → UInt64) (table : Table K V) (level : Nat)
    (outcome : Outcome (Table K V) Unit) : Prop where
  answer_eq : outcome.answer = .ok ()
  load_eq : outcome.state.load = ⟨level, table.load.floor, table.load.live, 0⟩
  entries_perm : outcome.state.entries.Perm table.entries
  distinctKeys_entries : DistinctKeys Entry.key outcome.state.entries
  wellFormed : outcome.state.WellFormed hash

/-- The rebuild moved the first entries only, one for each slot of the new level, and left the
tombstones behind. The other entries are lost. -/
structure BreaksOff (hash : K → UInt64) (table : Table K V) (level : Nat)
    (outcome : Outcome (Table K V) Unit) : Prop where
  answer_eq : outcome.answer = .error (.tableFull (2 ^ level) 0 (2 ^ level))
  load_eq : outcome.state.load = ⟨level, table.load.floor, 2 ^ level, 0⟩
  entries_perm : outcome.state.entries.Perm (table.entries.take (2 ^ level))
  wellFormed : outcome.state.WellFormed hash

/-- A rebuild of the table at any level breaks off just if there are more entries than slots. -/
structure RebuildsExactly (hash : K → UInt64) (table : Table K V) : Prop where
  error_iff : ∀ level, (∃ cause, (table.rebuild level).answer = .error cause)
    ↔ 2 ^ level < table.load.live
  completes : ∀ level, table.load.live ≤ 2 ^ level →
    table.Completes hash level (table.rebuild level)
  breaksOff : ∀ level, 2 ^ level < table.load.live →
    table.BreaksOff hash level (table.rebuild level)

namespace WellFormed

variable {table : Table K V} {hash : K → UInt64} [EquivBEq K] (h : table.WellFormed hash)
include h

theorem completes {level : Nat} (hroom : table.load.live ≤ 2 ^ level) :
  table.Completes hash level (table.rebuild level)
  := by
  have hrebuilt := h.rebuild level
  constructor
  case answer_eq => rw [hrebuilt.answer_eq, if_pos hroom]
  case load_eq => rw [hrebuilt.load_eq, Nat.min_eq_left hroom]
  case entries_perm =>
    rw [h.live_eq_length] at hroom
    have hperm := hrebuilt.entries_perm
    rw [List.take_of_length_le hroom] at hperm
    apply hperm
  case distinctKeys_entries => apply hrebuilt.wellFormed.distinctKeys_entries
  case wellFormed => apply hrebuilt.wellFormed

theorem breaksOff {level : Nat} (hroom : 2 ^ level < table.load.live) :
  table.BreaksOff hash level (table.rebuild level)
  := by
  have hrebuilt := h.rebuild level
  have hload : (table.rebuild level).state.load
      = ⟨level, table.load.floor, 2 ^ level, 0⟩ := by
    rw [hrebuilt.load_eq, Nat.min_eq_right hroom.le]
  constructor
  case answer_eq =>
    rw [hrebuilt.answer_eq, if_neg (Nat.not_le_of_lt hroom), full, hload]
    rfl
  case load_eq => apply hload
  case entries_perm => apply hrebuilt.entries_perm
  case wellFormed => apply hrebuilt.wellFormed

theorem rebuildsExactly :
  table.RebuildsExactly hash
  := by
  constructor
  case error_iff =>
    intro level
    constructor
    · rintro ⟨cause, herror⟩
      by_contra hroom
      rw [(h.completes (Nat.le_of_not_lt hroom)).answer_eq] at herror
      cases herror
    · intro hroom
      use .tableFull (2 ^ level) 0 (2 ^ level), (h.breaksOff hroom).answer_eq
  case completes =>
    intro level
    apply h.completes
  case breaksOff =>
    intro level
    apply h.breaksOff

/-! ### Wanted rebuilds -/

/-- The entries of a table fit into one that is twice as large. -/
theorem answer_resize_grow (hlevel : table.load.level < maxLevel) :
  (table.resize (some .grow)).answer = .ok ()
  := by
  have hused := h.used_le_capacity
  have hdouble := table.load.two_pow_level_add_one
  apply (h.resize_of_fits (Resize.targetLevel_grow hlevel) hlevel _).1
  rw [Load.used] at hused
  omega

/-- The entries of a table fit into one that is as large. -/
theorem answer_resize_compact (hlevel : table.IsAddressable) :
  (table.resize (some .compact)).answer = .ok ()
  := by
  apply (h.resize_of_fits rfl hlevel _).1
  apply Nat.le_trans (Nat.le_add_right _ _) h.used_le_capacity

/-- A rebuild only goes to levels that tables may have. -/
theorem isAddressable_resize (hlevel : table.IsAddressable) (wanted : Option Resize) :
  (table.resize wanted).state.IsAddressable
  := by
  rcases h.resize_cases wanted with ⟨-, hresize⟩ | ⟨cause, hresize⟩
    | ⟨_, level, -, -, hmax, hrebuilt⟩
  · rw [hresize]
    apply hlevel
  · rw [hresize]
    apply hlevel
  · rw [IsAddressable, hrebuilt.load_eq]
    apply hmax

end WellFormed

end Table

namespace Map

variable {K V P : Type} [BEq K] [SizingRule P] [EquivBEq K] {hash : K → UInt64}

/-- The mutations keep tables addressable, whatever the sizing rule wants. -/
theorem kept_isAddressable (hhash : HashCompatible hash) (floor : Nat) :
  Kept fun map : Map K V P => map.IsSound hash floor ∧ map.table.IsAddressable
  := by
  have hkept := kept_isSound (K := K) (V := V) (P := P) hhash floor
  constructor
  case insert =>
    rintro map key value ⟨h, hlevel⟩
    use hkept.insert map key value h
    rw [insert_eq, h.hash_eq]
    have hresized := h.table.wellFormed.isAddressable_resize hlevel
      (SizingRule.onInsert map.rule map.table.load).1
    apply Outcome.andThen_state_of hresized
    intro _ _
    rw [Table.IsAddressable, (h.table.resize _).wellFormed.level_insert hhash]
    apply hresized
  case erasePair =>
    rintro map key ⟨h, hlevel⟩
    use hkept.erasePair map key h
    rw [erasePair_eq, Outcome.within_state, Outcome.map_state, h.hash_eq]
    have hresized := h.table.wellFormed.isAddressable_resize hlevel
      (SizingRule.onErase map.rule map.table.load).1
    apply Outcome.andThen_state_of hresized
    intro _ _
    rw [Table.IsAddressable, (h.table.resize _).wellFormed.level_erase hhash]
    apply hresized
  case modify =>
    rintro map key f ⟨h, hlevel⟩
    use hkept.modify map key f h
    change (map.table.modify (map.hash key) key f).1.IsAddressable
    rw [Table.IsAddressable, Table.load_modify]
    apply hlevel
  case mapValues =>
    rintro map f ⟨h, hlevel⟩
    exact ⟨hkept.mapValues map f h, hlevel⟩
  case clear =>
    rintro map ⟨h, hlevel⟩
    exact ⟨hkept.clear map h, hlevel⟩

omit [BEq K] [EquivBEq K] in
theorem isAddressable_of_ofCapacity {memory : Memory} {capacity : Nat} {rule : P}
    {start : Map K V P} (hstart : ofCapacity memory capacity hash rule = .ok start) :
  start.table.IsAddressable
  := by
  obtain ⟨level, -, hlevel, rfl⟩ := eq_of_ofCapacity hstart
  apply hlevel

/-- In every state of a run, the states that faults leave behind included, a rebuild of the
table breaks off just if there are more entries than slots at the new level. Otherwise it moves
all entries, and if it breaks off, the first of them, one for each slot. So a table that may
still grow does not break off when it grows, and no table does when it is compacted. It does when
it is halved just if half of its slots are too few. -/
theorem run_rebuildsExactly {memory : Memory} {capacity : Nat} {rule : P} {start : Map K V P}
    (hhash : HashCompatible hash) (hstart : ofCapacity memory capacity hash rule = .ok start)
    (ops : List (Op K V)) :
  let table := (start.run ops).1.table
  table.RebuildsExactly hash
    ∧ (table.load.level < maxLevel → (table.resize (some .grow)).answer = .ok ())
    ∧ (table.resize (some .compact)).answer = .ok ()
    ∧ ((∃ cause, (table.resize (some .shrink)).answer = .error cause)
      ↔ 2 ^ (table.load.level - 1) < table.load.live)
  := by
  intro table
  obtain ⟨hsound, hlevel⟩ := (kept_isAddressable hhash start.table.load.level).run ops
    ⟨isSound_of_ofCapacity hstart, isAddressable_of_ofCapacity hstart⟩
  have hwell : table.WellFormed hash := hsound.table.wellFormed
  have hexactly := hwell.rebuildsExactly
  use hexactly
  use hwell.answer_resize_grow
  use hwell.answer_resize_compact hlevel
  rw [hlevel.resize_shrink]
  apply hexactly.error_iff

/-- The fourth insertion has a table of four slots halved, and breaks off when the third entry
finds no slot. The table it leaves behind is full and may grow, but is not to be halved again. -/
theorem run_rebuildsExactly_of_faults :
  let hash := (Hashing.constant 3).hashValue
  let script : Script := ⟨some 2, [none, none, none, some .shrink], [], 0, 0⟩
  let start : Map Value Nat Script := ⟨hash, script, .blank 2⟩
  let ops := [.insert .null 1, .insert (.boolean true) 2, .insert (.boolean false) 3,
    .insert .null 4]
  let table := (start.run ops).1.table
  ofCapacity ⟨40, fun _ => true⟩ 0 hash script = .ok start
    ∧ table.load = ⟨1, 2, 2, 0⟩
    ∧ (table.resize (some .shrink)).answer = .error (.tableFull 1 0 1)
    ∧ table.RebuildsExactly hash
    ∧ (table.load.level < maxLevel → (table.resize (some .grow)).answer = .ok ())
    ∧ (table.resize (some .compact)).answer = .ok ()
    ∧ ((∃ cause, (table.resize (some .shrink)).answer = .error cause)
      ↔ 2 ^ (table.load.level - 1) < table.load.live)
  := by
  have hstart : ofCapacity ⟨40, fun _ => true⟩ 0 (Hashing.constant 3).hashValue
      (⟨some 2, [none, none, none, some .shrink], [], 0, 0⟩ : Script)
      = .ok (⟨_, _, .blank 2⟩ : Map Value Nat Script) := rfl
  exact ⟨hstart, rfl, rfl,
    run_rebuildsExactly (Hashing.constant 3).hashCompatible hstart _⟩

end Map

end OpenAddressing
