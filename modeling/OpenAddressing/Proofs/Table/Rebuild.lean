import OpenAddressing.Proofs.Table.Mutation

/-!
# Rebuilding keeps the entries

A rebuild of a well-formed table puts its entries, in the order of the slots, into an empty one.
Every one of them finds an empty slot until there is none left, since a probe sequence visits
all slots; `Rebuilt` says what that comes to. A rebuild that is large enough keeps all entries.
One that is too small keeps as many as there are slots, and still leaves a well-formed table.
-/

namespace OpenAddressing

namespace Load

/-- The load after a completed rebuild at the given level. -/
def rebuilt (load : Load) (level : Nat) : Load :=
  { load with level := level, tombstones := 0 }

/-- The load once a wanted rebuild is completed. -/
def resized (load : Load) : Option Resize → Load
  | none => load
  | some .grow => load.rebuilt (load.level + 1)
  | some .shrink => load.rebuilt (load.level - 1)
  | some .compact => load.rebuilt load.level

@[simp]
theorem used_rebuilt (load : Load) (level : Nat) :
  (load.rebuilt level).used = load.live
  := rfl

@[simp]
theorem capacity_rebuilt (load : Load) (level : Nat) :
  (load.rebuilt level).capacity = 2 ^ level
  := rfl

@[simp]
theorem live_resized (load : Load) (wanted : Option Resize) :
  (load.resized wanted).live = load.live
  := by
  rcases wanted with _ | _ | _ | _ <;> rfl

theorem resized_of_targetLevel {load : Load} {resize : Resize} {level : Nat}
    (h : resize.targetLevel load.level = .ok level) :
  load.resized (some resize) = load.rebuilt level
  := by
  cases resize with
  | grow =>
      rw [Resize.targetLevel] at h
      split at h
      next =>
        cases h
        rfl
      next => cases h
  | shrink =>
      cases h
      rfl
  | compact =>
      cases h
      rfl

end Load

namespace Table

variable {K V : Type} [BEq K] {hash : K → UInt64} {table : Table K V}

/-! ### Reinserting one entry -/

/-- While a table without tombstones has room, a new entry takes an empty slot. -/
theorem WellFormed.reinsert_of_lt [EquivBEq K] (h : table.WellFormed hash)
    (htombstones : table.load.tombstones = 0) (hroom : table.load.live < table.load.capacity)
    {entry : Entry K V} (hentry : entry.hash = hash entry.key)
    (habsent : ∀ other ∈ table.entries, (other.key == entry.key) = false) :
  ∃ i, table.slotAt i = .empty ∧ table.Reaches entry.hash i
    ∧ table.reinsert entry
      = .ok (table.withSlot i (.occupied entry) (table.load.filled false)) ()
  := by
  cases hvacancy : table.vacancy? entry.hash with
  | none =>
      have hfull := h.used_eq_capacity fun i hi =>
        slotAt_ne_empty_of_vacancy?_eq_none hvacancy i (mem_positions_probe.mpr hi)
      rw [Load.used, htombstones] at hfull
      omega
  | some i =>
      obtain ⟨hslot, hreach⟩ := reaches_of_vacancy?_eq_some hvacancy
      use i, hslot, hreach
      rw [reinsert, hvacancy]
      simp only [(h.fill false hslot hentry hreach habsent).1]
      rfl

/-- A full table takes no entry. -/
theorem WellFormed.reinsert_of_eq (h : table.WellFormed hash)
    (hfull : table.load.live = table.load.capacity) (entry : Entry K V) :
  table.reinsert entry = .fault table table.full
  := by
  cases hvacancy : table.vacancy? entry.hash with
  | none => rw [reinsert, hvacancy]
  | some i =>
      obtain ⟨hslot, hreach⟩ := reaches_of_vacancy?_eq_some hvacancy
      have hroom := h.used_lt_capacity hreach.lt_capacity hslot
      rw [Load.used] at hroom
      omega

/-! ### Reinserting a list -/

/-- What is left when a list of entries has been put into a table: the first of them, as many
as there was room for. -/
structure Refilled (hash : K → UInt64) (table : Table K V) (entries : List (Entry K V))
    (outcome : Outcome (Table K V) Unit) : Prop where
  wellFormed : outcome.state.WellFormed hash
  load_eq : outcome.state.load = { table.load with
    live := min (table.load.live + entries.length) table.load.capacity }
  entries_perm : outcome.state.entries.Perm
    (table.entries ++ entries.take (table.load.capacity - table.load.live))
  rebuilds_eq : outcome.rebuilds = []
  answer_eq : outcome.answer = if table.load.live + entries.length ≤ table.load.capacity
    then .ok () else .error outcome.state.full

theorem WellFormed.reinsertAll [EquivBEq K] {entries : List (Entry K V)}
    (h : table.WellFormed hash) (htombstones : table.load.tombstones = 0)
    (hentries : ∀ entry ∈ entries, entry.hash = hash entry.key)
    (hdistinct : DistinctKeys Entry.key (table.entries ++ entries)) :
  Refilled hash table entries (reinsertAll entries table)
  := by
  have hle : table.load.live ≤ table.load.capacity := by
    have hused := h.used_le_capacity
    rw [Load.used] at hused
    omega
  induction entries generalizing table with
  | nil =>
      constructor
      case wellFormed => apply h
      case load_eq => simp [Table.reinsertAll, Outcome.ok, hle]
      case entries_perm => simp [Table.reinsertAll, Outcome.ok]
      case rebuilds_eq => rfl
      case answer_eq => simp [Table.reinsertAll, Outcome.ok, hle]
  | cons entry entries ih =>
      have hentry := hentries entry List.mem_cons_self
      have habsent : ∀ other ∈ table.entries, (other.key == entry.key) = false := by
        intro other hother
        apply (List.pairwise_append.mp hdistinct).2.2 other hother entry List.mem_cons_self
      rcases Nat.lt_or_eq_of_le hle with hroom | hfull
      · obtain ⟨i, hslot, hreach, hreinsert⟩ :=
          h.reinsert_of_lt htombstones hroom hentry habsent
        rw [Table.reinsertAll, hreinsert, Outcome.ok_andThen]
        have hperm := entries_fill_perm (h.lt_size hreach.lt_capacity) (by rw [hslot]; rfl) entry
          (table.load.filled false)
        obtain ⟨_, hfilled⟩ := h.fill false hslot hentry hreach habsent
        have hstep := ih hfilled htombstones
          (fun other hother => hentries other (List.mem_cons_of_mem entry hother))
          (hdistinct.perm (by
            rw [List.append_cons]
            apply List.Perm.append_right
            apply hperm.symm))
          hroom
        have htake : (entry :: entries).take (table.load.capacity - table.load.live)
            = entry :: entries.take (table.load.capacity - (table.load.live + 1)) := by
          rw [show table.load.capacity - table.load.live
            = table.load.capacity - (table.load.live + 1) + 1 by omega, List.take_succ_cons]
        constructor
        case wellFormed => apply hstep.wellFormed
        case load_eq =>
          rw [hstep.load_eq]
          simp only [withSlot_load, Load.filled, Load.capacity, List.length_cons, Bool.toNat_false,
            Nat.sub_zero, Load.mk.injEq, true_and, and_true]
          congr 1
          omega
        case entries_perm =>
          rw [htake, List.append_cons]
          apply hstep.entries_perm.trans
          apply List.Perm.append_right
          apply hperm
        case rebuilds_eq => apply hstep.rebuilds_eq
        case answer_eq =>
          rw [hstep.answer_eq]
          congr 1
          simp only [withSlot_load, Load.filled, Load.capacity, List.length_cons, eq_iff_iff]
          omega
      · rw [Table.reinsertAll, h.reinsert_of_eq hfull, Outcome.fault_andThen]
        constructor
        case wellFormed => apply h
        case load_eq =>
          rw [Nat.min_eq_right (by omega), ← hfull]
          rfl
        case entries_perm =>
          rw [hfull, Nat.sub_self, List.take_zero, List.append_nil]
          rfl
        case rebuilds_eq => rfl
        case answer_eq =>
          rw [if_neg (by rw [List.length_cons]; omega)]
          rfl

/-! ### Rebuilding -/

/-- What a rebuild leaves behind: all entries if the new table is large enough, and else the
first of them, one for each slot. -/
structure Rebuilt (hash : K → UInt64) (table : Table K V) (level : Nat)
    (outcome : Outcome (Table K V) Unit) : Prop where
  wellFormed : outcome.state.WellFormed hash
  load_eq : outcome.state.load = { table.load with
    level := level, live := min table.load.live (2 ^ level), tombstones := 0 }
  entries_perm : outcome.state.entries.Perm (table.entries.take (2 ^ level))
  rebuilds_eq : outcome.rebuilds = if table.load.live ≤ 2 ^ level
    then [⟨table.load.level, level, table.load.live, table.load.tombstones⟩] else []
  answer_eq : outcome.answer = if table.load.live ≤ 2 ^ level
    then .ok () else .error outcome.state.full

omit [BEq K] in
theorem entries_restart (table : Table K V) (level : Nat) :
  (table.restart level).entries = []
  := entries_of_slots_empty fun _ hslot => Array.eq_of_mem_replicate hslot

theorem WellFormed.restart (table : Table K V) (level : Nat) :
  (table.restart level).WellFormed hash
  := by
  apply of_slots_empty rfl rfl Array.size_replicate
  intro slot hslot
  apply Array.eq_of_mem_replicate hslot

theorem WellFormed.hash_eq_of_mem (h : table.WellFormed hash) :
  ∀ entry ∈ table.entries, entry.hash = hash entry.key
  := by
  intro entry hentry
  obtain ⟨i, hslot⟩ := mem_entries.mp hentry
  apply h.hash_eq i entry hslot

/-- The entries of a table are put into the empty one one after the other. -/
theorem WellFormed.reinsertAll_restart [EquivBEq K] (h : table.WellFormed hash) (level : Nat) :
  Refilled hash (table.restart level) table.entries
    (Table.reinsertAll table.entries (table.restart level))
  := by
  apply (WellFormed.restart table level).reinsertAll rfl h.hash_eq_of_mem
  rw [entries_restart]
  apply h.distinctKeys_entries

theorem WellFormed.rebuild [EquivBEq K] (h : table.WellFormed hash) (level : Nat) :
  Rebuilt hash table level (table.rebuild level)
  := by
  have hrefilled := h.reinsertAll_restart level
  rw [Table.rebuild]
  generalize Table.reinsertAll table.entries (table.restart level) = outcome at hrefilled ⊢
  have hload := hrefilled.load_eq
  have hperm := hrefilled.entries_perm
  have hanswer := hrefilled.answer_eq
  rw [← h.live_eq_length] at hload hanswer
  rw [entries_restart, List.nil_append] at hperm
  simp only [Table.restart, Load.restart, Load.capacity, Nat.zero_add, Nat.sub_zero]
    at hload hperm hanswer
  by_cases hroom : table.load.live ≤ 2 ^ level
  · rw [if_pos hroom] at hanswer
    rw [Outcome.andThen_of_ok hanswer]
    constructor
    case wellFormed => apply hrefilled.wellFormed
    case load_eq => apply hload
    case entries_perm => apply hperm
    case rebuilds_eq =>
      rw [hrefilled.rebuilds_eq, if_pos hroom, hload, Nat.min_eq_left hroom]
      rfl
    case answer_eq => rw [if_pos hroom]
  · rw [if_neg hroom] at hanswer
    rw [Outcome.andThen_of_error hanswer]
    constructor
    case wellFormed => apply hrefilled.wellFormed
    case load_eq => apply hload
    case entries_perm => apply hperm
    case rebuilds_eq => rw [hrefilled.rebuilds_eq, if_neg hroom]
    case answer_eq => rw [if_neg hroom]

/-! ### Resizing -/

/-- A resize changes nothing, or is refused because the table would be too large, or is a
rebuild at a level that tables may have. -/
theorem WellFormed.resize_cases [EquivBEq K] (h : table.WellFormed hash)
    (wanted : Option Resize) :
  (wanted = none ∧ table.resize wanted = .ok table ())
    ∨ (∃ cause, table.resize wanted = .fault table cause)
    ∨ (∃ resize level, wanted = some resize
      ∧ resize.targetLevel table.load.level = .ok level ∧ level ≤ maxLevel
      ∧ Rebuilt hash table level (table.resize wanted))
  := by
  cases wanted with
  | none =>
      left
      exact ⟨rfl, rfl⟩
  | some resize =>
      right
      cases htarget : resize.targetLevel table.load.level with
      | error cause =>
          left
          use cause
          rw [Table.resize, htarget]
      | ok level =>
          rw [Table.resize, htarget]
          by_cases hlevel : level ≤ maxLevel
          · right
            use resize, level, rfl, htarget, hlevel
            simp only [if_pos hlevel]
            apply h.rebuild
          · left
            use .capacityOverflow
            simp only [if_neg hlevel]

/-- A rebuild at a level that tables may have is completed if the entries fit. -/
theorem WellFormed.resize_of_fits [EquivBEq K] (h : table.WellFormed hash) {resize : Resize}
    {level : Nat} (htarget : resize.targetLevel table.load.level = .ok level)
    (hlevel : level ≤ maxLevel) (hlive : table.load.live ≤ 2 ^ level) :
  (table.resize (some resize)).answer = .ok ()
    ∧ (table.resize (some resize)).state.load = table.load.rebuilt level
  := by
  have hrebuilt := h.rebuild level
  rw [Table.resize, htarget]
  simp only [if_pos hlevel]
  constructor
  · rw [hrebuilt.answer_eq, if_pos hlive]
  · rw [hrebuilt.load_eq, Nat.min_eq_left hlive]
    rfl

theorem IsSound.resize [EquivBEq K] {floor : Nat} (h : table.IsSound hash floor)
    (wanted : Option Resize) :
  (table.resize wanted).state.IsSound hash floor
  := by
  rcases h.wellFormed.resize_cases wanted with ⟨-, hresize⟩ | ⟨cause, hresize⟩
    | ⟨_, level, -, -, -, hrebuilt⟩
  · rw [hresize]
    apply h
  · rw [hresize]
    apply h
  · use hrebuilt.wellFormed
    rw [hrebuilt.load_eq, h.floor_eq]

/-- A resize that answers keeps all entries. -/
theorem WellFormed.entries_resize_perm [EquivBEq K] (h : table.WellFormed hash)
    {wanted : Option Resize} (hanswer : (table.resize wanted).answer = .ok ()) :
  (table.resize wanted).state.entries.Perm table.entries
  := by
  rcases h.resize_cases wanted with ⟨-, hresize⟩ | ⟨cause, hresize⟩ | ⟨_, level, -, -, -, hrebuilt⟩
  · rw [hresize]
    rfl
  · rw [hresize] at hanswer
    cases hanswer
  · rw [hrebuilt.answer_eq] at hanswer
    split at hanswer
    next hroom =>
      have hperm := hrebuilt.entries_perm
      rw [List.take_of_length_le (by rw [← h.live_eq_length]; apply hroom)] at hperm
      apply hperm
    next => cases hanswer

/-- A resize that answers is the rebuild that was wanted. -/
theorem WellFormed.load_resize [EquivBEq K] (h : table.WellFormed hash) {wanted : Option Resize}
    (hanswer : (table.resize wanted).answer = .ok ()) :
  (table.resize wanted).state.load = table.load.resized wanted
  := by
  rcases h.resize_cases wanted with ⟨rfl, -⟩ | ⟨cause, hresize⟩
    | ⟨resize, level, rfl, htarget, -, hrebuilt⟩
  · rfl
  · rw [hresize] at hanswer
    cases hanswer
  · rw [hrebuilt.answer_eq] at hanswer
    split at hanswer
    next hroom =>
      rw [hrebuilt.load_eq, Nat.min_eq_left hroom, Load.resized_of_targetLevel htarget]
      rfl
    next => cases hanswer

/-- If a resize answers and reports no rebuild, then none was wanted. -/
theorem WellFormed.eq_none_of_resize [EquivBEq K] (h : table.WellFormed hash)
    {wanted : Option Resize} (hanswer : (table.resize wanted).answer = .ok ())
    (hrebuilds : (table.resize wanted).rebuilds = []) :
  wanted = none
  := by
  rcases h.resize_cases wanted with ⟨hnone, -⟩ | ⟨cause, hresize⟩
    | ⟨resize, level, -, -, -, hrebuilt⟩
  · apply hnone
  · rw [hresize] at hanswer
    cases hanswer
  · rw [hrebuilt.answer_eq] at hanswer
    rw [hrebuilt.rebuilds_eq] at hrebuilds
    split at hrebuilds
    · cases hrebuilds
    · rw [if_neg ‹_›] at hanswer
      cases hanswer

end Table

end OpenAddressing
