import OpenAddressing.Proofs.Map.WellFormed
import OpenAddressing.Proofs.Sizing.LoadFactor

/-!
# Tables under a load factor rule have room

Under a load factor rule a table always has an empty slot: an insertion is made only where it
leaves one, and neither a removal nor a rebuild uses the last one up. So every call of a run
answers, unless a table of the largest level would have to grow.
-/

namespace OpenAddressing

/-! ### Tables with room -/

namespace Table

variable {K V : Type}

/-- Not every slot is in use, and the level is one that tables may have. -/
structure HasRoom (table : Table K V) : Prop where
  used_lt : table.load.used < table.load.capacity
  level_le : table.load.level ≤ maxLevel

/-- Some slot is empty, and the load says so. -/
structure HasEmptySlot (table : Table K V) : Prop where
  /-- There are as many slots as the load says, and no search leaves them. -/
  size_slots : table.slots.size = table.load.capacity
  positions_lt : ∀ hash, ∀ i ∈ (table.probe hash).positions, i < table.slots.size
  used_lt : table.load.used < table.load.capacity
  exists_empty : ∃ i < table.slots.size, table.slotAt i = .empty

namespace WellFormed

variable [BEq K] {table : Table K V} {hash : K → UInt64} (h : table.WellFormed hash)
include h

theorem hasEmptySlot (hused : table.load.used < table.load.capacity) :
  table.HasEmptySlot
  := by
  constructor
  case size_slots => apply h.size_slots
  case positions_lt =>
    intro khash i hi
    apply h.lt_size (mem_positions_probe.mp hi)
  case used_lt => apply hused
  case exists_empty =>
    rw [h.size_slots]
    apply h.exists_empty hused

variable [EquivBEq K] (hhash : HashCompatible hash)
include hhash

/-- While there are two empty slots, an insertion answers and leaves one of them. -/
theorem insert_of_room (hused : table.load.used + 1 < table.load.capacity)
    (hlevel : table.load.level ≤ maxLevel) (key : K) (value : V) :
  (∃ old, (table.insert (hash key) key value).answer = .ok old)
    ∧ (table.insert (hash key) key value).state.HasRoom
  := by
  rcases h.insert_cases hhash key value with ⟨i, entry, -, -, hinsert⟩
    | ⟨i, tombstone, -, -, -, hinsert⟩ | ⟨hfull, -, -⟩
  · rw [hinsert]
    exact ⟨⟨_, rfl⟩, Nat.lt_of_succ_lt hused, hlevel⟩
  · rw [hinsert]
    use ⟨_, rfl⟩
    constructor
    case used_lt => apply Nat.lt_of_le_of_lt (Load.used_filled_le _ _) hused
    case level_le => apply hlevel
  · omega

/-- A removal answers and leaves as many slots in use as there were. -/
theorem erase_of_room (hroom : table.HasRoom) (key : K) :
  (∃ removed, (table.erase (hash key) key).answer = .ok removed)
    ∧ (table.erase (hash key) key).state.HasRoom
  := by
  rcases h.erase_cases hhash key with ⟨i, entry, hslot, -, herase⟩ | ⟨-, herase⟩
  · rw [herase]
    use ⟨_, rfl⟩
    constructor
    case used_lt =>
      change table.load.vacated.used < table.load.capacity
      rw [Load.used_vacated (h.live_pos hslot)]
      apply hroom.used_lt
    case level_le => apply hroom.level_le
  · rw [herase]
    exact ⟨⟨_, rfl⟩, hroom⟩

theorem modify_of_room (hroom : table.HasRoom) (key : K) (f : V → V) :
  (table.modify (hash key) key f).1.HasRoom
  := by
  rcases h.modify_cases hhash key f with ⟨i, entry, -, -, hmodify⟩ | ⟨-, hmodify⟩
  · rw [hmodify]
    exact ⟨hroom.used_lt, hroom.level_le⟩
  · rw [hmodify]
    apply hroom

end WellFormed

end Table

namespace Map

/-! ### The insertions of a run -/

section Insertions

variable {K V P : Type} [BEq K] [SizingRule P]

/-- The table is to grow, and is as large as tables get. -/
def Outgrown (map : Map K V P) : Prop :=
  (SizingRule.onInsert map.rule map.table.load).1 = some .grow
    ∧ map.table.load.level = maxLevel

instance (map : Map K V P) : Decidable map.Outgrown :=
  inferInstanceAs (Decidable (_ ∧ _))

/-- The maps that entries are inserted into one after the other, up to the first fault. -/
def insertionsOfMany : List (K × V) → Map K V P → List (Map K V P)
  | [], _ => []
  | (key, value) :: pairs, map =>
    let outcome := map.insert key value
    match outcome.answer with
    | .ok _ => map :: insertionsOfMany pairs outcome.state
    | .error _ => [map]

/-- The maps that the insertions of a call are made into. -/
def insertionsOf (map : Map K V P) : Op K V → List (Map K V P)
  | .insert _ _ => [map]
  | .insertMany pairs => insertionsOfMany pairs map
  | _ => []

/-- The maps that the insertions of a run are made into. -/
def insertions : List (Op K V) → Map K V P → List (Map K V P)
  | [], _ => []
  | op :: ops, map => map.insertionsOf op ++ insertions ops (map.exec op).state

theorem mem_insertionsOfMany_self (map : Map K V P) (pair : K × V) (pairs : List (K × V)) :
  map ∈ map.insertionsOfMany (pair :: pairs)
  := by
  rw [insertionsOfMany]
  split
  · apply List.mem_cons_self
  · apply List.mem_singleton_self

/-- After an answer come the maps that the other entries are inserted into. -/
theorem mem_insertionsOfMany_of_ok {map other : Map K V P} {pair : K × V} {pairs : List (K × V)}
    {old : Option V} (hold : (map.insert pair.1 pair.2).answer = .ok old)
    (hother : other ∈ (map.insert pair.1 pair.2).state.insertionsOfMany pairs) :
  other ∈ map.insertionsOfMany (pair :: pairs)
  := by
  rw [insertionsOfMany]
  simp only [hold]
  apply List.mem_cons_of_mem _ hother

theorem Kept.insertionsOfMany {Inv : Map K V P → Prop} (hkept : Kept Inv)
    (pairs : List (K × V)) {start : Map K V P} (h : Inv start) :
  ∀ map ∈ start.insertionsOfMany pairs, Inv map
  := by
  induction pairs generalizing start with
  | nil =>
      intro map hmap
      cases hmap
  | cons pair pairs ih =>
      intro map hmap
      rw [Map.insertionsOfMany] at hmap
      split at hmap
      next =>
        rcases List.mem_cons.mp hmap with rfl | hmap
        · apply h
        · apply ih (hkept.insert start pair.1 pair.2 h) map hmap
      next =>
        rw [List.mem_singleton.mp hmap]
        apply h

/-- What mutations keep holds of every map that an insertion of a run is made into. -/
theorem Kept.insertions {Inv : Map K V P → Prop} (hkept : Kept Inv) (ops : List (Op K V))
    {start : Map K V P} (h : Inv start) :
  ∀ map ∈ start.insertions ops, Inv map
  := by
  induction ops generalizing start with
  | nil =>
      intro map hmap
      cases hmap
  | cons op ops ih =>
      intro map hmap
      rcases List.mem_append.mp hmap with hmap | hmap
      · cases op with
        | insert key value =>
            rw [List.mem_singleton.mp hmap]
            apply h
        | insertMany pairs => apply hkept.insertionsOfMany pairs h map hmap
        | _ => cases hmap
      · apply ih (hkept.exec op h) map hmap

end Insertions

/-! ### Maps with room -/

variable {K V : Type} [BEq K] {hash : K → UInt64} {floor : Nat} {map : Map K V LoadFactor}

omit [BEq K] in
theorem beforeInsert_eq (map : Map K V LoadFactor) :
  map.beforeInsert = map.table.resize (map.rule.onInsert map.table.load)
  := rfl

omit [BEq K] in
theorem beforeErase_eq (map : Map K V LoadFactor) :
  map.beforeErase = map.table.resize (map.rule.onErase map.table.load)
  := rfl

/-- The map is sound, and not every slot of its table is in use. -/
structure IsRoomy (hash : K → UInt64) (floor : Nat) (map : Map K V LoadFactor) : Prop where
  sound : map.IsSound hash floor
  room : map.table.HasRoom

namespace IsRoomy

variable [EquivBEq K] (h : map.IsRoomy hash floor)
include h

/-- An insertion is made into a table with two empty slots, unless the table has outgrown all
levels. -/
theorem beforeInsert_cases :
  (map.Outgrown ∧ map.beforeInsert = .fault map.table .capacityOverflow)
    ∨ (map.beforeInsert.answer = .ok ()
      ∧ map.beforeInsert.state.load.used + 1 < map.beforeInsert.state.load.capacity
      ∧ map.beforeInsert.state.load.level ≤ maxLevel)
  := by
  rw [beforeInsert_eq]
  cases hwanted : map.rule.onInsert map.table.load with
  | none =>
      right
      use rfl
      use LoadFactor.used_add_one_lt_of_onInsert_eq_none hwanted
      apply h.room.level_le
  | some resize =>
      obtain ⟨level, htarget, hlive, hlevel | ⟨rfl, hmax⟩⟩ :=
        LoadFactor.targetLevel_of_onInsert h.room.used_lt h.room.level_le hwanted
      · obtain ⟨hanswer, hload⟩ :=
          h.sound.table.wellFormed.resize_of_fits htarget hlevel (by omega)
        right
        use hanswer
        rw [hload, Load.used_rebuilt, Load.capacity_rebuilt]
        exact ⟨hlive, hlevel⟩
      · left
        use ⟨hwanted, hmax⟩
        rw [Table.resize, hmax]
        rfl

/-- A removal is made from a table with room. -/
theorem beforeErase_of_room :
  map.beforeErase.answer = .ok () ∧ map.beforeErase.state.HasRoom
  := by
  rw [beforeErase_eq]
  cases hwanted : map.rule.onErase map.table.load with
  | none => exact ⟨rfl, h.room⟩
  | some resize =>
      obtain ⟨level, htarget, hlevel, hlive⟩ :=
        LoadFactor.targetLevel_of_onErase h.room.used_lt hwanted
      have hmax := Nat.le_trans hlevel h.room.level_le
      obtain ⟨hanswer, hload⟩ := h.sound.table.wellFormed.resize_of_fits htarget hmax hlive.le
      use hanswer
      constructor
      case used_lt =>
        rw [hload, Load.used_rebuilt, Load.capacity_rebuilt]
        apply hlive
      case level_le =>
        rw [hload]
        apply hmax

variable (hhash : HashCompatible hash)
include hhash

theorem insert_of_room (key : K) (value : V) :
  (¬map.Outgrown → ∃ old, (map.insert key value).answer = .ok old)
    ∧ (map.insert key value).state.table.HasRoom
  := by
  rw [insert_eq, Outcome.within_state, Outcome.within_answer, h.sound.hash_eq]
  rcases h.beforeInsert_cases with ⟨hgrown, hbefore⟩ | ⟨hanswer, hused, hlevel⟩
  · rw [hbefore]
    exact ⟨fun hnot => absurd hgrown hnot, h.room⟩
  · rw [Outcome.andThen_of_ok hanswer]
    have hsound := h.sound.table.resize (map.rule.onInsert map.table.load)
    obtain ⟨hold, hroom⟩ := hsound.wellFormed.insert_of_room hhash hused hlevel key value
    exact ⟨fun _ => hold, hroom⟩

theorem erasePair_of_room (key : K) :
  (∃ removed, (map.erasePair key).answer = .ok removed)
    ∧ (map.erasePair key).state.table.HasRoom
  := by
  rw [erasePair_eq, Outcome.within_state, Outcome.within_answer, Outcome.map_state,
    Outcome.map_answer, h.sound.hash_eq]
  obtain ⟨hanswer, hroom⟩ := h.beforeErase_of_room
  rw [Outcome.andThen_of_ok hanswer]
  have hsound := h.sound.table.resize (map.rule.onErase map.table.load)
  obtain ⟨⟨removed, hremoved⟩, hroom⟩ := hsound.wellFormed.erase_of_room hhash hroom key
  rw [← beforeErase_eq] at hremoved
  constructor
  · use removed.map Entry.pair
    rw [hremoved]
    rfl
  · apply hroom

end IsRoomy

/-- The mutations keep maps roomy. -/
theorem kept_isRoomy [EquivBEq K] (hhash : HashCompatible hash) (floor : Nat) :
  Kept fun map : Map K V LoadFactor => map.IsRoomy hash floor
  := by
  have hsound := kept_isSound (K := K) (V := V) (P := LoadFactor) hhash floor
  constructor
  case insert =>
    intro map key value h
    exact ⟨hsound.insert map key value h.sound, (h.insert_of_room hhash key value).2⟩
  case erasePair =>
    intro map key h
    exact ⟨hsound.erasePair map key h.sound, (h.erasePair_of_room hhash key).2⟩
  case modify =>
    intro map key f h
    use hsound.modify map key f h.sound
    have hmodify := h.sound.table.wellFormed.modify_of_room hhash h.room key f
    rw [← h.sound.hash_eq] at hmodify
    apply hmodify
  case mapValues =>
    intro map f h
    exact ⟨hsound.mapValues map f h.sound, h.room.used_lt, h.room.level_le⟩
  case clear =>
    intro map h
    exact ⟨hsound.clear map h.sound, Load.capacity_pos _, h.room.level_le⟩

theorem isRoomy_of_ofCapacity {memory : Memory} {capacity : Nat} {rule : LoadFactor}
    {start : Map K V LoadFactor} (hstart : ofCapacity memory capacity hash rule = .ok start) :
  start.IsRoomy hash start.table.load.level
  := by
  use isSound_of_ofCapacity hstart
  obtain ⟨level, -, hlevel, rfl⟩ := eq_of_ofCapacity hstart
  exact ⟨Nat.two_pow_pos level, hlevel⟩

/-! ### Runs -/

variable [EquivBEq K]

theorem insertMany_answers (hhash : HashCompatible hash) (h : map.IsRoomy hash floor)
    (pairs : List (K × V)) (hgrown : ∀ m ∈ map.insertionsOfMany pairs, ¬m.Outgrown) :
  (map.insertMany pairs).answer = .ok ()
  := by
  induction pairs generalizing map with
  | nil => rfl
  | cons pair pairs ih =>
      obtain ⟨old, hold⟩ := (h.insert_of_room hhash pair.1 pair.2).1
        (hgrown map (mem_insertionsOfMany_self map pair pairs))
      rw [insertMany, Outcome.andThen_of_ok hold]
      apply ih ((kept_isRoomy hhash floor).insert map pair.1 pair.2 h)
      intro m hm
      apply hgrown m (mem_insertionsOfMany_of_ok hold hm)

/-- One call answers, unless one of its insertions finds the table outgrown. -/
theorem exec_answers (hhash : HashCompatible hash) (h : map.IsRoomy hash floor) (op : Op K V)
    (hgrown : ∀ m ∈ map.insertionsOf op, ¬m.Outgrown) :
  ∃ reply, (map.exec op).answer = .ok reply
  := by
  cases op with
  | insert key value =>
      obtain ⟨old, hold⟩ := (h.insert_of_room hhash key value).1
        (hgrown map (List.mem_singleton_self map))
      use .value? old
      rw [exec, Outcome.map_answer, hold]
      rfl
  | insertMany pairs =>
      use .done
      rw [exec, Outcome.map_answer, insertMany_answers hhash h pairs hgrown]
      rfl
  | erase key =>
      obtain ⟨removed, hremoved⟩ := (h.erasePair_of_room hhash key).1
      use .value? (removed.map Prod.snd)
      rw [exec, Outcome.map_answer, erase, Outcome.map_answer, hremoved]
      rfl
  | erasePair key =>
      obtain ⟨removed, hremoved⟩ := (h.erasePair_of_room hhash key).1
      use .pair? removed
      rw [exec, Outcome.map_answer, hremoved]
      rfl
  | _ => exact ⟨_, rfl⟩

theorem run_answers (hhash : HashCompatible hash) (h : map.IsRoomy hash floor)
    (ops : List (Op K V)) (hgrown : ∀ m ∈ map.insertions ops, ¬m.Outgrown) :
  ∀ answer ∈ (map.run ops).2, ∃ reply, answer = .ok reply
  := by
  induction ops generalizing map with
  | nil =>
      intro answer hanswer
      cases hanswer
  | cons op ops ih =>
      intro answer hanswer
      rcases List.mem_cons.mp hanswer with rfl | hanswer
      · apply exec_answers hhash h op
        intro m hm
        apply hgrown m (List.mem_append_left _ hm)
      · apply ih ((kept_isRoomy hhash floor).exec op h) _ answer hanswer
        intro m hm
        apply hgrown m (List.mem_append_right _ hm)

/-- A table under a load factor rule never fills up. As long as no table of the largest level
is to grow, every call of a run answers. After every call some slot is empty, and so it is in
the table that an insertion is made into, and all slots that are tried are slots of the table. -/
theorem run_loadFactor {memory : Memory} {capacity : Nat} {rule : LoadFactor}
    {start : Map K V LoadFactor} (hhash : HashCompatible hash)
    (hstart : ofCapacity memory capacity hash rule = .ok start) (ops : List (Op K V))
    (hgrown : ∀ map ∈ start.insertions ops, ¬map.Outgrown) :
  (∀ answer ∈ (start.run ops).2, ∃ reply, answer = .ok reply)
    ∧ (∀ n, (start.run (ops.take n)).1.table.HasEmptySlot)
    ∧ (∀ map ∈ start.insertions ops, map.beforeInsert.answer = .ok ()
      ∧ map.beforeInsert.state.HasEmptySlot)
  := by
  have hkept := kept_isRoomy (V := V) hhash start.table.load.level
  have hroomy := isRoomy_of_ofCapacity hstart
  refine ⟨run_answers hhash hroomy ops hgrown, ?_, ?_⟩
  · intro n
    have hlast := hkept.run (ops.take n) hroomy
    apply hlast.sound.table.wellFormed.hasEmptySlot hlast.room.used_lt
  · intro map hmap
    have h := hkept.insertions ops hroomy map hmap
    rcases h.beforeInsert_cases with ⟨houtgrown, -⟩ | ⟨hanswer, hused, -⟩
    · apply absurd houtgrown (hgrown map hmap)
    · have hsound := h.sound.table.resize (map.rule.onInsert map.table.load)
      exact ⟨hanswer, hsound.wellFormed.hasEmptySlot (Nat.lt_of_succ_lt hused)⟩

/-- A table of one slot that is to be used to one percent is doubled with every insertion. -/
theorem run_loadFactor_of_one_percent :
  let hash := (Hashing.constant 3).hashValue
  let rule : LoadFactor := { maxLoad := 1, minLoad := 0, minLevel := 0 }
  let start : Map Value Nat LoadFactor := ⟨hash, rule, .blank 0⟩
  let ops := [.insert .null 1, .erase .null, .insertMany [(.boolean true, 2), (.null, 3)]]
  ofCapacity ⟨40, fun _ => true⟩ 0 hash rule = .ok start
    ∧ (start.insertions ops).length = 3 ∧ (∀ map ∈ start.insertions ops, ¬map.Outgrown)
    ∧ (∀ answer ∈ (start.run ops).2, ∃ reply, answer = .ok reply)
    ∧ (∀ n, (start.run (ops.take n)).1.table.HasEmptySlot)
    ∧ (∀ map ∈ start.insertions ops, map.beforeInsert.answer = .ok ()
      ∧ map.beforeInsert.state.HasEmptySlot)
  := by
  have hstart : ofCapacity ⟨40, fun _ => true⟩ 0 (Hashing.constant 3).hashValue
      ({ maxLoad := 1, minLoad := 0, minLevel := 0 } : LoadFactor)
      = .ok (⟨_, _, .blank 0⟩ : Map Value Nat LoadFactor) := rfl
  exact ⟨hstart, rfl, by decide,
    run_loadFactor (Hashing.constant 3).hashCompatible hstart _ (by decide)⟩

end Map

end OpenAddressing
