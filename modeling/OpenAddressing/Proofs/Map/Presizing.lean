import OpenAddressing.Proofs.Map.Filling
import OpenAddressing.Proofs.Map.LoadRun

/-!
# Maps made for a number of entries

A map under a load factor rule may be made for some number of entries. As many keys may then be put
without a single rebuild, new ones and old ones alike, and however the map is used, its table never
gets too small for that number.

* `run_presized`: the level stays at or above that of creation, at which the requested entries are
  within the maximal load, and as long as no more keys are put than requested and none is removed,
  no rebuild is made.
-/

namespace OpenAddressing

namespace Map

variable {K V : Type} [BEq K] [EquivBEq K] {hash : K → UInt64} {memory : Memory} {capacity : Nat}
  {rule : LoadFactor} {start : Map K V LoadFactor}

/-! ### Room for keys -/

/-- The map is at the level it was created at, and the table has room for the keys. -/
structure HasRoomFor (hash : K → UInt64) (floor : Nat) (rule : LoadFactor) (keys : List K)
    (map : Map K V LoadFactor) : Prop where
  roomy : map.IsRoomy hash floor
  rule_eq : map.rule = rule
  level_eq : map.table.load.level = floor
  room : rule.HasRoomFor keys.length map.table.load

namespace HasRoomFor

variable {floor : Nat} {map : Map K V LoadFactor} {key : K} {keys : List K}

omit [EquivBEq K] in
theorem onInsert_eq_none (h : map.HasRoomFor hash floor rule (key :: keys)) :
  map.rule.onInsert map.table.load = none
  := by
  rw [h.rule_eq]
  apply h.room.onInsert_eq_none

omit [EquivBEq K] in
theorem staysPut (h : map.HasRoomFor hash floor rule (key :: keys)) :
  map.table.StaysPut map.beforeInsert
  := Table.staysPut_of_eq_none _ h.onInsert_eq_none

theorem insert (hhash : HashCompatible hash) (h : map.HasRoomFor hash floor rule (key :: keys))
    (value : V) :
  (∃ old, (map.insert key value).answer = .ok old)
    ∧ (map.insert key value).state.HasRoomFor hash floor rule keys
  := by
  constructor
  · apply (h.roomy.insert_of_room hhash key value).1
    rintro ⟨hgrow, -⟩
    cases h.onInsert_eq_none.symm.trans hgrow
  · have hinsertion := h.roomy.insertion hhash key value
    rw [h.rule_eq] at hinsertion
    obtain ⟨hlevel, hroom⟩ := hinsertion.hasRoomFor h.room
    constructor
    case roomy => apply (kept_isRoomy hhash floor).insert map key value h.roomy
    case rule_eq => apply (kept_rule rule).insert map key value h.rule_eq
    case level_eq => rw [hlevel, h.level_eq]
    case room => apply hroom

end HasRoomFor

theorem fills_hasRoomFor (hhash : HashCompatible hash) (floor : Nat) (rule : LoadFactor) :
  Fills fun keys (map : Map K V LoadFactor) => map.HasRoomFor hash floor rule keys
  := by
  constructor
  case insert =>
    intro map key keys value h
    apply h.insert hhash value
  case modify =>
    intro map keys key f h
    constructor
    case roomy => apply (kept_isRoomy hhash floor).modify map key f h.roomy
    case rule_eq => apply h.rule_eq
    case level_eq => rw [load_modify, h.level_eq]
    case room =>
      rw [load_modify]
      apply h.room
  case mapValues =>
    intro map keys f h
    exact ⟨(kept_isRoomy hhash floor).mapValues map f h.roomy, h.rule_eq, h.level_eq, h.room⟩

namespace HasRoomFor

variable {floor : Nat} {map : Map K V LoadFactor} {keys : List K} {ops : List (Op K V)}
  (hhash : HashCompatible hash) (hadds : ∀ op ∈ ops, op.isRemoval = false)
  (h : map.HasRoomFor hash floor rule (Op.putsOf ops ++ keys))
include hhash hadds h

/-- A run without removals leaves room for the keys that come after its own. -/
theorem run :
  (map.run ops).1.HasRoomFor hash floor rule keys
  := ((fills_hasRoomFor hhash floor rule).run hadds h).2

theorem runsInPlace :
  map.RunsInPlace ops
  := (fills_hasRoomFor hhash floor rule).runsInPlace staysPut hadds h

/-- A run that there is room for answers every call and has no rebuild made. -/
theorem runToFault_eq_ok :
  ∃ replies, map.runToFault ops = .ok (map.run ops).1 replies
  := by
  obtain ⟨replies, hreplies, hstate⟩ :=
    runToFault_of_answers ((fills_hasRoomFor hhash floor rule).run hadds h).1
  use replies
  rw [← hstate]
  apply Outcome.eq_ok (rebuilds_runToFault (runsInPlace hhash hadds h)) hreplies

/-- A run that there is room for leaves all entries where they are. -/
theorem holdsAt_run {i : Nat} {khash : UInt64} {key : K}
    (hholds : map.table.HoldsAt i khash key) :
  (map.run ops).1.table.HoldsAt i khash key
  := by
  apply Map.holdsAt_run hhash h.roomy.sound hholds (runsInPlace hhash hadds h)
  intro op hop
  apply Op.removes_eq_false (hadds op hop)

end HasRoomFor

omit [EquivBEq K] in
/-- A new map has room for as many keys as were requested. -/
theorem hasRoomFor_of_ofCapacity (hstart : ofCapacity memory capacity hash rule = .ok start)
    {keys : List K} (hlength : keys.length ≤ capacity) :
  start.HasRoomFor hash start.table.load.level rule keys
  := by
  have hroomy := isRoomy_of_ofCapacity hstart
  obtain ⟨level, hlevel, -, rfl⟩ := eq_of_ofCapacity hstart
  use hroomy, rfl, rfl
  obtain ⟨-, -, hfits, -⟩ := LoadFactor.startLevel?_eq_some_iff.mp hlevel
  change (0 + keys.length) * 100 ≤ 2 ^ level * rule.maxLoad
  omega

/-! ### Runs -/

/-- However a map is used, its level is not below the one it was created at, which is not below the
minimal one, and the table may hold the requested number of entries. -/
theorem run_level_of_ofCapacity (hhash : HashCompatible hash)
    (hstart : ofCapacity memory capacity hash rule = .ok start) (ops : List (Op K V)) :
  let last := (start.run ops).1
  last.table.load.floor = start.table.load.level ∧ rule.minLevel ≤ last.table.load.floor
    ∧ last.table.load.floor ≤ last.table.load.level
    ∧ capacity * 100 ≤ last.capacity * rule.maxLoad
  := by
  intro last
  have hsound := (kept_isSound hhash _).run ops (isSound_of_ofCapacity hstart)
  have hfloor : rule.IsAboveFloor last.table.load := by
    apply run_load_of_ofCapacity hhash hstart (LoadFactor.keeps_isAboveFloor rule) ops
    · intro _ load h
      exact ⟨h.minLevel_le, h.floor_le⟩
    · intro level hlevel
      exact ⟨hlevel, Nat.le_refl level⟩
  use hsound.table.floor_eq, hfloor.minLevel_le, hfloor.floor_le
  have hle := hfloor.floor_le
  rw [hsound.table.floor_eq] at hle
  obtain ⟨level, hlevel, -, rfl⟩ := eq_of_ofCapacity hstart
  obtain ⟨-, -, hfits, -⟩ := LoadFactor.startLevel?_eq_some_iff.mp hlevel
  apply Nat.le_trans hfits
  apply Nat.mul_le_mul_right
  apply Nat.pow_le_pow_right Nat.two_pos hle

/-- In every state of a run the table is at or above the level it was created at, which is at or
above the minimal one, and as many entries as the map was made for are within the maximal load. As
long as no more keys than that are put, old ones counted again, and nothing is removed, every call
answers and no rebuild is made: the capacity stays as it is, and so do the slots of all entries
inserted by then. -/
theorem run_presized (hhash : HashCompatible hash)
    (hstart : ofCapacity memory capacity hash rule = .ok start) :
  (∀ ops,
      let last := (start.run ops).1
      last.table.load.floor = start.table.load.level ∧ rule.minLevel ≤ last.table.load.floor
        ∧ last.table.load.floor ≤ last.table.load.level
        ∧ capacity * 100 ≤ last.capacity * rule.maxLoad)
    ∧ (∀ ops, (∀ op ∈ ops, op.isRemoval = false) → (Op.putsOf ops).length ≤ capacity →
      let last := (start.run ops).1
      (∃ replies, start.runToFault ops = .ok last replies)
        ∧ ∀ n,
          let middle := (start.run (ops.take n)).1
          middle.capacity = start.capacity
            ∧ ∀ i khash key, middle.table.HoldsAt i khash key → last.table.HoldsAt i khash key)
  := by
  use run_level_of_ofCapacity hhash hstart
  intro ops hadds hlength last
  have hroom : start.HasRoomFor hash start.table.load.level rule (Op.putsOf ops ++ []) := by
    rw [List.append_nil]
    apply hasRoomFor_of_ofCapacity hstart hlength
  use hroom.runToFault_eq_ok hhash hadds
  intro n middle
  -- The run is split in two, and the first part leaves room for the keys of the second.
  have hsplit := List.take_append_drop n ops
  rw [← hsplit, Op.putsOf_append, List.append_assoc] at hroom
  have hmiddle := hroom.run hhash fun op hop => hadds op (List.mem_of_mem_take hop)
  have hlast : last = (middle.run (ops.drop n)).1 := by rw [← run_append, hsplit]
  constructor
  · rw [Map.capacity, Map.capacity, Load.capacity, Load.capacity, hmiddle.level_eq]
  · intro i khash key hholds
    rw [hlast]
    apply hmiddle.holdsAt_run hhash (fun op hop => hadds op (List.mem_of_mem_drop hop)) hholds

/-- A map for five entries has eight slots. Five keys are put, one of them for the second time, and
the entry that came to be in slot 4 stays there. -/
theorem run_presized_of_five :
  let hash := (Hashing.constant 3).hashValue
  let rule : LoadFactor := {}
  let start : Map Value Nat LoadFactor := ⟨hash, rule, .blank 3⟩
  let ops := [.insert .null 1, .insert (.boolean true) 2, .get (.bigInt 0), .modify .null (· + 5),
    .insertMany [(.null, 3), (.boolean false, 4), (.bigInt 0, 5)]]
  let last := (start.run ops).1
  let middle := (start.run (ops.take 2)).1
  ofCapacity ⟨40, fun _ => true⟩ 5 hash rule = .ok start
    ∧ (∀ op ∈ ops, op.isRemoval = false) ∧ (Op.putsOf ops).length ≤ 5
    ∧ (last.table.load.floor = start.table.load.level ∧ rule.minLevel ≤ last.table.load.floor
      ∧ last.table.load.floor ≤ last.table.load.level ∧ 5 * 100 ≤ last.capacity * rule.maxLoad)
    ∧ (∃ replies, start.runToFault ops = .ok last replies) ∧ middle.capacity = start.capacity
    ∧ middle.table.HoldsAt 4 3 (.boolean true) ∧ last.table.HoldsAt 4 3 (.boolean true)
  := by
  have hstart : ofCapacity ⟨40, fun _ => true⟩ 5 (Hashing.constant 3).hashValue ({} : LoadFactor)
      = .ok (⟨_, _, .blank 3⟩ : Map Value Nat LoadFactor) := rfl
  obtain ⟨hlevel, hruns⟩ := run_presized (Hashing.constant 3).hashCompatible hstart
  obtain ⟨hquiet, hmiddle⟩ := hruns [.insert .null 1, .insert (.boolean true) 2, .get (.bigInt 0),
    .modify .null (· + 5), .insertMany [(.null, 3), (.boolean false, 4), (.bigInt 0, 5)]]
    (by decide) (by decide)
  refine ⟨hstart, by decide, by decide, hlevel _, hquiet, (hmiddle 2).1, ?_⟩
  apply (and_iff_left_of_imp _).mpr
  · exact ⟨2, rfl⟩
  · apply (hmiddle 2).2

end Map

end OpenAddressing
