import OpenAddressing.Map.Construction
import OpenAddressing.Map.Run
import OpenAddressing.Proofs.Table.Rebuild
import OpenAddressing.Proofs.Value.Equality
import OpenAddressing.Sizing.Rule

/-!
# Every run keeps the table well formed

A property of maps that the five mutations keep is kept by every run, since lookups change
nothing and many insertions are one after the other. That the table is well formed and was
created at a given level is such a property, whatever the sizing rule answers and wherever a
call breaks off.
-/

namespace OpenAddressing

namespace Map

variable {K V P : Type} [BEq K] [SizingRule P]

/-! ### Mutations as steps on the table -/

/-- The table that an insertion is made into: rebuilt, if the sizing rule wants it. -/
def beforeInsert (map : Map K V P) : Outcome (Table K V) Unit :=
  map.table.resize (SizingRule.onInsert map.rule map.table.load).1

/-- The table that a removal is made from: rebuilt, if the sizing rule wants it. -/
def beforeErase (map : Map K V P) : Outcome (Table K V) Unit :=
  map.table.resize (SizingRule.onErase map.rule map.table.load).1

theorem insert_eq (map : Map K V P) (key : K) (value : V) :
  map.insert key value
    = (map.beforeInsert.andThen fun table _ => table.insert (map.hash key) key value).within
        fun table => ⟨map.hash, (SizingRule.onInsert map.rule map.table.load).2, table⟩
  := rfl

theorem erasePair_eq (map : Map K V P) (key : K) :
  map.erasePair key
    = ((map.beforeErase.andThen fun table _ => table.erase (map.hash key) key).map
        (·.map Entry.pair)).within
        fun table => ⟨map.hash, (SizingRule.onErase map.rule map.table.load).2, table⟩
  := rfl

/-! ### Properties that runs keep -/

/-- What an insertion keeps is kept by many. -/
theorem insertMany_state_of {Inv : Map K V P → Prop}
    (hinsert : ∀ map key value, Inv map → Inv (map.insert key value).state)
    (pairs : List (K × V)) {map : Map K V P} (h : Inv map) :
  Inv (map.insertMany pairs).state
  := by
  induction pairs generalizing map with
  | nil => apply h
  | cons pair pairs ih =>
      rw [Map.insertMany]
      apply Outcome.andThen_state_of (hinsert map pair.1 pair.2 h)
      intro answer _
      apply ih (hinsert map pair.1 pair.2 h)

/-- A property of maps that is kept by every mutation, whether it answers or breaks off. -/
structure Kept (Inv : Map K V P → Prop) : Prop where
  insert : ∀ map key value, Inv map → Inv (map.insert key value).state
  erasePair : ∀ map key, Inv map → Inv (map.erasePair key).state
  modify : ∀ map key f, Inv map → Inv (map.modify key f).1
  mapValues : ∀ map f, Inv map → Inv (map.mapValues f)
  clear : ∀ map, Inv map → Inv map.clear

namespace Kept

variable {Inv : Map K V P → Prop}

theorem insertMany (hkept : Kept Inv) (pairs : List (K × V)) {map : Map K V P} (h : Inv map) :
  Inv (map.insertMany pairs).state
  := insertMany_state_of hkept.insert pairs h

/-- One call keeps the property. -/
theorem exec (hkept : Kept Inv) (op : Op K V) {map : Map K V P} (h : Inv map) :
  Inv (map.exec op).state
  := by
  cases op with
  | get key => apply h
  | getPair key => apply h
  | contains key => apply h
  | insert key value => apply hkept.insert map key value h
  | insertMany pairs => apply hkept.insertMany pairs h
  | modify key f => apply hkept.modify map key f h
  | mapValues f => apply hkept.mapValues map f h
  | erase key => apply hkept.erasePair map key h
  | erasePair key => apply hkept.erasePair map key h
  | clear => apply hkept.clear map h

/-- Every run keeps the property. -/
theorem run (hkept : Kept Inv) (ops : List (Op K V)) {map : Map K V P} (h : Inv map) :
  Inv (map.run ops).1
  := by
  induction ops generalizing map with
  | nil => apply h
  | cons op ops ih => apply ih (hkept.exec op h)

/-- So does every run that stops at the first fault. -/
theorem runToFault (hkept : Kept Inv) (ops : List (Op K V)) {map : Map K V P} (h : Inv map) :
  Inv (map.runToFault ops).state
  := by
  induction ops generalizing map with
  | nil => apply h
  | cons op ops ih =>
      rw [Map.runToFault]
      apply Outcome.andThen_state_of (hkept.exec op h)
      intro reply _
      apply ih (hkept.exec op h)

end Kept

/-! ### Well-formed tables -/

/-- The map hashes with `hash`, and its table is well formed and was created at level
`floor`. -/
structure IsSound (hash : K → UInt64) (floor : Nat) (map : Map K V P) : Prop where
  hash_eq : map.hash = hash
  table : map.table.IsSound hash floor

omit [BEq K] in
/-- A new map has the level that the sizing rule offers, and every slot is empty. -/
theorem eq_of_ofCapacity {memory : Memory} {capacity : Nat} {hash : K → UInt64} {rule : P}
    {map : Map K V P} (h : ofCapacity memory capacity hash rule = .ok map) :
  ∃ level, SizingRule.startLevel? rule capacity = some level ∧ level ≤ maxLevel
    ∧ map = ⟨hash, rule, .blank level⟩
  := by
  rw [ofCapacity] at h
  split at h
  next => cases h
  next level hlevel =>
    split at h
    next => cases h
    next hmax =>
      dsimp only at h
      split at h
      next => cases h
      next =>
        split at h
        next =>
          cases h
          exact ⟨level, hlevel, Nat.le_of_not_lt hmax, rfl⟩
        next => cases h

theorem isSound_of_ofCapacity {memory : Memory} {capacity : Nat} {hash : K → UInt64} {rule : P}
    {map : Map K V P} (h : ofCapacity memory capacity hash rule = .ok map) :
  map.IsSound hash map.table.load.level
  := by
  obtain ⟨level, -, -, rfl⟩ := eq_of_ofCapacity h
  exact ⟨rfl, .blank level, rfl⟩

/-- The mutations keep maps sound, whatever the sizing rule wants. -/
theorem kept_isSound [EquivBEq K] {hash : K → UInt64} (hhash : HashCompatible hash)
    (floor : Nat) :
  Kept fun map : Map K V P => map.IsSound hash floor
  := by
  constructor
  case insert =>
    rintro map key value ⟨rfl, h⟩
    use rfl
    rw [insert_eq]
    have hresized := h.resize (SizingRule.onInsert map.rule map.table.load).1
    apply Outcome.andThen_state_of hresized
    intro _ _
    apply hresized.insert hhash
  case erasePair =>
    rintro map key ⟨rfl, h⟩
    use rfl
    rw [erasePair_eq, Outcome.within_state, Outcome.map_state]
    have hresized := h.resize (SizingRule.onErase map.rule map.table.load).1
    apply Outcome.andThen_state_of hresized
    intro _ _
    apply hresized.erase hhash
  case modify =>
    rintro map key f ⟨rfl, h⟩
    exact ⟨rfl, h.modify hhash key f⟩
  case mapValues =>
    rintro map f ⟨rfl, h⟩
    exact ⟨rfl, h.wellFormed.mapValues f, h.floor_eq⟩
  case clear =>
    rintro map ⟨rfl, h⟩
    exact ⟨rfl, h.wellFormed.clear, h.floor_eq⟩

/-- In every state of a run, the states that faults leave behind included, the table of a map
is well formed, has no more slots in use than there are, and counts as created at the level it
was created at. -/
theorem run_wellFormed [EquivBEq K] {memory : Memory} {capacity : Nat} {hash : K → UInt64}
    {rule : P} {start : Map K V P} (hhash : HashCompatible hash)
    (hstart : ofCapacity memory capacity hash rule = .ok start) (ops : List (Op K V)) :
  let last := (start.run ops).1
  last.table.WellFormed hash ∧ last.table.load.used ≤ last.capacity
    ∧ last.table.load.floor = start.table.load.level
  := by
  have hsound := (kept_isSound hhash start.table.load.level).run ops
    (isSound_of_ofCapacity hstart)
  use hsound.table.wellFormed
  use hsound.table.wellFormed.used_le_capacity
  apply hsound.table.floor_eq

/-- The third insertion has a table of two slots halved, and breaks off when the second entry
finds no slot. The key that was lost, inserted once more, finds none either. -/
theorem run_wellFormed_of_faults :
  let hash := (Hashing.constant 3).hashValue
  let script : Script := ⟨some 1, [none, none, some .shrink], [], 0, 0⟩
  let start : Map Value Nat Script := ⟨hash, script, .blank 1⟩
  let ops := [.insert .null 1, .insert (.boolean true) 2, .insert (.boolean false) 3,
    .insert .null 4]
  let last := (start.run ops).1
  ofCapacity ⟨40, fun _ => true⟩ 0 hash script = .ok start
    ∧ (start.run ops).2 = [.ok (.value? none), .ok (.value? none),
      .error (.tableFull 1 0 1), .error (.tableFull 1 0 1)]
    ∧ last.table.WellFormed hash ∧ last.table.load.used ≤ last.capacity
    ∧ last.table.load.floor = 1
  := by
  have hstart : ofCapacity ⟨40, fun _ => true⟩ 0 (Hashing.constant 3).hashValue
      (⟨some 1, [none, none, some .shrink], [], 0, 0⟩ : Script)
      = .ok (⟨_, _, .blank 1⟩ : Map Value Nat Script) := rfl
  exact ⟨hstart, rfl, run_wellFormed (Hashing.constant 3).hashCompatible hstart _⟩

end Map

end OpenAddressing
