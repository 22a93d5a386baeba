import OpenAddressing.Proofs.Map.Filling
import OpenAddressing.Proofs.Map.LoadRun

/-!
# Growing with the keys

A map that starts small and only grows is always as large as one made for its entries beforehand:
each insertion of a new key doubles the table just if the level of a new table for one more entry is
another one, and then a single doubling reaches it. Neither the hash function nor the order of the
insertions matters.

* `run_load_of_distinctKeys`: under the default rule, and from a map made for no entries, a run that
  puts pairwise different keys and removes none ends at the level of a new table for that many.
-/

namespace OpenAddressing

namespace Map

variable {K V : Type} [BEq K] [EquivBEq K] {hash : K → UInt64} {floor : Nat}

/-! ### Missing keys -/

namespace IsSound

variable {P : Type} [SizingRule P] {map : Map K V P} (h : map.IsSound hash floor)
  (hhash : HashCompatible hash)
include h hhash

theorem contains_modify (key : K) (f : V → V) (other : K) :
  (map.modify key f).1.contains other = map.contains other
  := by
  have hnext := (kept_isSound hhash floor).modify map key f h
  obtain ⟨-, hagrees⟩ := h.modify_agrees hhash key f
  rw [hnext.contains_eq hhash, h.contains_eq hhash, hagrees.find?_eq, Dictionary.find?_update,
    Option.isSome_map]

theorem contains_mapValues (f : K → V → V) (other : K) :
  (map.mapValues f).contains other = map.contains other
  := by
  have hnext := (kept_isSound hhash floor).mapValues map f h
  have hdictionary : (map.mapValues f).dictionary = map.dictionary.mapValues f :=
    Table.dictionary_mapValues _ _
  rw [hnext.contains_eq hhash, h.contains_eq hhash, hdictionary, Dictionary.find?_mapValues,
    Option.isSome_map]

/-- A key that is missing stays so when another one is inserted. -/
theorem contains_insert_eq_false {key : K} {value : V} {old : Option V}
    (hold : (map.insert key value).answer = .ok old) {other : K} (hkey : (key == other) = false)
    (habsent : map.contains other = false) :
  (map.insert key value).state.contains other = false
  := by
  have hnext := (kept_isSound hhash floor).insert map key value h
  obtain ⟨-, hagrees⟩ := h.insert_yields hhash key value old hold
  rw [h.contains_eq hhash, Option.isSome_eq_false_iff, Option.isNone_iff_eq_none] at habsent
  rw [hnext.contains_eq hhash, hagrees.find?_eq, Dictionary.find?_insert_eq_none hkey value habsent]
  rfl

end IsSound

/-! ### Maps that grow -/

/-- The map is as large as one made for its entries, the keys still to be put are new and pairwise
different, and there will be `count` entries once they are all there. -/
structure IsGrowing (hash : K → UInt64) (floor : Nat) (rule : LoadFactor) (count : Nat)
    (keys : List K) (map : Map K V LoadFactor) : Prop where
  roomy : map.IsRoomy hash floor
  rule_eq : map.rule = rule
  sized : rule.IsSized map.table.load
  distinct : DistinctKeys id keys
  absent : ∀ key ∈ keys, map.contains key = false
  size_add : map.size + keys.length = count

variable {rule : LoadFactor} {count level : Nat}

theorem IsGrowing.insert (hhash : HashCompatible hash)
    (hrule : 100 ≤ rule.maxLoad * 2 ^ (rule.minLevel + 1))
    (hlevel : rule.startLevel? count = some level) {map : Map K V LoadFactor} {key : K}
    {keys : List K} (h : map.IsGrowing hash floor rule count (key :: keys)) (value : V) :
  (∃ old, (map.insert key value).answer = .ok old)
    ∧ (map.insert key value).state.IsGrowing hash floor rule count keys
  := by
  have hsize := h.size_add
  rw [List.length_cons, Map.size] at hsize
  have hle : map.table.load.live + 1 ≤ count := by omega
  obtain ⟨lower, hlower⟩ := LoadFactor.exists_startLevel?_of_le hlevel hle
  have hgrown : ¬map.Outgrown := by
    rintro ⟨hgrow, hmax⟩
    change map.rule.onInsert map.table.load = some .grow at hgrow
    rw [h.rule_eq] at hgrow
    apply absurd hmax (h.sized.lt_maxLevel hlower hgrow).ne
  obtain ⟨old, hold⟩ := (h.roomy.insert_of_room hhash key value).1 hgrown
  have hinsertion := h.roomy.insertion hhash key value
  rw [h.rule_eq, h.absent key List.mem_cons_self] at hinsertion
  obtain ⟨hsized, hlive⟩ := hinsertion.isSized hrule hlower h.sized
  obtain ⟨hkey, hdistinct⟩ := List.pairwise_cons.mp h.distinct
  use ⟨old, hold⟩
  constructor
  case roomy => apply (kept_isRoomy hhash floor).insert map key value h.roomy
  case rule_eq => apply (kept_rule rule).insert map key value h.rule_eq
  case sized => apply hsized
  case distinct => apply hdistinct
  case absent =>
    intro other hother
    apply h.roomy.sound.contains_insert_eq_false hhash hold (hkey other hother)
    apply h.absent other (List.mem_cons_of_mem key hother)
  case size_add =>
    rw [Map.size, hlive]
    omega

theorem fills_isGrowing (hhash : HashCompatible hash) (floor : Nat)
    (hrule : 100 ≤ rule.maxLoad * 2 ^ (rule.minLevel + 1))
    (hlevel : rule.startLevel? count = some level) :
  Fills fun keys (map : Map K V LoadFactor) => map.IsGrowing hash floor rule count keys
  := by
  constructor
  case insert =>
    intro map key keys value h
    apply h.insert hhash hrule hlevel value
  case modify =>
    intro map keys key f h
    constructor
    case roomy => apply (kept_isRoomy hhash floor).modify map key f h.roomy
    case rule_eq => apply h.rule_eq
    case sized =>
      rw [load_modify]
      apply h.sized
    case distinct => apply h.distinct
    case absent =>
      intro other hother
      rw [h.roomy.sound.contains_modify hhash]
      apply h.absent other hother
    case size_add =>
      rw [Map.size, load_modify]
      apply h.size_add
  case mapValues =>
    intro map keys f h
    constructor
    case roomy => apply (kept_isRoomy hhash floor).mapValues map f h.roomy
    case rule_eq => apply h.rule_eq
    case sized => apply h.sized
    case distinct => apply h.distinct
    case absent =>
      intro other hother
      rw [h.roomy.sound.contains_mapValues hhash]
      apply h.absent other hother
    case size_add => apply h.size_add

omit [EquivBEq K] in
/-- Once no key is left to be put, the load is that of a table made for the entries, apart from the
level of creation. -/
theorem IsGrowing.load_eq {map : Map K V LoadFactor}
    (h : map.IsGrowing hash floor rule count []) (hlevel : rule.startLevel? count = some level) :
  map.table.load = ⟨level, floor, count, 0⟩
  := by
  have hlive : map.table.load.live = count := h.size_add
  have hsized := h.sized.startLevel?_eq
  rw [hlive, hlevel] at hsized
  have hload : map.table.load = ⟨map.table.load.level, map.table.load.floor,
    map.table.load.live, map.table.load.tombstones⟩ := rfl
  rw [hload, ← Option.some.inj hsized, h.roomy.sound.table.floor_eq, hlive, h.sized.tombstones_eq]

/-! ### Runs -/

/-- From a map made for no entries, a run that puts pairwise different keys and removes none ends at
the level of a new table for that many entries and without tombstones, if the smallest table,
doubled once, has room for an entry. -/
theorem run_load_of_putsOf {memory : Memory} {start : Map K V LoadFactor}
    (hhash : HashCompatible hash) (hstart : ofCapacity memory 0 hash rule = .ok start)
    (hrule : 100 ≤ rule.maxLoad * 2 ^ (rule.minLevel + 1)) {ops : List (Op K V)}
    (hadds : ∀ op ∈ ops, op.isRemoval = false) (hdistinct : DistinctKeys id (Op.putsOf ops))
    (hlevel : rule.startLevel? (Op.putsOf ops).length = some level) :
  (∀ answer ∈ (start.run ops).2, ∃ reply, answer = .ok reply)
    ∧ (start.run ops).1.table.load = ⟨level, rule.minLevel, (Op.putsOf ops).length, 0⟩
  := by
  have hroomy := isRoomy_of_ofCapacity hstart
  have habsent := contains_eq_false_of_ofCapacity hhash hstart
  obtain ⟨first, hfirst, -, rfl⟩ := eq_of_ofCapacity hstart
  obtain rfl : rule.minLevel = first :=
    Option.some.inj (LoadFactor.startLevel?_zero.symm.trans hfirst)
  have hgrowing : IsGrowing hash rule.minLevel rule (Op.putsOf ops).length (Op.putsOf ops ++ [])
      (⟨hash, rule, .blank rule.minLevel⟩ : Map K V LoadFactor) := by
    rw [List.append_nil]
    exact ⟨hroomy, rfl, rule.isSized_fresh_zero, hdistinct, fun key _ => habsent key,
      Nat.zero_add _⟩
  obtain ⟨hanswers, hlast⟩ := (fills_isGrowing hhash _ hrule hlevel).run hadds hgrowing
  use hanswers
  apply hlast.load_eq hlevel

/-- Under the default rule and from a map made for no entries, a run that puts pairwise different
keys and removes none answers every call. It ends at the level of a new table for that many entries,
without tombstones, whatever the hash function and the order of the keys are. -/
theorem run_load_of_distinctKeys {memory : Memory} {start : Map K V LoadFactor}
    (hhash : HashCompatible hash)
    (hstart : ofCapacity memory 0 hash ({} : LoadFactor) = .ok start) {ops : List (Op K V)}
    (hadds : ∀ op ∈ ops, op.isRemoval = false) (hdistinct : DistinctKeys id (Op.putsOf ops))
    (hlevel : ({} : LoadFactor).startLevel? (Op.putsOf ops).length = some level) :
  (∀ answer ∈ (start.run ops).2, ∃ reply, answer = .ok reply)
    ∧ (start.run ops).1.table.load = ⟨level, 3, (Op.putsOf ops).length, 0⟩
  := by
  apply run_load_of_putsOf hhash hstart _ hadds hdistinct hlevel
  decide

/-- The sixth of six keys has the table of eight slots doubled, and a new table for six entries has
sixteen slots. -/
theorem run_load_of_distinctKeys_of_six :
  let hash := Hashing.lastWord.hashValue
  let start : Map Value Nat LoadFactor := ⟨hash, {}, .blank 3⟩
  let ops := [.insert (.bigInt 5) 5, .insertMany [(.bigInt 3, 3), (.null, 0), (.bigInt 1, 1)],
    .get (.bigInt 7), .insert (.boolean true) 2, .modify .null (· + 1), .insert (.bigInt 2) 2]
  ofCapacity ⟨40, fun _ => true⟩ 0 hash ({} : LoadFactor) = .ok start
    ∧ (∀ op ∈ ops, op.isRemoval = false) ∧ DistinctKeys id (Op.putsOf ops)
    ∧ ({} : LoadFactor).startLevel? (Op.putsOf ops).length = some 4
    ∧ (∀ answer ∈ (start.run ops).2, ∃ reply, answer = .ok reply)
    ∧ (start.run ops).1.table.load = ⟨4, 3, 6, 0⟩
  := by
  intro hash start ops
  have hstart : ofCapacity ⟨40, fun _ => true⟩ 0 hash ({} : LoadFactor) = .ok start := rfl
  have hadds : ∀ op ∈ ops, op.isRemoval = false := by decide
  have hdistinct : DistinctKeys id (Op.putsOf ops) := by
    rw [DistinctKeys]
    decide
  have hlevel : ({} : LoadFactor).startLevel? (Op.putsOf ops).length = some 4 := by decide
  use hstart, hadds, hdistinct, hlevel
  apply run_load_of_distinctKeys Hashing.lastWord.hashCompatible hstart hadds hdistinct hlevel

end Map

end OpenAddressing
