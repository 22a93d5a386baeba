import OpenAddressing.Proofs.Map.WellFormed
import OpenAddressing.Proofs.Table.Contents

/-!
# Maps answer as dictionaries do

A sound map stands for the dictionary of its table. Every call that answers answers what that
dictionary answers, and leaves behind a map that stands for the changed dictionary. So does a
run without a fault, however its sizing rule has the table rebuilt on the way.
-/

namespace OpenAddressing

namespace Map

variable {K V P : Type}

/-- The dictionary that a map stands for. -/
def dictionary (map : Map K V P) : Dictionary K V :=
  map.table.dictionary

theorem dictionary_pairs (map : Map K V P) :
  map.dictionary.pairs = map.toList
  := rfl

variable [BEq K] {hash : K → UInt64} {floor : Nat} {map : Map K V P}

namespace IsSound

variable (h : map.IsSound hash floor)
include h

theorem distinct_dictionary :
  map.dictionary.Distinct
  := h.table.wellFormed.distinct_dictionary

theorem size_eq :
  map.size = map.dictionary.pairs.length
  := by
  rw [dictionary_pairs, toList, List.length_map]
  apply h.table.wellFormed.live_eq_length

/-! ### Lookups -/

variable [EquivBEq K] (hhash : HashCompatible hash)
include hhash

theorem getPair?_eq (key : K) :
  map.getPair? key = map.dictionary.find? key
  := by
  rw [getPair?, h.hash_eq, h.table.wellFormed.lookup?_map_pair hhash]
  rfl

theorem get?_eq (key : K) :
  map.get? key = (map.dictionary.find? key).map Prod.snd
  := by
  rw [← h.getPair?_eq hhash, getPair?, Option.map_map]
  rfl

theorem contains_eq (key : K) :
  map.contains key = (map.dictionary.find? key).isSome
  := by
  rw [contains, h.hash_eq, h.table.wellFormed.isSome_find?_eq hhash]
  rfl

theorem size_pos {key : K} (hcontains : map.contains key) :
  0 < map.size
  := by
  rw [h.contains_eq hhash, Dictionary.find?, List.find?_isSome] at hcontains
  obtain ⟨pair, hpair, -⟩ := hcontains
  rw [h.size_eq]
  apply List.length_pos_of_mem hpair

theorem modify_agrees (key : K) (f : V → V) :
  (map.modify key f).2 = (map.dictionary.find? key).map (fun pair => f pair.2)
    ∧ (map.modify key f).1.dictionary.Agrees (map.dictionary.update key f)
  := by
  have hmodify := h.table.wellFormed.modify_agrees hhash key f
  rw [← h.hash_eq] at hmodify
  apply hmodify

/-! ### Mutations -/

variable [SizingRule P]

theorem insert_yields (key : K) (value : V) :
  (map.insert key value).Yields dictionary (map.dictionary.insert key value)
    ((map.dictionary.find? key).map Prod.snd)
  := by
  rw [insert_eq, h.hash_eq]
  apply Outcome.Yields.within fun _ => rfl
  apply (h.table.wellFormed.resize_yields _).andThen
  intro hresized
  have hinsert := (h.table.resize (SizingRule.onInsert map.rule map.table.load).1).wellFormed
    |>.insert_yields hhash key value
  rw [hresized.find?_eq] at hinsert
  apply hinsert.trans (hresized.insert key value)

theorem erasePair_yields (key : K) :
  (map.erasePair key).Yields dictionary (map.dictionary.erase key) (map.dictionary.find? key)
  := by
  rw [erasePair_eq, h.hash_eq, Outcome.map_andThen]
  apply Outcome.Yields.within fun _ => rfl
  apply (h.table.wellFormed.resize_yields _).andThen
  intro hresized
  have herase := (h.table.resize (SizingRule.onErase map.rule map.table.load).1).wellFormed
    |>.erase_yields hhash key
  rw [hresized.find?_eq] at herase
  apply herase.trans (hresized.erase key)

end IsSound

/-! ### Runs -/

variable [EquivBEq K] [SizingRule P]

theorem insertMany_yields (hhash : HashCompatible hash) (h : map.IsSound hash floor)
    {dict : Dictionary K V} (hagrees : map.dictionary.Agrees dict) (pairs : List (K × V)) :
  (map.insertMany pairs).Yields dictionary
    (pairs.foldl (fun dict pair => dict.insert pair.1 pair.2) dict) ()
  := by
  induction pairs generalizing map dict with
  | nil => apply Outcome.Yields.ok hagrees
  | cons pair pairs ih =>
      rw [insertMany]
      apply ((h.insert_yields hhash pair.1 pair.2).trans (hagrees.insert pair.1 pair.2)).andThen
      apply ih ((kept_isSound hhash floor).insert map pair.1 pair.2 h)

/-- One call that answers answers what the dictionary answers, and changes it in the same
way. -/
theorem exec_yields (hhash : HashCompatible hash) (h : map.IsSound hash floor)
    {dict : Dictionary K V} (hagrees : map.dictionary.Agrees dict) (op : Op K V) :
  (map.exec op).Yields dictionary (dict.exec op).1 (dict.exec op).2
  := by
  obtain ⟨hnext, hreply⟩ := hagrees.exec op
  rw [← hreply]
  apply Outcome.Yields.trans _ hnext
  cases op with
  | get key =>
      rw [exec, h.get?_eq hhash]
      apply Outcome.Yields.ok (.refl h.distinct_dictionary)
  | getPair key =>
      rw [exec, h.getPair?_eq hhash]
      apply Outcome.Yields.ok (.refl h.distinct_dictionary)
  | contains key =>
      rw [exec, h.contains_eq hhash]
      apply Outcome.Yields.ok (.refl h.distinct_dictionary)
  | insert key value => apply (h.insert_yields hhash key value).map
  | insertMany pairs =>
      apply (insertMany_yields hhash h (.refl h.distinct_dictionary) pairs).map
  | modify key f =>
      obtain ⟨hvalue, hstate⟩ := h.modify_agrees hhash key f
      change (Outcome.ok (map.modify key f).1 (Reply.value? (map.modify key f).2)).Yields _ _ _
      rw [hvalue]
      apply Outcome.Yields.ok hstate
  | mapValues f =>
      apply Outcome.Yields.ok
      rw [dictionary, mapValues, Table.dictionary_mapValues]
      apply Dictionary.Agrees.refl (h.distinct_dictionary.mapValues f)
  | erase key => apply ((h.erasePair_yields hhash key).map _).map
  | erasePair key => apply (h.erasePair_yields hhash key).map
  | clear =>
      apply Outcome.Yields.ok
      rw [dictionary, clear, Table.dictionary_clear]
      apply Dictionary.Agrees.refl .empty

theorem runToFault_yields (hhash : HashCompatible hash) (h : map.IsSound hash floor)
    {dict : Dictionary K V} (hagrees : map.dictionary.Agrees dict) (ops : List (Op K V)) :
  (map.runToFault ops).Yields dictionary (dict.run ops).1 (dict.run ops).2
  := by
  induction ops generalizing map dict with
  | nil => apply Outcome.Yields.ok hagrees
  | cons op ops ih =>
      apply (exec_yields hhash h hagrees op).andThen
      intro hnext
      apply (ih ((kept_isSound hhash floor).exec op h) hnext).map

/-- A run without a fault answers what a dictionary answers to the same calls, call by call,
whatever the hash function and the sizing rule are. The map ends up with the pairs of the
dictionary, each of them once. -/
theorem runToFault_eq_dictionary {memory : Memory} {capacity : Nat} {rule : P}
    {start : Map K V P} (hhash : HashCompatible hash)
    (hstart : ofCapacity memory capacity hash rule = .ok start) (ops : List (Op K V))
    {replies : List (Reply K V)} (hrun : (start.runToFault ops).answer = .ok replies) :
  let last := (start.runToFault ops).state
  let reference := (⟨[]⟩ : Dictionary K V).run ops
  replies = reference.2 ∧ last.toList.Perm reference.1.pairs
    ∧ last.size = reference.1.pairs.length ∧ reference.1.Distinct
  := by
  have hsound := isSound_of_ofCapacity hstart
  have hempty : start.dictionary = ⟨[]⟩ := by
    obtain ⟨level, -, -, rfl⟩ := eq_of_ofCapacity hstart
    apply Table.dictionary_blank
  have hyields := runToFault_yields hhash hsound (.refl hsound.distinct_dictionary) ops
  rw [hempty] at hyields
  obtain ⟨hreplies, hagrees⟩ := hyields replies hrun
  have hlast := (kept_isSound hhash _).runToFault ops hsound
  use hreplies, hagrees.perm
  constructor
  · rw [hlast.size_eq]
    apply hagrees.perm.length_eq
  · apply hagrees.distinct.perm hagrees.perm

/-- A run in which every key has the same hash, and the table is doubled, halved and compacted.
Both zeros are the same key, and the one that was inserted first is kept. -/
theorem runToFault_eq_dictionary_of_rebuilds :
  let hash := (Hashing.constant 3).hashValue
  let script : Script := ⟨some 1, [none, none, some .grow, some .compact], [some .shrink], 0, 0⟩
  let start : Map Value Nat Script := ⟨hash, script, .blank 1⟩
  let ops := [.insert (.decimal ⟨0⟩) 1, .insert (.decimal ⟨0x8000000000000000⟩) 2,
    .insert .null 3, .erase .null, .insert (.boolean true) 4,
    .getPair (.decimal ⟨0x8000000000000000⟩)]
  let replies := [.value? none, .value? (some 1), .value? none, .value? (some 3), .value? none,
    .pair? (some (.decimal ⟨0⟩, 2))]
  let last := (start.runToFault ops).state
  let reference := (⟨[]⟩ : Dictionary Value Nat).run ops
  ofCapacity ⟨40, fun _ => true⟩ 0 hash script = .ok start
    ∧ (start.runToFault ops).answer = .ok replies
    ∧ replies = reference.2 ∧ last.toList.Perm reference.1.pairs
    ∧ last.size = reference.1.pairs.length ∧ reference.1.Distinct
  := by
  have hstart : ofCapacity ⟨40, fun _ => true⟩ 0 (Hashing.constant 3).hashValue
      (⟨some 1, [none, none, some .grow, some .compact], [some .shrink], 0, 0⟩ : Script)
      = .ok (⟨_, _, .blank 1⟩ : Map Value Nat Script) := rfl
  exact ⟨hstart, rfl,
    runToFault_eq_dictionary (Hashing.constant 3).hashCompatible hstart _ rfl⟩

end Map

end OpenAddressing
