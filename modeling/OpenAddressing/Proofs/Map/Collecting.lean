import Mathlib.Data.List.Induction
import OpenAddressing.Proofs.Map.Headroom
import OpenAddressing.Proofs.Map.Refinement
import OpenAddressing.Proofs.Value.Equality

/-!
# Maps collected from a list

A map may be collected from a list of pairs in which a key occurs again and again, in forms that
are equal but not the same. Which entries it ends up with is a matter of the list alone: neither the
number of entries it was made for nor the rebuilds on the way leave a trace in them.

* `collect_holdsClasses`: for each class of equal keys of the list, a collected map holds the first
  key of the class together with its last value, and nothing besides. So maps made for different
  numbers of entries hold the same entries.
-/

namespace OpenAddressing

variable {K V : Type} [BEq K]

/-! ### Classes of keys -/

/-- The first key of the list that is equal to the given one. -/
def firstKey? (pairs : List (K × V)) (key : K) : Option K :=
  (pairs.find? fun pair => pair.1 == key).map Prod.fst

/-- The last value of the list whose key is equal to the given one. -/
def lastValue? (pairs : List (K × V)) (key : K) : Option V :=
  (pairs.reverse.find? fun pair => pair.1 == key).map Prod.snd

theorem firstKey?_append_singleton (pairs : List (K × V)) (pair : K × V) (key : K) :
  firstKey? (pairs ++ [pair]) key
    = if pair.1 == key then some ((firstKey? pairs key).getD pair.1) else firstKey? pairs key
  := by
  rw [firstKey?, List.find?_append, List.find?_singleton, firstKey?]
  cases pairs.find? fun pair => pair.1 == key with
  | none =>
      rw [Option.none_or]
      split
      · rfl
      · rfl
  | some first => simp

theorem lastValue?_append_singleton (pairs : List (K × V)) (pair : K × V) (key : K) :
  lastValue? (pairs ++ [pair]) key
    = if pair.1 == key then some pair.2 else lastValue? pairs key
  := by
  rw [lastValue?, List.reverse_append, List.reverse_singleton, List.singleton_append,
    List.find?_cons, lastValue?]
  cases pair.1 == key with
  | true => rfl
  | false => rfl

/-! ### Dictionaries of lists -/

namespace Dictionary

/-- The dictionary that the pairs are inserted into one after the other. -/
def ofPairs (pairs : List (K × V)) : Dictionary K V :=
  pairs.foldl (fun dict pair => dict.insert pair.1 pair.2) ⟨[]⟩

theorem ofPairs_append_singleton (pairs : List (K × V)) (pair : K × V) :
  ofPairs (pairs ++ [pair]) = (ofPairs pairs).insert pair.1 pair.2
  := List.foldl_concat ..

theorem distinct_ofPairs (pairs : List (K × V)) :
  (ofPairs pairs).Distinct
  := by
  induction pairs using List.reverseRecOn with
  | nil => apply Distinct.empty
  | append_singleton pairs pair ih =>
      rw [ofPairs_append_singleton]
      apply ih.insert

variable [EquivBEq K]

/-- A key finds the first key of its class together with the last value. -/
theorem find?_ofPairs (pairs : List (K × V)) (key : K) :
  ((ofPairs pairs).find? key).map Prod.fst = firstKey? pairs key
    ∧ ((ofPairs pairs).find? key).map Prod.snd = lastValue? pairs key
  := by
  -- The pair that is inserted last is at the end of the list, which is taken apart there.
  induction pairs using List.reverseRecOn with
  | nil => exact ⟨rfl, rfl⟩
  | append_singleton pairs pair ih =>
      obtain ⟨hfirst, hlast⟩ := ih
      rw [ofPairs_append_singleton, find?_insert, firstKey?_append_singleton,
        lastValue?_append_singleton, hfirst]
      split
      · exact ⟨rfl, rfl⟩
      · exact ⟨hfirst, hlast⟩

end Dictionary

/-! ### One entry for each class -/

variable [EquivBEq K]

/-- Equal keys have the same first key. -/
theorem firstKey?_congr {key other : K} (hkey : key == other) (pairs : List (K × V)) :
  firstKey? pairs key = firstKey? pairs other
  := by
  rw [← (Dictionary.find?_ofPairs pairs key).1, Dictionary.find?_congr hkey,
    (Dictionary.find?_ofPairs pairs other).1]

/-- Equal keys have the same last value. -/
theorem lastValue?_congr {key other : K} (hkey : key == other) (pairs : List (K × V)) :
  lastValue? pairs key = lastValue? pairs other
  := by
  rw [← (Dictionary.find?_ofPairs pairs key).2, Dictionary.find?_congr hkey,
    (Dictionary.find?_ofPairs pairs other).2]

/-- The entries are one for each class of equal keys of the list. The key of an entry is the first
one of its class, just as it stands in the list, and the value is the last one. -/
structure HoldsClasses (pairs entries : List (K × V)) : Prop where
  covers : ∀ pair ∈ pairs, ∃ entry ∈ entries, entry.1 == pair.1
  distinct : DistinctKeys Prod.fst entries
  firstKey?_eq : ∀ entry ∈ entries, firstKey? pairs entry.1 = some entry.1
  lastValue?_eq : ∀ entry ∈ entries, lastValue? pairs entry.1 = some entry.2

theorem Dictionary.holdsClasses_ofPairs (pairs : List (K × V)) :
  HoldsClasses pairs (ofPairs pairs).pairs
  := by
  have hfind : ∀ entry ∈ (ofPairs pairs).pairs, (ofPairs pairs).find? entry.1 = some entry :=
    fun entry hentry => (distinct_ofPairs pairs).find?_eq_some_iff.mpr ⟨hentry, BEq.rfl⟩
  constructor
  case covers =>
    intro pair hpair
    have hfirst : (firstKey? pairs pair.1).isSome := by
      rw [firstKey?, Option.isSome_map, List.find?_isSome]
      use pair, hpair, BEq.rfl
    rw [← (find?_ofPairs pairs pair.1).1, Option.isSome_map] at hfirst
    obtain ⟨entry, hentry⟩ := Option.isSome_iff_exists.mp hfirst
    use entry, List.mem_of_find?_eq_some hentry, beq_of_find? hentry
  case distinct => apply distinct_ofPairs
  case firstKey?_eq =>
    intro entry hentry
    rw [← (find?_ofPairs pairs entry.1).1, hfind entry hentry, Option.map_some]
  case lastValue?_eq =>
    intro entry hentry
    rw [← (find?_ofPairs pairs entry.1).2, hfind entry hentry, Option.map_some]

namespace HoldsClasses

variable {pairs entries others : List (K × V)}

theorem perm (h : HoldsClasses pairs entries) (hperm : entries.Perm others) :
  HoldsClasses pairs others
  := by
  constructor
  case covers =>
    intro pair hpair
    obtain ⟨entry, hentry, hkey⟩ := h.covers pair hpair
    use entry, hperm.mem_iff.mp hentry
  case distinct => apply h.distinct.perm hperm
  case firstKey?_eq =>
    intro entry hentry
    apply h.firstKey?_eq entry (hperm.mem_iff.mpr hentry)
  case lastValue?_eq =>
    intro entry hentry
    apply h.lastValue?_eq entry (hperm.mem_iff.mpr hentry)

theorem subset (h : HoldsClasses pairs entries) (hothers : HoldsClasses pairs others) :
  entries ⊆ others
  := by
  intro entry hentry
  have hfirst := h.firstKey?_eq entry hentry
  obtain ⟨pair, hpair, hkey⟩ := Option.map_eq_some_iff.mp hfirst
  obtain ⟨other, hother, hsame⟩ := hothers.covers pair (List.mem_of_find?_eq_some hpair)
  rw [hkey] at hsame
  have hotherkey := hothers.firstKey?_eq other hother
  have hothervalue := hothers.lastValue?_eq other hother
  rw [firstKey?_congr hsame, hfirst] at hotherkey
  rw [lastValue?_congr hsame, h.lastValue?_eq entry hentry] at hothervalue
  rw [Prod.ext (Option.some.inj hotherkey) (Option.some.inj hothervalue)]
  apply hother

/-- There is but one way to hold the classes of a list, up to the order of the entries. -/
theorem unique (h : HoldsClasses pairs entries) (hothers : HoldsClasses pairs others) :
  entries.Perm others
  := by
  apply (List.perm_ext_iff_of_nodup h.distinct.nodup hothers.distinct.nodup).mpr
  intro entry
  exact ⟨fun hentry => h.subset hothers hentry, fun hentry => hothers.subset h hentry⟩

end HoldsClasses

/-! ### Collected maps -/

namespace Map

/-- A map that is collected without a fault holds the classes of the list. -/
theorem holdsClasses_of_collect {P : Type} [SizingRule P] {hash : K → UInt64} {memory : Memory}
    {expected : Nat} {rule : P} {pairs : List (K × V)} {outcome : Outcome (Map K V P) Unit}
    (hhash : HashCompatible hash) (hcollect : collect memory expected hash rule pairs = .ok outcome)
    (hanswer : outcome.answer = .ok ()) :
  HoldsClasses pairs outcome.state.toList
  := by
  rw [collect] at hcollect
  obtain ⟨start, hstart⟩ : ∃ start, ofCapacity memory expected hash rule = .ok start := by
    cases hstart : ofCapacity memory expected hash rule with
    | error cause =>
        rw [hstart] at hcollect
        cases hcollect
    | ok start => exact ⟨start, rfl⟩
  rw [hstart] at hcollect
  cases hcollect
  have hempty : start.dictionary = ⟨[]⟩ := by
    obtain ⟨level, -, -, rfl⟩ := eq_of_ofCapacity hstart
    apply Table.dictionary_blank
  have hagrees : start.dictionary.Agrees ⟨[]⟩ := by
    rw [hempty]
    apply Dictionary.Agrees.refl .empty
  have hyields := insertMany_yields hhash (isSound_of_ofCapacity hstart) hagrees pairs
  obtain ⟨-, hlast⟩ := hyields () hanswer
  apply (Dictionary.holdsClasses_ofPairs pairs).perm hlast.perm.symm

/-- A map of values, made for some number of entries and under a load factor rule, can be collected
from any list of pairs as long as no table of the largest level is to grow. Whatever the hash
function is, it holds one entry for each class of equal keys of the list: the first key of the
class, down to its bits, and the last value. A map made for any other number of entries, collected
from the same list, holds the same entries. -/
theorem collect_holdsClasses {V : Type} {hashing : List UInt8 → UInt64} {memory : Memory}
    {expected : Nat} {rule : LoadFactor} {start : Map Value V LoadFactor}
    (hstart : ofCapacity memory expected (fun value => hashing value.encoding) rule = .ok start)
    {pairs : List (Value × V)} (hgrown : ∀ map ∈ start.insertionsOfMany pairs, ¬map.Outgrown) :
  ∃ outcome, collect memory expected (fun value => hashing value.encoding) rule pairs = .ok outcome
    ∧ outcome.answer = .ok () ∧ HoldsClasses pairs outcome.state.toList
    ∧ ∀ memory' expected' outcome',
      collect memory' expected' (fun value => hashing value.encoding) rule pairs = .ok outcome' →
        outcome'.answer = .ok () → outcome'.state.toList.Perm outcome.state.toList
  := by
  have hhash := Value.hashCompatible hashing
  have hcollect : collect memory expected (fun value => hashing value.encoding) rule pairs
      = .ok (start.insertMany pairs) := by
    rw [collect, hstart]
    rfl
  have hanswer := insertMany_answers hhash (isRoomy_of_ofCapacity hstart) pairs hgrown
  have hclasses := holdsClasses_of_collect hhash hcollect hanswer
  refine ⟨start.insertMany pairs, hcollect, hanswer, hclasses, ?_⟩
  intro memory' expected' outcome' hcollect' hanswer'
  apply (holdsClasses_of_collect hhash hcollect' hanswer').unique hclasses

/-- Of both zeros and of two decimals that are not numbers, the one that comes first is kept with
the value of the other one. Made for no entries, the table is doubled once, and made for thirteen it
is twice as large from the beginning: two of the entries then come in the other order. -/
theorem collect_holdsClasses_of_zeros :
  let hash := fun value : Value => Hashing.lastWord.hash value.encoding
  let memory : Memory := ⟨40, fun _ => true⟩
  let rule : LoadFactor := {}
  let pairs := [(.decimal ⟨0x8000000000000000⟩, 1), (.decimal ⟨0x7ff8000000000001⟩, 2),
    (.decimal ⟨0⟩, 3), (.bigInt 2, 4), (.decimal ⟨0xfff0000000000001⟩, 5), (.null, 6),
    (.bigInt 8, 7), (.bigInt 16, 8)]
  let small : Map Value Nat LoadFactor := ⟨hash, rule, .blank 3⟩
  let large : Outcome (Map Value Nat LoadFactor) Unit := insertMany pairs ⟨hash, rule, .blank 5⟩
  ofCapacity memory 0 hash rule = .ok small
    ∧ (∀ map ∈ small.insertionsOfMany pairs, ¬map.Outgrown)
    ∧ collect memory 13 hash rule pairs = .ok large ∧ large.answer = .ok ()
    ∧ firstKey? pairs (.decimal ⟨0⟩) = some (.decimal ⟨0x8000000000000000⟩)
    ∧ lastValue? pairs (.decimal ⟨0⟩) = some 3
    ∧ ∃ outcome, collect memory 0 hash rule pairs = .ok outcome ∧ outcome.answer = .ok ()
      ∧ HoldsClasses pairs outcome.state.toList ∧ large.state.toList.Perm outcome.state.toList
  := by
  intro hash memory rule pairs small large
  have hstart : ofCapacity memory 0 hash rule = .ok small := rfl
  have hgrown : ∀ map ∈ small.insertionsOfMany pairs, ¬map.Outgrown := by decide
  have hlevel : SizingRule.startLevel? rule 13 = some 5 := by decide
  have hcollect : collect memory 13 hash rule pairs = .ok large := by
    rw [collect, ofCapacity, hlevel]
    rfl
  have hanswer : large.answer = .ok () := by decide
  obtain ⟨outcome, hsmall, hsmallanswer, hclasses, hothers⟩ := collect_holdsClasses hstart hgrown
  exact ⟨hstart, hgrown, hcollect, hanswer, rfl, rfl, outcome, hsmall, hsmallanswer, hclasses,
    hothers memory 13 large hcollect hanswer⟩

end Map

end OpenAddressing
