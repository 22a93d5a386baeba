import OpenAddressing.Proofs.Map.Headroom
import OpenAddressing.Proofs.Map.Refinement
import OpenAddressing.Proofs.Sizing.Transition

/-!
# The load of a map in a run

The load of a map under a load factor rule changes by the transitions of loads: `IsRoomy.insertion`
and `IsRoomy.removal` say so of one insertion and one removal, and only `clear` changes the load
besides. So what the transitions keep is kept by every run.
-/

namespace OpenAddressing

namespace Map

variable {K V : Type} [BEq K] {hash : K → UInt64} {floor : Nat} {map : Map K V LoadFactor}

/-- The rule stays as it is. -/
theorem kept_rule (rule : LoadFactor) :
  Kept fun map : Map K V LoadFactor => map.rule = rule
  := by
  constructor
  case insert =>
    rintro map key value rfl
    rfl
  case erasePair =>
    rintro map key rfl
    rfl
  case modify =>
    rintro map key f rfl
    rfl
  case mapValues =>
    rintro map f rfl
    rfl
  case clear =>
    rintro map rfl
    rfl

/-- A change of a value is not counted. -/
theorem load_modify (map : Map K V LoadFactor) (key : K) (f : V → V) :
  (map.modify key f).1.table.load = map.table.load
  := Table.load_modify _ _ _ _

variable [EquivBEq K]

/-! ### One insertion, one removal -/

namespace IsRoomy

variable (h : map.IsRoomy hash floor) (hhash : HashCompatible hash)
include h hhash

/-- A completed rebuild has the keys that were there before. -/
theorem contains_resize {wanted : Option Resize}
    (hanswer : (map.table.resize wanted).answer = .ok ()) (key : K) :
  map.contains key = ((map.table.resize wanted).state.dictionary.find? key).isSome
  := by
  obtain ⟨-, hagrees⟩ := h.sound.table.wellFormed.resize_yields wanted () hanswer
  rw [h.sound.contains_eq hhash, hagrees.find?_eq key]
  rfl

/-- What an insertion does to the load of a map. -/
theorem insertion (key : K) (value : V) :
  map.rule.Insertion map.table.load (map.contains key) (map.insert key value).state.table.load
  := by
  rw [insert_eq, Outcome.within_state, h.sound.hash_eq]
  rcases h.beforeInsert_cases with ⟨⟨hgrow, hmax⟩, hbefore⟩ | ⟨hanswer, hused, -⟩
  · rw [hbefore]
    exact .refuse _ hgrow hmax
  · rw [Outcome.andThen_of_ok hanswer]
    rw [beforeInsert_eq] at hanswer hused ⊢
    have hwell := (h.sound.table.resize (map.rule.onInsert map.table.load)).wellFormed
    have hload := h.sound.table.wellFormed.load_resize hanswer
    rw [h.contains_resize hhash hanswer]
    rcases hwell.insert_cases hhash key value with ⟨i, entry, hslot, hkey, hinsert⟩
      | ⟨i, tombstone, -, hslot, habsent, hinsert⟩ | ⟨hfull, -, -⟩
    · rw [hinsert, hwell.dictionary_find?_eq_some hslot hkey]
      change map.rule.Insertion _ true (map.table.resize _).state.load
      rw [hload]
      exact .replace
    · rw [hinsert, Table.WellFormed.dictionary_find?_eq_none habsent]
      change map.rule.Insertion _ false ((map.table.resize _).state.load.filled tombstone)
      rw [hload]
      apply LoadFactor.Insertion.add
      rintro rfl
      rw [← hload]
      apply hwell.tombstones_pos hslot
    · omega

/-- What a removal does to the load of a map. -/
theorem removal (key : K) :
  map.rule.Removal map.table.load (map.contains key) (map.erasePair key).state.table.load
  := by
  obtain ⟨hanswer, -⟩ := h.beforeErase_of_room
  rw [erasePair_eq, Outcome.within_state, Outcome.map_state, Outcome.andThen_of_ok hanswer,
    h.sound.hash_eq]
  rw [beforeErase_eq] at hanswer ⊢
  have hwell := (h.sound.table.resize (map.rule.onErase map.table.load)).wellFormed
  have hload := h.sound.table.wellFormed.load_resize hanswer
  rw [h.contains_resize hhash hanswer]
  rcases hwell.erase_cases hhash key with ⟨i, entry, hslot, hkey, herase⟩ | ⟨habsent, herase⟩
  · rw [herase, hwell.dictionary_find?_eq_some hslot hkey]
    change map.rule.Removal _ true (map.table.resize _).state.load.vacated
    rw [hload]
    apply LoadFactor.Removal.vacate
    rw [← hload]
    apply hwell.live_pos hslot
  · rw [herase, Table.WellFormed.dictionary_find?_eq_none habsent]
    change map.rule.Removal _ false (map.table.resize _).state.load
    rw [hload]
    exact .miss

end IsRoomy

/-- A new map has no keys. -/
theorem contains_eq_false_of_ofCapacity {memory : Memory} {capacity : Nat} {rule : LoadFactor}
    {start : Map K V LoadFactor} (hhash : HashCompatible hash)
    (hstart : ofCapacity memory capacity hash rule = .ok start) (key : K) :
  start.contains key = false
  := by
  by_contra hcontains
  have hsound := isSound_of_ofCapacity hstart
  have hsize := hsound.size_pos hhash (eq_true_of_ne_false hcontains)
  obtain ⟨level, -, -, rfl⟩ := eq_of_ofCapacity hstart
  cases hsize

/-! ### Runs -/

variable {Inv : Load → Prop}

/-- What insertions keep is kept by many. -/
theorem insertMany_load (hhash : HashCompatible hash) (h : map.IsRoomy hash floor)
    (hinsertion : ∀ {load present next}, map.rule.Insertion load present next →
      Inv load → Inv next)
    (pairs : List (K × V)) (hinv : Inv map.table.load) :
  Inv (map.insertMany pairs).state.table.load
  := by
  have hinsert : ∀ (other : Map K V LoadFactor) key value,
      other.IsRoomy hash floor ∧ other.rule = map.rule ∧ Inv other.table.load →
      (other.insert key value).state.IsRoomy hash floor
        ∧ (other.insert key value).state.rule = map.rule
        ∧ Inv (other.insert key value).state.table.load := by
    rintro other key value ⟨hother, hrule, hload⟩
    use (kept_isRoomy hhash floor).insert other key value hother
    use (kept_rule map.rule).insert other key value hrule
    have hstep := hother.insertion hhash key value
    rw [hrule] at hstep
    apply hinsertion hstep hload
  apply (insertMany_state_of hinsert pairs ⟨h, rfl, hinv⟩).2.2

/-- What insertions keep, and a removal and a clearing if they are made, is kept by a call. -/
theorem exec_load (hhash : HashCompatible hash) (h : map.IsRoomy hash floor)
    (hinsertion : ∀ {load present next}, map.rule.Insertion load present next →
      Inv load → Inv next)
    (hremoval : ∀ {present next}, map.rule.Removal map.table.load present next → Inv next)
    (op : Op K V) (hclear : op = .clear → Inv map.table.load.cleared)
    (hinv : Inv map.table.load) :
  Inv (map.exec op).state.table.load
  := by
  cases op with
  | insert key value => apply hinsertion (h.insertion hhash key value) hinv
  | insertMany pairs => apply insertMany_load hhash h hinsertion pairs hinv
  | modify key f =>
      change Inv (map.modify key f).1.table.load
      rw [load_modify]
      apply hinv
  | erase key => apply hremoval (h.removal hhash key)
  | erasePair key => apply hremoval (h.removal hhash key)
  | clear => apply hclear rfl
  | _ => apply hinv

/-- What insertions and removals keep, and clearings if there are any, is kept by a run. -/
theorem run_load (hhash : HashCompatible hash) (h : map.IsRoomy hash floor)
    (hkeeps : map.rule.Keeps Inv) (ops : List (Op K V))
    (hclear : .clear ∈ ops → ∀ load, Inv load → Inv load.cleared)
    (hinv : Inv map.table.load) :
  Inv (map.run ops).1.table.load
  := by
  induction ops generalizing map with
  | nil => apply hinv
  | cons op ops ih =>
      have hrule := (kept_rule map.rule).exec op rfl
      apply ih ((kept_isRoomy hhash floor).exec op h)
      · rw [hrule]
        apply hkeeps
      · intro hmem
        apply hclear (List.mem_cons_of_mem op hmem)
      · apply exec_load hhash h hkeeps.insertion (fun hremoval => hkeeps.removal hremoval hinv)
        · rintro rfl
          apply hclear List.mem_cons_self _ hinv
        · apply hinv

/-- What holds of new tables, and is kept by insertions, removals and clearings if there are any,
holds in every state of a run. -/
theorem run_load_of_ofCapacity {memory : Memory} {capacity : Nat} {rule : LoadFactor}
    {start : Map K V LoadFactor} (hhash : HashCompatible hash)
    (hstart : ofCapacity memory capacity hash rule = .ok start) (hkeeps : rule.Keeps Inv)
    (ops : List (Op K V)) (hclear : .clear ∈ ops → ∀ load, Inv load → Inv load.cleared)
    (hfresh : ∀ level, rule.minLevel ≤ level → Inv (.fresh level)) :
  Inv (start.run ops).1.table.load
  := by
  have hroomy := isRoomy_of_ofCapacity hstart
  obtain ⟨level, hlevel, -, rfl⟩ := eq_of_ofCapacity hstart
  apply run_load hhash hroomy hkeeps ops hclear
  apply hfresh level (LoadFactor.minLevel_le_of_startLevel? hlevel)

end Map

end OpenAddressing
