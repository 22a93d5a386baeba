import OpenAddressing.Proofs.Map.Headroom
import OpenAddressing.Proofs.Table.Placement

/-!
# Runs without a rebuild

As long as no call has the table rebuilt, each mutation changes one slot, and every entry that is
not removed stays in the slot it was inserted into, so that the order of the slots is kept. Where
the sizing rule wants a rebuild that is refused, the table is not rebuilt either.

* `run_placement`: in every state of a run, and also after a resize, a new key takes the first slot
  without an entry while a slot is empty, a present key is changed or removed in its own slot, and
  from there on entries stay in their slots until the next rebuild.
-/

namespace OpenAddressing

/-! ### Calls that have no rebuild made -/

namespace Outcome

variable {σ α β : Type}

theorem eq_ok {outcome : Outcome σ α} {answer : α} (hrebuilds : outcome.rebuilds = [])
    (hanswer : outcome.answer = .ok answer) :
  outcome = .ok outcome.state answer
  := by
  obtain ⟨state, rebuilds, _⟩ := outcome
  cases hrebuilds
  cases hanswer
  rfl

/-- The first part reports no rebuild if the whole reports none. -/
theorem rebuilds_eq_nil_of_andThen {outcome : Outcome σ α} {next : σ → α → Outcome σ β}
    (h : (outcome.andThen next).rebuilds = []) :
  outcome.rebuilds = []
  := by
  obtain ⟨state, rebuilds, _ | answer⟩ := outcome
  · apply h
  · apply (List.append_eq_nil_iff.mp h).1

/-- No rebuild is reported if neither part reports one. -/
theorem rebuilds_andThen_eq_nil {outcome : Outcome σ α} {next : σ → α → Outcome σ β}
    (h : outcome.rebuilds = [])
    (hnext : ∀ answer, outcome.answer = .ok answer → (next outcome.state answer).rebuilds = []) :
  (outcome.andThen next).rebuilds = []
  := by
  cases hanswer : outcome.answer with
  | error cause =>
      rw [andThen_of_error hanswer]
      apply h
  | ok answer =>
      rw [andThen_of_ok hanswer]
      change outcome.rebuilds ++ (next outcome.state answer).rebuilds = []
      rw [h, hnext answer hanswer]
      rfl

end Outcome

namespace Table

variable {K V : Type}

/-- The table is not rebuilt: no rebuild is reported, and the table stays as it is. -/
structure StaysPut (table : Table K V) (outcome : Outcome (Table K V) Unit) : Prop where
  rebuilds_eq : outcome.rebuilds = []
  state_eq : outcome.state = table

theorem staysPut_of_eq_none (table : Table K V) {wanted : Option Resize} (hwanted : wanted = none) :
  table.StaysPut (table.resize wanted)
  := by
  subst hwanted
  exact ⟨rfl, rfl⟩

variable [BEq K]

theorem rebuilds_insert (table : Table K V) (hash : UInt64) (key : K) (value : V) :
  (table.insert hash key value).rebuilds = []
  := by
  rw [insert]
  cases table.place hash key with
  | existing i entry => rfl
  | nowhere => rfl
  | vacant i tombstone =>
      dsimp only
      cases table.load.afterInsert tombstone with
      | ok load => rfl
      | error cause => rfl

theorem rebuilds_erase (table : Table K V) (hash : UInt64) (key : K) :
  (table.erase hash key).rebuilds = []
  := by
  rw [erase]
  cases table.find? hash key with
  | none => rfl
  | some i =>
      dsimp only
      cases table.slotAt i with
      | empty => rfl
      | tombstone => rfl
      | occupied entry =>
          dsimp only
          cases table.load.afterErase with
          | ok load => rfl
          | error cause => rfl

end Table

namespace Op

variable {K V : Type} [BEq K]

/-- Whether the call removes the entry of `key`, if there is one. -/
def removes : Op K V → K → Bool
  | erase other, key => other == key
  | erasePair other, key => other == key
  | clear, _ => true
  | _, _ => false

end Op

namespace Map

variable {K V P : Type} [BEq K] [SizingRule P]

/-- A call has no rebuild made, neither for its insertions nor for its removal. -/
def ActsInPlace (map : Map K V P) : Op K V → Prop
  | .erase _ => map.table.StaysPut map.beforeErase
  | .erasePair _ => map.table.StaysPut map.beforeErase
  | op => ∀ other ∈ map.insertionsOf op, other.table.StaysPut other.beforeInsert

/-- No call of a run has a rebuild made. -/
def RunsInPlace : List (Op K V) → Map K V P → Prop
  | [], _ => True
  | op :: ops, map => map.ActsInPlace op ∧ RunsInPlace ops (map.exec op).state

/-! ### No rebuild is reported -/

variable {map : Map K V P}

theorem rebuilds_insert (hput : map.table.StaysPut map.beforeInsert) (key : K) (value : V) :
  (map.insert key value).rebuilds = []
  := by
  rw [insert_eq]
  apply Outcome.rebuilds_andThen_eq_nil hput.rebuilds_eq
  intro _ _
  apply Table.rebuilds_insert

theorem rebuilds_erasePair (hput : map.table.StaysPut map.beforeErase) (key : K) :
  (map.erasePair key).rebuilds = []
  := by
  rw [erasePair_eq, Outcome.map_andThen]
  apply Outcome.rebuilds_andThen_eq_nil hput.rebuilds_eq
  intro _ _
  apply Table.rebuilds_erase

theorem rebuilds_insertMany (pairs : List (K × V))
    (hput : ∀ other ∈ map.insertionsOfMany pairs, other.table.StaysPut other.beforeInsert) :
  (map.insertMany pairs).rebuilds = []
  := by
  induction pairs generalizing map with
  | nil => rfl
  | cons pair pairs ih =>
      apply Outcome.rebuilds_andThen_eq_nil
      · apply rebuilds_insert (hput map (mem_insertionsOfMany_self map pair pairs))
      · intro old hold
        apply ih
        intro other hother
        apply hput other (mem_insertionsOfMany_of_ok hold hother)

theorem rebuilds_exec {op : Op K V} (hplace : map.ActsInPlace op) :
  (map.exec op).rebuilds = []
  := by
  cases op with
  | insert key value => apply rebuilds_insert (hplace map (List.mem_singleton_self map))
  | insertMany pairs => apply rebuilds_insertMany pairs hplace
  | erase key => apply rebuilds_erasePair hplace
  | erasePair key => apply rebuilds_erasePair hplace
  | _ => rfl

/-- A run in place reports no rebuild. -/
theorem rebuilds_runToFault {ops : List (Op K V)} (hplace : map.RunsInPlace ops) :
  (map.runToFault ops).rebuilds = []
  := by
  induction ops generalizing map with
  | nil => rfl
  | cons op ops ih =>
      apply Outcome.rebuilds_andThen_eq_nil (rebuilds_exec hplace.1)
      intro _ _
      apply ih hplace.2

/-! ### Entries stay in their slots -/

section HoldsAt

variable [EquivBEq K] {hash : K → UInt64} {floor : Nat} (hhash : HashCompatible hash)
  (h : map.IsSound hash floor) {i : Nat} {khash : UInt64} {key : K}
  (hholds : map.table.HoldsAt i khash key)
include hhash h hholds

theorem holdsAt_insert (hput : map.table.StaysPut map.beforeInsert) (other : K) (value : V) :
  (map.insert other value).state.table.HoldsAt i khash key
  := by
  rw [insert_eq, h.hash_eq]
  rw [← hput.state_eq] at hholds
  apply Outcome.andThen_state_of hholds
  intro _ _
  apply (h.table.resize _).wellFormed.holdsAt_insert hhash hholds

theorem holdsAt_erasePair (hput : map.table.StaysPut map.beforeErase) {other : K}
    (hother : (other == key) = false) :
  (map.erasePair other).state.table.HoldsAt i khash key
  := by
  rw [erasePair_eq, h.hash_eq, Outcome.within_state, Outcome.map_state]
  rw [← hput.state_eq] at hholds
  apply Outcome.andThen_state_of hholds
  intro _ _
  apply (h.table.resize _).wellFormed.holdsAt_erase hhash hholds hother

theorem holdsAt_insertMany (pairs : List (K × V))
    (hput : ∀ other ∈ map.insertionsOfMany pairs, other.table.StaysPut other.beforeInsert) :
  (map.insertMany pairs).state.table.HoldsAt i khash key
  := by
  induction pairs generalizing map with
  | nil => apply hholds
  | cons pair pairs ih =>
      have hnext := holdsAt_insert hhash h hholds
        (hput map (mem_insertionsOfMany_self map pair pairs)) pair.1 pair.2
      rw [insertMany]
      apply @Outcome.andThen_state_of _ _ _ (fun next : Map K V P => next.table.HoldsAt i khash key)
        _ _ hnext
      intro old hold
      apply ih ((kept_isSound hhash floor).insert map pair.1 pair.2 h) hnext
      intro other hother
      apply hput other (mem_insertionsOfMany_of_ok hold hother)

/-- A call in place that does not remove a key leaves its entry where it is. -/
theorem holdsAt_exec {op : Op K V} (hplace : map.ActsInPlace op)
    (hkeeps : op.removes key = false) :
  (map.exec op).state.table.HoldsAt i khash key
  := by
  cases op with
  | insert other value =>
      apply holdsAt_insert hhash h hholds (hplace map (List.mem_singleton_self map))
  | insertMany pairs => apply holdsAt_insertMany hhash h hholds pairs hplace
  | modify other f =>
      have hmodify := h.table.wellFormed.holdsAt_modify hhash hholds other f
      rw [← h.hash_eq] at hmodify
      apply hmodify
  | mapValues f => apply hholds.mapValues
  | erase other => apply holdsAt_erasePair hhash h hholds hplace hkeeps
  | erasePair other => apply holdsAt_erasePair hhash h hholds hplace hkeeps
  | clear => cases hkeeps
  | _ => apply hholds

/-- A run in place that does not remove a key leaves its entry where it is. -/
theorem holdsAt_run {ops : List (Op K V)} (hplace : map.RunsInPlace ops)
    (hkeeps : ∀ op ∈ ops, op.removes key = false) :
  (map.run ops).1.table.HoldsAt i khash key
  := by
  induction ops generalizing map with
  | nil => apply hholds
  | cons op ops ih =>
      apply ih ((kept_isSound hhash floor).exec op h)
      · apply holdsAt_exec hhash h hholds hplace.1 (hkeeps op List.mem_cons_self)
      · apply hplace.2
      · intro other hother
        apply hkeeps other (List.mem_cons_of_mem op hother)

end HoldsAt

/-- In every state of a run, and also once the table has been resized there in whatever way, a new
key is inserted into the first slot of its probe sequence without an entry, provided that some slot
is empty; a present key has its value replaced, or becomes a tombstone, in the slot that holds it;
and all other slots stay as they are. So as long as no further call has a rebuild made, the entries
that are not removed stay in their slots. -/
theorem run_placement [EquivBEq K] {memory : Memory} {capacity : Nat} {hash : K → UInt64}
    {rule : P} {start : Map K V P} (hhash : HashCompatible hash)
    (hstart : ofCapacity memory capacity hash rule = .ok start) (ops : List (Op K V))
    (wanted : Option Resize) :
  let map := (start.run ops).1
  let table := (map.table.resize wanted).state
  (∀ key value, (∃ i < table.load.capacity, table.slotAt i = .empty) →
      (∀ entry ∈ table.entries, (entry.key == key) = false) →
      ∃ i, table.FillsVacancy (map.hash key) key value i (table.insert (map.hash key) key value))
    ∧ (∀ i entry key value, table.slotAt i = .occupied entry → entry.key == key →
      table.ReplacesValue i entry value (table.insert (map.hash key) key value))
    ∧ (∀ i entry key, table.slotAt i = .occupied entry → entry.key == key →
      table.LeavesTombstone i entry (table.erase (map.hash key) key))
    ∧ (∀ more, map.RunsInPlace more → ∀ i khash key, map.table.HoldsAt i khash key →
      (∀ op ∈ more, op.removes key = false) → (map.run more).1.table.HoldsAt i khash key)
  := by
  intro map table
  have hsound := (kept_isSound hhash start.table.load.level).run ops
    (isSound_of_ofCapacity hstart)
  have hwell : table.WellFormed hash := (hsound.table.resize wanted).wellFormed
  rw [show map.hash = hash from hsound.hash_eq]
  refine ⟨?_, ?_, ?_, ?_⟩
  · rintro key value ⟨i, hi, hempty⟩ habsent
    apply hwell.insert_fillsVacancy hhash hi hempty habsent
  · intro i entry key value hslot hkey
    apply hwell.insert_replacesValue hhash hslot hkey
  · intro i entry key hslot hkey
    apply hwell.erase_leavesTombstone hhash hslot hkey
  · intro more hplace i khash key hholds hkeeps
    apply holdsAt_run hhash hsound hholds hplace hkeeps

/-- Of three entries with the same hash the second was removed, and the rule wants no rebuild at
all. A key inserted then takes the tombstone, although a slot is empty. -/
theorem run_placement_of_tombstone :
  let hash := (Hashing.constant 3).hashValue
  let rule : Rule := .fixed (some 2)
  let start : Map Value Nat Rule := ⟨hash, rule, .blank 2⟩
  let map := (start.run [.insert .null 1, .insert (.boolean true) 2, .insert (.boolean false) 3,
    .erase (.boolean true)]).1
  let table := (map.table.resize none).state
  let more := [.insert (.bigInt 0) 4, .erase .null, .insert (.boolean false) 5]
  ofCapacity ⟨40, fun _ => true⟩ 0 hash rule = .ok start
    ∧ table.slotAt 0 = .tombstone ∧ table.slotAt 1 = .empty
    ∧ (∃ i, table.FillsVacancy (map.hash (.bigInt 0)) (.bigInt 0) 4 i
      (table.insert (map.hash (.bigInt 0)) (.bigInt 0) 4))
    ∧ table.ReplacesValue 2 ⟨3, .boolean false, 3⟩ 5
      (table.insert (map.hash (.boolean false)) (.boolean false) 5)
    ∧ table.LeavesTombstone 3 ⟨3, .null, 1⟩ (table.erase (map.hash .null) .null)
    ∧ map.RunsInPlace more ∧ (map.run more).1.table.HoldsAt 2 3 (.boolean false)
  := by
  have hstart : ofCapacity ⟨40, fun _ => true⟩ 0 (Hashing.constant 3).hashValue
      (.fixed (some 2) : Rule) = .ok (⟨_, _, .blank 2⟩ : Map Value Nat Rule) := rfl
  obtain ⟨hfills, hreplaces, hleaves, hstays⟩ :=
    run_placement (Hashing.constant 3).hashCompatible hstart [.insert .null 1,
      .insert (.boolean true) 2, .insert (.boolean false) 3, .erase (.boolean true)] none
  refine ⟨hstart, rfl, rfl, ?_, ?_, ?_, ?_⟩
  · apply hfills (.bigInt 0) 4 ⟨1, by decide, rfl⟩
    decide
  · apply hreplaces 2 _ (.boolean false) 5 rfl rfl
  · apply hleaves 3 _ .null rfl rfl
  · apply (and_iff_left_of_imp _).mpr
    · exact ⟨List.forall_mem_singleton.mpr (Table.staysPut_of_eq_none _ rfl),
        Table.staysPut_of_eq_none _ rfl,
        List.forall_mem_singleton.mpr (Table.staysPut_of_eq_none _ rfl), trivial⟩
    · intro hplace
      apply hstays _ hplace 2 3 (.boolean false) ⟨3, rfl⟩
      decide

end Map

end OpenAddressing
