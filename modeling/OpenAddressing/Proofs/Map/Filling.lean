import OpenAddressing.Proofs.Map.InPlace

/-!
# Runs that fill a map

The keys that a run puts are known beforehand, and without a removal nothing else happens to the
set of keys. So a property may speak of a map together with the keys that are still to be put:
`Fills` says that it lets the first of them be put and then holds for the others. All calls of
such a run answer, and the property holds until no key is left.
-/

namespace OpenAddressing

namespace Op

variable {K V : Type}

/-- The keys that the call puts, one after the other. -/
def puts : Op K V → List K
  | insert key _ => [key]
  | insertMany pairs => pairs.map Prod.fst
  | _ => []

/-- Whether the call is there to remove entries. -/
def isRemoval : Op K V → Bool
  | erase _ => true
  | erasePair _ => true
  | clear => true
  | _ => false

/-- The keys that a run puts, one after the other. -/
def putsOf (ops : List (Op K V)) : List K :=
  ops.flatMap puts

theorem putsOf_cons_append (op : Op K V) (ops : List (Op K V)) (keys : List K) :
  putsOf (op :: ops) ++ keys = op.puts ++ (putsOf ops ++ keys)
  := List.append_assoc _ _ _

theorem putsOf_append (ops more : List (Op K V)) :
  putsOf (ops ++ more) = putsOf ops ++ putsOf more
  := List.flatMap_append

theorem removes_eq_false [BEq K] {op : Op K V} (hadds : op.isRemoval = false) (key : K) :
  op.removes key = false
  := by
  cases op with
  | erase _ => cases hadds
  | erasePair _ => cases hadds
  | clear => cases hadds
  | _ => rfl

end Op

namespace Map

variable {K V P : Type} [BEq K] [SizingRule P] {map : Map K V P}

/-! ### Runs in parts -/

theorem run_append (ops more : List (Op K V)) (map : Map K V P) :
  (map.run (ops ++ more)).1 = ((map.run ops).1.run more).1
  := by
  induction ops generalizing map with
  | nil => rfl
  | cons op ops ih => apply ih

/-- A run of which every call answers does not stop before its end. -/
theorem runToFault_of_answers {ops : List (Op K V)}
    (hanswers : ∀ answer ∈ (map.run ops).2, ∃ reply, answer = .ok reply) :
  ∃ replies, (map.runToFault ops).answer = .ok replies
    ∧ (map.runToFault ops).state = (map.run ops).1
  := by
  induction ops generalizing map with
  | nil => exact ⟨[], rfl, rfl⟩
  | cons op ops ih =>
      obtain ⟨reply, hreply⟩ := hanswers _ List.mem_cons_self
      obtain ⟨replies, hreplies, hstate⟩ := ih fun answer hanswer =>
        hanswers answer (List.mem_cons_of_mem _ hanswer)
      use reply :: replies
      rw [runToFault, Outcome.andThen_of_ok hreply]
      constructor
      · rw [Outcome.map_answer, hreplies]
        rfl
      · apply hstate

/-! ### Keys still to be put -/

/-- A property of maps and of keys that are still to be put. It lets the first of them be put, and
is kept by every call that is not a removal. -/
structure Fills (Inv : List K → Map K V P → Prop) : Prop where
  insert : ∀ {map key keys} value, Inv (key :: keys) map →
    (∃ old, (map.insert key value).answer = .ok old) ∧ Inv keys (map.insert key value).state
  modify : ∀ {map keys} key f, Inv keys map → Inv keys (map.modify key f).1
  mapValues : ∀ {map keys} f, Inv keys map → Inv keys (map.mapValues f)

namespace Fills

variable {Inv : List K → Map K V P → Prop} (hfills : Fills Inv)
include hfills

theorem insertMany (pairs : List (K × V)) {keys : List K}
    (h : Inv (pairs.map Prod.fst ++ keys) map) :
  (map.insertMany pairs).answer = .ok () ∧ Inv keys (map.insertMany pairs).state
  := by
  induction pairs generalizing map with
  | nil => exact ⟨rfl, h⟩
  | cons pair pairs ih =>
      obtain ⟨⟨old, hold⟩, hnext⟩ := hfills.insert pair.2 h
      rw [Map.insertMany, Outcome.andThen_of_ok hold]
      apply ih hnext

/-- A call that is not a removal answers, and puts the first of the keys. -/
theorem exec {op : Op K V} (hadds : op.isRemoval = false) {keys : List K}
    (h : Inv (op.puts ++ keys) map) :
  (∃ reply, (map.exec op).answer = .ok reply) ∧ Inv keys (map.exec op).state
  := by
  cases op with
  | insert key value =>
      obtain ⟨⟨old, hold⟩, hnext⟩ := hfills.insert value h
      use ⟨.value? old, by rw [Map.exec, Outcome.map_answer, hold]; rfl⟩
      apply hnext
  | insertMany pairs =>
      obtain ⟨hanswer, hnext⟩ := hfills.insertMany pairs h
      use ⟨.done, by rw [Map.exec, Outcome.map_answer, hanswer]; rfl⟩
      apply hnext
  | modify key f => exact ⟨⟨_, rfl⟩, hfills.modify key f h⟩
  | mapValues f => exact ⟨⟨_, rfl⟩, hfills.mapValues f h⟩
  | erase _ => cases hadds
  | erasePair _ => cases hadds
  | clear => cases hadds
  | _ => exact ⟨⟨_, rfl⟩, h⟩

/-- A run without removals answers every call, and puts the first of the keys. -/
theorem run {ops : List (Op K V)} (hadds : ∀ op ∈ ops, op.isRemoval = false) {keys : List K}
    (h : Inv (Op.putsOf ops ++ keys) map) :
  (∀ answer ∈ (map.run ops).2, ∃ reply, answer = .ok reply) ∧ Inv keys (map.run ops).1
  := by
  induction ops generalizing map with
  | nil => exact ⟨fun _ hanswer => absurd hanswer List.not_mem_nil, h⟩
  | cons op ops ih =>
      rw [Op.putsOf_cons_append] at h
      obtain ⟨hreply, hnext⟩ := hfills.exec (hadds op List.mem_cons_self) h
      obtain ⟨hreplies, hlast⟩ := ih (fun other hother =>
        hadds other (List.mem_cons_of_mem op hother)) hnext
      use List.forall_mem_cons.mpr ⟨hreply, hreplies⟩
      apply hlast

/-! ### Runs in place -/

theorem insertionsOfMany (pairs : List (K × V)) {keys : List K}
    (h : Inv (pairs.map Prod.fst ++ keys) map) :
  ∀ other ∈ map.insertionsOfMany pairs, ∃ key rest, Inv (key :: rest) other
  := by
  induction pairs generalizing map with
  | nil =>
      intro other hother
      cases hother
  | cons pair pairs ih =>
      obtain ⟨⟨old, hold⟩, hnext⟩ := hfills.insert pair.2 h
      rw [Map.insertionsOfMany]
      simp only [hold]
      exact List.forall_mem_cons.mpr ⟨⟨_, _, h⟩, ih hnext⟩

variable (hput : ∀ {map key keys}, Inv (key :: keys) map → map.table.StaysPut map.beforeInsert)
include hput

theorem actsInPlace {op : Op K V} (hadds : op.isRemoval = false) {keys : List K}
    (h : Inv (op.puts ++ keys) map) :
  map.ActsInPlace op
  := by
  cases op with
  | insert key value => exact List.forall_mem_singleton.mpr (hput h)
  | insertMany pairs =>
      intro other hother
      obtain ⟨key, rest, hinv⟩ := hfills.insertionsOfMany pairs h other hother
      apply hput hinv
  | erase _ => cases hadds
  | erasePair _ => cases hadds
  | clear => cases hadds
  | _ =>
      intro other hother
      cases hother

/-- If the property lets keys be put without a rebuild, then a run without removals has none
made. -/
theorem runsInPlace {ops : List (Op K V)} (hadds : ∀ op ∈ ops, op.isRemoval = false)
    {keys : List K} (h : Inv (Op.putsOf ops ++ keys) map) :
  map.RunsInPlace ops
  := by
  induction ops generalizing map with
  | nil => exact trivial
  | cons op ops ih =>
      rw [Op.putsOf_cons_append] at h
      have hop := hadds op List.mem_cons_self
      use hfills.actsInPlace hput hop h
      apply ih (fun other hother => hadds other (List.mem_cons_of_mem op hother))
      apply (hfills.exec hop h).2

end Fills

end Map

end OpenAddressing
