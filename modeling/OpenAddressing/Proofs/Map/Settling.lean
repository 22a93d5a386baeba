import OpenAddressing.Proofs.Map.InPlace
import OpenAddressing.Proofs.Map.LoadRun

/-!
# Removals of absent keys

A removal asks the sizing rule whether its key is present or not, so one that finds nothing may
have the table rebuilt all the same. Under a load factor rule this comes to an end: a rebuild
leaves no tombstones, so that none but the first compacts the table, and each halving takes the
table one level closer to the one it was created at. Once a removal of an absent key has no rebuild
made, nothing has changed, and so nothing will change with the next one.

* `run_settles`: in every state of a run, any number of removals of absent keys has at most as many
  rebuilds made as the table is levels above the one it was created at, or one, and the first of
  them that has none made is where the map stays as it is.
-/

namespace OpenAddressing

/-! ### Rebuilds that are left -/

namespace LoadFactor

variable {rule : LoadFactor} {load : Load}

/-- The largest number of rebuilds that removals of absent keys may have made. -/
def rebuildsLeft (rule : LoadFactor) (load : Load) : Nat :=
  match rule.onErase load with
  | none => 0
  | some .compact => 1
  | some _ => load.level - load.floor

theorem rebuildsLeft_le (rule : LoadFactor) (load : Load) :
  rule.rebuildsLeft load ≤ max 1 (load.level - load.floor)
  := by
  rw [rebuildsLeft]
  split
  · apply Nat.zero_le
  · apply Nat.le_max_left
  · apply Nat.le_max_right

/-- A rebuild that is wanted for an absent key is one less for the next one. After a compaction
nothing is wanted, and after a halving another halving at most, since no tombstones are left. -/
theorem rebuildsLeft_resized {resize : Resize} (hwanted : rule.onErase load = some resize) :
  rule.rebuildsLeft (load.resized (some resize)) < rule.rebuildsLeft load
  := by
  rcases rule.onErase_cases load with ⟨hnone, -⟩ | ⟨hcompact, hdense, -⟩
    | ⟨hshrink, -, hlevel⟩
  · rw [hnone] at hwanted
    cases hwanted
  · rw [hcompact] at hwanted
    cases hwanted
    have hnext : rule.onErase (load.rebuilt load.level) = none := by
      rcases rule.onErase_cases (load.rebuilt load.level) with ⟨hnone, -⟩ | ⟨-, -, hover⟩
        | ⟨-, hsparse, hlevel⟩
      · apply hnone
      · apply absurd hover (Nat.not_lt_zero _)
      · rcases hdense with hdense | hdense
        · apply absurd hsparse (Nat.not_lt_of_le hdense)
        · apply absurd hlevel (Nat.not_lt_of_le hdense)
    change rule.rebuildsLeft (load.rebuilt load.level) < _
    rw [rebuildsLeft, rebuildsLeft, hnext, hcompact]
    apply Nat.zero_lt_one
  · rw [hshrink] at hwanted
    cases hwanted
    have hfloor : load.floor < load.level := Nat.lt_of_le_of_lt (Nat.le_max_right _ _) hlevel
    change rule.rebuildsLeft (load.rebuilt (load.level - 1)) < _
    rw [rebuildsLeft, rebuildsLeft, hshrink]
    rcases rule.onErase_cases (load.rebuilt (load.level - 1)) with ⟨hnone, -⟩ | ⟨-, -, hover⟩
      | ⟨hagain, -, -⟩
    · rw [hnone]
      apply Nat.sub_pos_of_lt hfloor
    · apply absurd hover (Nat.not_lt_zero _)
    · rw [hagain]
      change load.level - 1 - load.floor < load.level - load.floor
      omega

end LoadFactor

namespace Op

variable {K V : Type}

/-- What the call answers if it is a removal that finds nothing. -/
def missing : Op K V → Reply K V
  | erasePair _ => .pair? none
  | _ => .value? none

end Op

namespace Map

variable {K V : Type} [BEq K]

/-- The call is a removal, and of a key that the map does not have. -/
def Misses {P : Type} (map : Map K V P) : Op K V → Prop
  | .erase key => map.contains key = false
  | .erasePair key => map.contains key = false
  | _ => False

variable [EquivBEq K] {hash : K → UInt64} {floor : Nat} {map : Map K V LoadFactor}

/-! ### One removal -/

/-- The map after the removal of an absent key: the rebuild that was wanted is made. -/
def afterMiss (map : Map K V LoadFactor) : Map K V LoadFactor :=
  { map with table := map.beforeErase.state }

namespace IsRoomy

variable (h : map.IsRoomy hash floor)
include h

/-- A rebuild that is made is one of those that were left. -/
theorem length_rebuilds_beforeErase :
  map.beforeErase.rebuilds.length + map.rule.rebuildsLeft map.afterMiss.table.load
    ≤ map.rule.rebuildsLeft map.table.load
  := by
  obtain ⟨hanswer, -⟩ := h.beforeErase_of_room
  rw [beforeErase_eq] at hanswer
  have hload := h.sound.table.wellFormed.load_resize hanswer
  rw [afterMiss, beforeErase_eq, hload]
  rcases h.sound.table.wellFormed.resize_cases (map.rule.onErase map.table.load) with
    ⟨hnone, hresize⟩ | ⟨cause, hresize⟩ | ⟨resize, level, hwanted, -, -, hrebuilt⟩
  · rw [hresize, hnone]
    apply Nat.le_of_eq (Nat.zero_add _)
  · rw [hresize] at hanswer
    cases hanswer
  · have hrebuilds := hrebuilt.rebuilds_eq
    have hless := LoadFactor.rebuildsLeft_resized hwanted
    rw [← hwanted] at hless
    split at hrebuilds
    · rw [hrebuilds, List.length_singleton]
      omega
    · rw [hrebuilds, List.length_nil]
      omega

/-- If no rebuild is made, none was wanted. -/
theorem onErase_eq_none (hrebuilds : map.beforeErase.rebuilds = []) :
  map.rule.onErase map.table.load = none
  := by
  obtain ⟨hanswer, -⟩ := h.beforeErase_of_room
  rw [beforeErase_eq] at hanswer hrebuilds
  apply h.sound.table.wellFormed.eq_none_of_resize hanswer hrebuilds

theorem entries_afterMiss_perm :
  map.afterMiss.entries.Perm map.entries
  := by
  obtain ⟨hanswer, -⟩ := h.beforeErase_of_room
  apply h.sound.table.wellFormed.entries_resize_perm hanswer

theorem isRoomy_afterMiss :
  map.afterMiss.IsRoomy hash floor
  := by
  obtain ⟨-, hroom⟩ := h.beforeErase_of_room
  exact ⟨⟨h.sound.hash_eq, h.sound.table.resize _⟩, hroom⟩

variable (hhash : HashCompatible hash)
include hhash

theorem contains_afterMiss (key : K) :
  map.afterMiss.contains key = map.contains key
  := by
  obtain ⟨hanswer, -⟩ := h.beforeErase_of_room
  rw [h.isRoomy_afterMiss.sound.contains_eq hhash, h.contains_resize hhash hanswer]
  rfl

/-- The removal of an absent key is the wanted rebuild, and nothing besides. -/
theorem erasePair_of_absent {key : K} (habsent : map.contains key = false) :
  map.erasePair key = ⟨map.afterMiss, map.beforeErase.rebuilds, .ok none⟩
  := by
  obtain ⟨hanswer, -⟩ := h.beforeErase_of_room
  have hwell := h.isRoomy_afterMiss.sound.table.wellFormed
  have hmiss : map.beforeErase.state.erase (hash key) key = .ok map.beforeErase.state none := by
    rcases hwell.erase_cases hhash key with ⟨i, entry, hslot, hkey, -⟩ | ⟨-, herase⟩
    · rw [h.contains_resize hhash hanswer] at habsent
      have hfound := hwell.dictionary_find?_eq_some hslot hkey
      rw [show (map.table.resize _).state.dictionary.find? key = _ from hfound] at habsent
      cases habsent
    · apply herase
  rw [erasePair_eq, h.sound.hash_eq, Outcome.andThen_of_ok hanswer, hmiss]
  simp only [Outcome.within, Outcome.map, Outcome.ok, List.append_nil]
  rw [← h.sound.hash_eq]
  rfl

/-- A call that misses is the wanted rebuild, and nothing besides. -/
theorem exec_of_misses {op : Op K V} (hmisses : map.Misses op) :
  map.exec op = ⟨map.afterMiss, map.beforeErase.rebuilds, .ok op.missing⟩
  := by
  cases op with
  | erase key =>
      rw [exec, Map.erase, h.erasePair_of_absent hhash hmisses]
      rfl
  | erasePair key =>
      rw [exec, h.erasePair_of_absent hhash hmisses]
      rfl
  | _ => cases hmisses

/-- What a call misses it misses also once the wanted rebuild is made. -/
theorem misses_afterMiss {op : Op K V} (hmisses : map.Misses op) :
  map.afterMiss.Misses op
  := by
  cases op with
  | erase key => exact (h.contains_afterMiss hhash key).trans hmisses
  | erasePair key => exact (h.contains_afterMiss hhash key).trans hmisses
  | _ => cases hmisses

end IsRoomy

/-! ### Many removals -/

/-- Removals of absent keys answer that they find nothing and keep the entries. They have no more
rebuilds made than are left. -/
structure Settles (map : Map K V LoadFactor) (ops : List (Op K V))
    (outcome : Outcome (Map K V LoadFactor) (List (Reply K V))) : Prop where
  answer_eq : outcome.answer = .ok (ops.map Op.missing)
  entries_perm : outcome.state.entries.Perm map.entries
  length_rebuilds_le : outcome.rebuilds.length ≤ map.rule.rebuildsLeft map.table.load

namespace IsRoomy

theorem settles (hhash : HashCompatible hash) (h : map.IsRoomy hash floor) {ops : List (Op K V)}
    (hmisses : ∀ op ∈ ops, map.Misses op) :
  map.Settles ops (map.runToFault ops)
  := by
  induction ops generalizing map with
  | nil => exact ⟨rfl, .refl _, Nat.zero_le _⟩
  | cons op ops ih =>
      have hfirst := h.exec_of_misses hhash (hmisses op List.mem_cons_self)
      have hrest := ih h.isRoomy_afterMiss fun other hother =>
        h.misses_afterMiss hhash (hmisses other (List.mem_cons_of_mem op hother))
      have hanswer : (map.exec op).answer = .ok op.missing := by rw [hfirst]
      rw [runToFault, Outcome.andThen_of_ok hanswer, hfirst]
      constructor
      case answer_eq =>
        rw [Outcome.map_answer, hrest.answer_eq]
        rfl
      case entries_perm => apply hrest.entries_perm.trans h.entries_afterMiss_perm
      case length_rebuilds_le =>
        rw [List.length_append]
        apply Nat.le_trans _ h.length_rebuilds_beforeErase
        apply Nat.add_le_add_left hrest.length_rebuilds_le

/-- Where no rebuild is wanted before a removal, removals of absent keys leave the map as it is. -/
theorem runToFault_of_onErase_eq_none (hhash : HashCompatible hash) (h : map.IsRoomy hash floor)
    (hnone : map.rule.onErase map.table.load = none) {ops : List (Op K V)}
    (hmisses : ∀ op ∈ ops, map.Misses op) :
  map.runToFault ops = .ok map (ops.map Op.missing)
  := by
  have hbefore : map.beforeErase = .ok map.table () := by
    rw [beforeErase_eq, hnone]
    rfl
  induction ops with
  | nil => rfl
  | cons op ops ih =>
      have hfirst := h.exec_of_misses hhash (hmisses op List.mem_cons_self)
      rw [afterMiss, hbefore] at hfirst
      rw [runToFault, show map.exec op = .ok map op.missing from hfirst, Outcome.ok_andThen,
        ih fun other hother => hmisses other (List.mem_cons_of_mem op hother)]
      rfl

/-- The keys that a map does not have are missed also after some of them were removed. -/
theorem runToFault_misses (hhash : HashCompatible hash) (h : map.IsRoomy hash floor)
    {ops : List (Op K V)} (hops : ∀ op ∈ ops, map.Misses op) :
  (map.runToFault ops).state.IsRoomy hash floor
    ∧ ∀ op, map.Misses op → (map.runToFault ops).state.Misses op
  := by
  induction ops generalizing map with
  | nil => exact ⟨h, fun _ hop => hop⟩
  | cons first ops ih =>
      have hfirst := h.exec_of_misses hhash (hops first List.mem_cons_self)
      have hanswer : (map.exec first).answer = .ok first.missing := by rw [hfirst]
      obtain ⟨hroomy, hrest⟩ := ih h.isRoomy_afterMiss fun other hother =>
        h.misses_afterMiss hhash (hops other (List.mem_cons_of_mem first hother))
      rw [runToFault, Outcome.andThen_of_ok hanswer, hfirst]
      use hroomy
      intro op hop
      apply hrest op (h.misses_afterMiss hhash hop)

end IsRoomy

/-! ### Runs -/

/-- In every state of a run, and for any number of removals of keys that are absent there, each of
the removals answers that it finds nothing, and none changes the entries. Together they have no
more rebuilds made than the table is levels above the one it was created at, or a single one. From
the first removal on that has no rebuild made, the map stays just as it is. -/
theorem run_settles {memory : Memory} {capacity : Nat} {rule : LoadFactor}
    {start : Map K V LoadFactor} (hhash : HashCompatible hash)
    (hstart : ofCapacity memory capacity hash rule = .ok start) (ops : List (Op K V))
    {removals : List (Op K V)} (hmisses : ∀ op ∈ removals, (start.run ops).1.Misses op) :
  let map := (start.run ops).1
  (map.runToFault removals).answer = .ok (removals.map Op.missing)
    ∧ (∀ n, (map.runToFault (removals.take n)).state.entries.Perm map.entries)
    ∧ (map.runToFault removals).rebuilds.length
      ≤ max 1 (map.table.load.level - map.table.load.floor)
    ∧ ∀ before op after, removals = before ++ op :: after →
      let middle := (map.runToFault before).state
      (middle.exec op).rebuilds = [] →
        ∀ n, middle.runToFault ((op :: after).take n)
          = .ok middle (((op :: after).take n).map Op.missing)
  := by
  intro map
  have hroomy : map.IsRoomy hash start.table.load.level :=
    (kept_isRoomy hhash _).run ops (isRoomy_of_ofCapacity hstart)
  have hsettles := hroomy.settles hhash hmisses
  refine ⟨hsettles.answer_eq, ?_, ?_, ?_⟩
  · intro n
    apply (hroomy.settles hhash _).entries_perm
    intro op hop
    apply hmisses op (List.mem_of_mem_take hop)
  · apply Nat.le_trans hsettles.length_rebuilds_le (LoadFactor.rebuildsLeft_le _ _)
  · rintro before op after rfl middle hrebuilds n
    obtain ⟨hmiddle, hkeeps⟩ := hroomy.runToFault_misses hhash fun other hother =>
      hmisses other (List.mem_append_left _ hother)
    have hafter : ∀ other ∈ op :: after, middle.Misses other := fun other hother =>
      hkeeps other (hmisses other (List.mem_append_right _ hother))
    rw [hmiddle.exec_of_misses hhash (hafter op List.mem_cons_self)] at hrebuilds
    apply hmiddle.runToFault_of_onErase_eq_none hhash (hmiddle.onErase_eq_none hrebuilds)
    intro other hother
    apply hafter other (List.mem_of_mem_take hother)

/-- With one of two entries removed, replacing the value of the other one has a table of eight slots
doubled. Two removals of absent keys have it halved again, to the four slots it was created with,
and the third changes nothing. -/
theorem run_settles_of_two_halvings :
  let hash := Hashing.lastWord.hashValue
  let rule : LoadFactor := { maxLoad := 27, minLoad := 13, minLevel := 2 }
  let start : Map Value Nat LoadFactor := ⟨hash, rule, .blank 2⟩
  let ops := [.insert (.bigInt 1) 1, .insert (.bigInt 2) 2, .erase (.bigInt 2),
    .insert (.bigInt 1) 3]
  let removals := [.erase (.bigInt 2), .erasePair .null, .erase .null, .erasePair (.bigInt 2)]
  let map := (start.run ops).1
  let middle := (map.runToFault (removals.take 2)).state
  ofCapacity ⟨40, fun _ => true⟩ 0 hash rule = .ok start
    ∧ (∀ op ∈ removals, map.Misses op) ∧ map.table.load = ⟨4, 2, 1, 0⟩
    ∧ (map.runToFault removals).rebuilds = [⟨4, 3, 1, 0⟩, ⟨3, 2, 1, 0⟩]
    ∧ (map.runToFault removals).answer
      = .ok [.value? none, .pair? none, .value? none, .pair? none]
    ∧ (∀ n, (map.runToFault (removals.take n)).state.entries.Perm map.entries)
    ∧ (map.runToFault removals).rebuilds.length
      ≤ max 1 (map.table.load.level - map.table.load.floor)
    ∧ (middle.exec (.erase .null)).rebuilds = []
    ∧ ∀ n, middle.runToFault ([.erase .null, .erasePair (.bigInt 2)].take n)
      = .ok middle (([.erase .null, .erasePair (.bigInt 2)].take n).map Op.missing)
  := by
  intro hash rule start ops removals
  have hstart : ofCapacity ⟨40, fun _ => true⟩ 0 hash rule = .ok start := rfl
  have hmisses : ∀ op ∈ removals, (start.run ops).1.Misses op := by
    have hnull : (start.run ops).1.contains .null = false := by decide
    have htwo : (start.run ops).1.contains (.bigInt 2) = false := by decide
    exact List.forall_mem_cons.mpr ⟨htwo, List.forall_mem_cons.mpr ⟨hnull,
      List.forall_mem_cons.mpr ⟨hnull, List.forall_mem_singleton.mpr htwo⟩⟩⟩
  have hquiet : (((start.run ops).1.runToFault (removals.take 2)).state.exec
      (.erase .null)).rebuilds = [] := by decide
  obtain ⟨hanswer, hentries, hrebuilds, hstays⟩ :=
    run_settles Hashing.lastWord.hashCompatible hstart ops hmisses
  refine ⟨hstart, hmisses, by decide, by decide, hanswer, hentries, hrebuilds, hquiet, ?_⟩
  apply hstays (removals.take 2) (.erase .null) [.erasePair (.bigInt 2)] rfl hquiet

end Map

end OpenAddressing
