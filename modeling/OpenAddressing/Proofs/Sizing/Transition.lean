import OpenAddressing.Proofs.Sizing.LoadFactor
import OpenAddressing.Proofs.Table.Rebuild

/-!
# What insertions and removals do to a load

Under a load factor rule the load of a table goes its own way: `Insertion` and `Removal` say all
that an insertion and a removal can do to it, whatever the keys, the hashes and the slots are.
Bounds on the counters are properties of loads that every such transition keeps.

* A table is never below the level it was created at, nor that below the minimal one.
* The slots in use stay within the maximal load if the smallest table, doubled once, has room for
  an entry.
* A table that is presized for some number of entries is not rebuilt before there are more.
* A table that only grows is at the level of a new table for its entries.
* A table above the level it was created at is filled to the minimal load, but for one entry, if
  the minimal load is at most a quarter of the maximal one and not too small.
* A table above the level it was created at is in proportion to the entries it has ever held.
* At most one tombstone is above the limit.
-/

namespace OpenAddressing

namespace LoadFactor

section Transitions

variable (rule : LoadFactor) (load : Load)

/-- What an insertion does to a load, depending on whether the key is present: nothing if there
is no level left to grow to, else the wanted rebuild is made, and a new key takes a slot. -/
inductive Insertion : Bool → Load → Prop
  | refuse (present : Bool) (hgrow : rule.onInsert load = some .grow)
      (hlevel : load.level = maxLevel) : Insertion present load
  | replace : Insertion true (load.resized (rule.onInsert load))
  | add (reused : Bool) (hreused : reused → 0 < (load.resized (rule.onInsert load)).tombstones) :
      Insertion false ((load.resized (rule.onInsert load)).filled reused)

/-- What a removal does to a load, depending on whether the key is present: the wanted rebuild is
made, and a present key leaves a tombstone. -/
inductive Removal : Bool → Load → Prop
  | miss : Removal false (load.resized (rule.onErase load))
  | vacate (hlive : 0 < (load.resized (rule.onErase load)).live) :
      Removal true (load.resized (rule.onErase load)).vacated

/-- The load that an insertion finds once the wanted rebuild is made. -/
theorem resized_onInsert_cases :
  (load.resized (rule.onInsert load) = load
      ∧ (load.used + 1) * 100 ≤ load.capacity * rule.maxLoad)
    ∨ (load.resized (rule.onInsert load) = load.rebuilt load.level ∧ load.live < load.tombstones)
    ∨ (load.resized (rule.onInsert load) = load.rebuilt (load.level + 1)
      ∧ load.tombstones ≤ load.live ∧ load.capacity * rule.maxLoad < (load.used + 1) * 100)
  := by
  rcases rule.onInsert_cases load with ⟨hwanted, h⟩ | ⟨hwanted, h⟩ | ⟨hwanted, h⟩
  · rw [hwanted]
    left
    exact ⟨rfl, h⟩
  · rw [hwanted]
    right
    left
    exact ⟨rfl, h⟩
  · rw [hwanted]
    right
    right
    exact ⟨rfl, h⟩

/-- The load that a removal finds once the wanted rebuild is made. -/
theorem resized_onErase_cases :
  (load.resized (rule.onErase load) = load
      ∧ (load.capacity * rule.minLoad ≤ load.live * 100 ∨ load.level ≤ max rule.minLevel load.floor)
      ∧ load.tombstones * 100 ≤ load.capacity * rule.maxTombstones)
    ∨ (load.resized (rule.onErase load) = load.rebuilt load.level
      ∧ (load.capacity * rule.minLoad ≤ load.live * 100
        ∨ load.level ≤ max rule.minLevel load.floor))
    ∨ (load.resized (rule.onErase load) = load.rebuilt (load.level - 1)
      ∧ load.live * 100 < load.capacity * rule.minLoad
      ∧ max rule.minLevel load.floor < load.level)
  := by
  rcases rule.onErase_cases load with ⟨hwanted, h⟩ | ⟨hwanted, h, -⟩ | ⟨hwanted, h⟩
  · rw [hwanted]
    left
    exact ⟨rfl, h⟩
  · rw [hwanted]
    right
    left
    exact ⟨rfl, h⟩
  · rw [hwanted]
    right
    right
    exact ⟨rfl, h⟩

end Transitions

/-- A property of loads that insertions and removals keep. -/
structure Keeps (rule : LoadFactor) (Inv : Load → Prop) : Prop where
  insertion : ∀ {load present next}, rule.Insertion load present next → Inv load → Inv next
  removal : ∀ {load present next}, rule.Removal load present next → Inv load → Inv next

variable {rule : LoadFactor} {load next : Load} {present : Bool}

/-! ### Levels -/

/-- An insertion has a table doubled just if the rule wants it to, unless there is no level left to
grow to. -/
theorem Insertion.level_eq (hinsertion : rule.Insertion load present next)
    (hlevel : load.level < maxLevel) :
  next.level = if rule.onInsert load = some .grow then load.level + 1 else load.level
  := by
  have hresized : (load.resized (rule.onInsert load)).level
      = if rule.onInsert load = some .grow then load.level + 1 else load.level := by
    rcases rule.onInsert_cases load with ⟨hwanted, -⟩ | ⟨hwanted, -⟩ | ⟨hwanted, -⟩
    · rw [hwanted]
      rfl
    · rw [hwanted]
      rfl
    · rw [hwanted]
      rfl
  cases hinsertion with
  | refuse _ _ hmax => apply absurd hmax hlevel.ne
  | replace => apply hresized
  | add reused _ => apply hresized

theorem Removal.eq (hremoval : rule.Removal load present next) :
  next = if present then (load.resized (rule.onErase load)).vacated
    else load.resized (rule.onErase load)
  := by
  cases hremoval with
  | miss => rfl
  | vacate _ => rfl

/-- A table that loses slots with a removal is halved. Its entries filled less than the minimal
load, and it had more slots than the smallest table. -/
theorem Removal.resized_of_level_lt (hremoval : rule.Removal load present next)
    (hlevel : next.level < load.level) :
  load.resized (rule.onErase load) = load.rebuilt (load.level - 1)
    ∧ load.live * 100 < load.capacity * rule.minLoad
    ∧ max rule.minLevel load.floor < load.level
  := by
  have hresized : (load.resized (rule.onErase load)).level < load.level := by
    cases hremoval with
    | miss => apply hlevel
    | vacate _ => apply hlevel
  rcases rule.resized_onErase_cases load with ⟨heq, -⟩ | ⟨heq, -⟩ | hshrink
  · rw [heq] at hresized
    apply absurd hresized (Nat.lt_irrefl _)
  · rw [heq] at hresized
    apply absurd hresized (Nat.lt_irrefl _)
  · apply hshrink

/-! ### The smallest level -/

/-- The table is not below the level it was created at, nor that below the minimal one. -/
structure IsAboveFloor (rule : LoadFactor) (load : Load) : Prop where
  minLevel_le : rule.minLevel ≤ load.floor
  floor_le : load.floor ≤ load.level

theorem keeps_isAboveFloor (rule : LoadFactor) :
  rule.Keeps rule.IsAboveFloor
  := by
  constructor
  case insertion =>
    intro load present next hinsertion h
    have hresized : rule.IsAboveFloor (load.resized (rule.onInsert load)) := by
      rcases rule.resized_onInsert_cases load with ⟨heq, -⟩ | ⟨heq, -⟩ | ⟨heq, -⟩
      · rw [heq]
        apply h
      · rw [heq]
        exact ⟨h.minLevel_le, h.floor_le⟩
      · rw [heq]
        exact ⟨h.minLevel_le, Nat.le_succ_of_le h.floor_le⟩
    cases hinsertion with
    | refuse => apply h
    | replace => apply hresized
    | add reused _ => exact ⟨hresized.minLevel_le, hresized.floor_le⟩
  case removal =>
    intro load present next hremoval h
    have hresized : rule.IsAboveFloor (load.resized (rule.onErase load)) := by
      rcases rule.resized_onErase_cases load with ⟨heq, -⟩ | ⟨heq, -⟩ | ⟨heq, -, hlevel⟩
      · rw [heq]
        apply h
      · rw [heq]
        exact ⟨h.minLevel_le, h.floor_le⟩
      · rw [heq]
        use h.minLevel_le
        apply Nat.le_sub_one_of_lt (Nat.lt_of_le_of_lt (Nat.le_max_right _ _) hlevel)
    cases hremoval with
    | miss => apply hresized
    | vacate _ => exact ⟨hresized.minLevel_le, hresized.floor_le⟩

/-! ### The maximal load -/

/-- The slots in use are within the maximal load. -/
def IsWithinMaxLoad (rule : LoadFactor) (load : Load) : Prop :=
  load.used * 100 ≤ load.capacity * rule.maxLoad

/-- If the smallest table, doubled once, has room for an entry, then an insertion into a table
within the maximal load finds room for another one. -/
theorem room_resized_onInsert (hrule : 100 ≤ rule.maxLoad * 2 ^ (rule.minLevel + 1))
    (hlevel : rule.minLevel ≤ load.level) (h : rule.IsWithinMaxLoad load) :
  ((load.resized (rule.onInsert load)).used + 1) * 100
    ≤ (load.resized (rule.onInsert load)).capacity * rule.maxLoad
  := by
  rw [IsWithinMaxLoad, Load.used] at h
  rcases rule.resized_onInsert_cases load with ⟨heq, hroom⟩ | ⟨heq, hlive⟩ | ⟨heq, hlive, -⟩
  · rw [heq]
    apply hroom
  · rw [heq]
    change (load.live + 1) * 100 ≤ load.capacity * rule.maxLoad
    omega
  · have hentry : 100 ≤ 2 ^ (load.level + 1) * rule.maxLoad := by
      apply Nat.le_trans hrule
      rw [Nat.mul_comm]
      apply Nat.mul_le_mul_right
      apply Nat.pow_le_pow_right Nat.two_pos
      omega
    rw [heq, Load.used_rebuilt, Load.capacity_rebuilt]
    rw [load.two_pow_level_add_one, Nat.mul_right_comm] at hentry ⊢
    -- Without entries there are no tombstones here, and `hentry` is all; else `h` counts twice.
    omega

/-- The slots in use stay within the maximal load if the smallest table, doubled once, has room
for an entry. -/
theorem keeps_isWithinMaxLoad (hrule : 100 ≤ rule.maxLoad * 2 ^ (rule.minLevel + 1)) :
  rule.Keeps fun load => rule.IsAboveFloor load ∧ rule.IsWithinMaxLoad load
  := by
  constructor
  case insertion =>
    rintro load present next hinsertion ⟨hfloor, h⟩
    use (keeps_isAboveFloor rule).insertion hinsertion hfloor
    have hroom := room_resized_onInsert hrule
      (Nat.le_trans hfloor.minLevel_le hfloor.floor_le) h
    cases hinsertion with
    | refuse => apply h
    | replace =>
        rw [IsWithinMaxLoad]
        omega
    | add reused _ =>
        apply Nat.le_trans _ hroom
        apply Nat.mul_le_mul_right
        apply Load.used_filled_le
  case removal =>
    rintro load present next hremoval ⟨hfloor, h⟩
    use (keeps_isAboveFloor rule).removal hremoval hfloor
    have hresized : rule.IsWithinMaxLoad (load.resized (rule.onErase load)) := by
      rcases rule.resized_onErase_cases load with ⟨heq, -⟩ | ⟨heq, -⟩ | ⟨heq, hsparse, hlevel⟩
      · rw [heq]
        apply h
      · rw [heq]
        apply Nat.le_trans _ h
        apply Nat.mul_le_mul_right
        apply Nat.le_add_right
      · rw [heq, IsWithinMaxLoad, Load.used_rebuilt, Load.capacity_rebuilt]
        have hhalf := Nat.mul_le_mul_left (2 ^ (load.level - 1)) rule.minLoad_lt.le
        rw [← load.two_pow_level_sub_one (by omega), Nat.mul_assoc, Nat.mul_comm 2] at hsparse
        apply Nat.le_trans hsparse.le hhalf
    cases hremoval with
    | miss => apply hresized
    | vacate hlive =>
        rw [IsWithinMaxLoad, Load.used_vacated hlive]
        apply hresized

/-- If the smallest table, doubled once, has no room for an entry, then the first entry is beyond
the maximal load. -/
theorem Insertion.not_isWithinMaxLoad (hrule : rule.maxLoad * 2 ^ (rule.minLevel + 1) < 100)
    (hinsertion : rule.Insertion (.fresh rule.minLevel) false next) :
  ¬rule.IsWithinMaxLoad next
  := by
  intro hwithin
  rw [Nat.mul_comm] at hrule
  cases hinsertion with
  | refuse _ _ hlevel =>
      change rule.minLevel = maxLevel at hlevel
      have hone := Nat.mul_le_mul_left (2 ^ (rule.minLevel + 1)) rule.one_le_maxLoad
      rw [hlevel] at hone hrule
      simp only [maxLevel] at hone hrule
      omega
  | add reused _ =>
      rcases rule.resized_onInsert_cases (.fresh rule.minLevel) with
        ⟨-, hroom⟩ | ⟨-, hlive⟩ | ⟨heq, -⟩
      · change 1 * 100 ≤ 2 ^ rule.minLevel * rule.maxLoad at hroom
        rw [Nat.pow_succ, Nat.mul_right_comm] at hrule
        omega
      · cases hlive
      · rw [heq] at hwithin
        change (1 + (0 - reused.toNat)) * 100 ≤ 2 ^ (rule.minLevel + 1) * rule.maxLoad at hwithin
        omega

/-- Within the maximal load there is room for so many more slots in use. -/
def HasRoomFor (rule : LoadFactor) (count : Nat) (load : Load) : Prop :=
  (load.used + count) * 100 ≤ load.capacity * rule.maxLoad

theorem HasRoomFor.onInsert_eq_none {count : Nat} (h : rule.HasRoomFor (count + 1) load) :
  rule.onInsert load = none
  := by
  apply LoadFactor.onInsert_eq_none
  rw [HasRoomFor] at h
  omega

/-- An insertion that there is room for stays at the level of the table, and takes room for one. -/
theorem Insertion.hasRoomFor {count : Nat} (hinsertion : rule.Insertion load present next)
    (h : rule.HasRoomFor (count + 1) load) :
  next.level = load.level ∧ rule.HasRoomFor count next
  := by
  have hnone := h.onInsert_eq_none
  rw [HasRoomFor] at h
  cases hinsertion with
  | refuse _ hgrow _ =>
      rw [hnone] at hgrow
      cases hgrow
  | replace =>
      rw [hnone]
      use rfl
      change (load.used + count) * 100 ≤ load.capacity * rule.maxLoad
      omega
  | add reused _ =>
      rw [hnone]
      use rfl
      have hused := load.used_filled_le reused
      change ((load.filled reused).used + count) * 100 ≤ load.capacity * rule.maxLoad
      omega

/-! ### The level of a new table -/

/-- The table has no tombstones, and it is at the level of a new table for its entries. -/
structure IsSized (rule : LoadFactor) (load : Load) : Prop where
  tombstones_eq : load.tombstones = 0
  startLevel?_eq : rule.startLevel? load.live = some load.level

theorem isSized_fresh_zero (rule : LoadFactor) :
  rule.IsSized (.fresh rule.minLevel)
  := ⟨rfl, startLevel?_zero⟩

/-- If one more entry is too much for the level of a table, but a new table may be made for that
many, then there is a level to grow to. -/
theorem level_lt_maxLevel {level : Nat}
    (hlevel : rule.startLevel? (load.live + 1) = some level)
    (hover : load.capacity * rule.maxLoad < (load.live + 1) * 100) :
  load.level < maxLevel
  := by
  obtain ⟨-, hmax, hfits, -⟩ := startLevel?_eq_some_iff.mp hlevel
  by_contra hle
  have hcapacity : 2 ^ level * rule.maxLoad ≤ load.capacity * rule.maxLoad := by
    apply Nat.mul_le_mul_right
    apply Nat.pow_le_pow_right Nat.two_pos
    omega
  omega

theorem IsSized.lt_maxLevel (h : rule.IsSized load) {level : Nat}
    (hlevel : rule.startLevel? (load.live + 1) = some level)
    (hgrow : rule.onInsert load = some .grow) :
  load.level < maxLevel
  := by
  obtain ⟨-, hover⟩ := onInsert_eq_grow_iff.mp hgrow
  rw [Load.used, h.tombstones_eq] at hover
  apply level_lt_maxLevel hlevel hover

/-- One doubling is enough for one more entry, and it is made only if it is needed. So a table stays
sized for its entries when a new key is inserted, if the smallest table, doubled once, has room for
an entry, and a new table may be made for one more. -/
theorem Insertion.isSized (hrule : 100 ≤ rule.maxLoad * 2 ^ (rule.minLevel + 1)) {level : Nat}
    (hlevel : rule.startLevel? (load.live + 1) = some level)
    (hinsertion : rule.Insertion load false next) (h : rule.IsSized load) :
  rule.IsSized next ∧ next.live = load.live + 1
  := by
  obtain ⟨hmin, hmax, hfits, hlower⟩ := startLevel?_eq_some_iff.mp h.startLevel?_eq
  have htombstones := h.tombstones_eq
  have hwithin : rule.IsWithinMaxLoad load := by
    rw [IsWithinMaxLoad, Load.used, htombstones]
    apply hfits
  have hroom := room_resized_onInsert hrule hmin hwithin
  cases hinsertion with
  | refuse _ hgrow hmaxLevel => apply absurd hmaxLevel (h.lt_maxLevel hlevel hgrow).ne
  | add reused _ =>
      rcases rule.resized_onInsert_cases load with ⟨heq, -⟩ | ⟨-, hlive⟩ | ⟨heq, -, hover⟩
      · rw [heq] at hroom ⊢
        rw [Load.used, htombstones] at hroom
        refine ⟨⟨?_, ?_⟩, rfl⟩
        · change load.tombstones - reused.toNat = 0
          omega
        · apply startLevel?_eq_some_iff.mpr
          use hmin, hmax, hroom
          intro lower hlowerMin hlowerLt
          have hless := hlower lower hlowerMin hlowerLt
          change 2 ^ lower * rule.maxLoad < (load.live + 1) * 100
          omega
      · omega
      · rw [heq] at hroom ⊢
        rw [Load.used, htombstones] at hover
        have hgrown := level_lt_maxLevel hlevel hover
        refine ⟨⟨?_, ?_⟩, rfl⟩
        · change 0 - reused.toNat = 0
          omega
        · apply startLevel?_eq_some_iff.mpr
          use Nat.le_succ_of_le hmin, hgrown, hroom
          intro lower _ hlowerLt
          change 2 ^ lower * rule.maxLoad < (load.live + 1) * 100
          apply Nat.lt_of_le_of_lt _ hover
          apply Nat.mul_le_mul_right
          apply Nat.pow_le_pow_right Nat.two_pos (Nat.le_of_lt_succ hlowerLt)

/-! ### The minimal load -/

/-- A table above the level it was created at is filled to the minimal load, but for `missing`
entries. -/
def IsFilledBut (rule : LoadFactor) (missing : Nat) (load : Load) : Prop :=
  load.floor < load.level → load.capacity * rule.minLoad ≤ (load.live + missing) * 100

/-- The minimal load of a table above the level it was created at is more than one entry, if that
of the smallest table, doubled once, is. -/
theorem IsAboveFloor.lt_capacity_mul_minLoad
    (hrule : 100 < 2 ^ (rule.minLevel + 1) * rule.minLoad) (h : rule.IsAboveFloor load)
    (hlevel : load.floor < load.level) :
  100 < load.capacity * rule.minLoad
  := by
  apply Nat.lt_of_lt_of_le hrule
  apply Nat.mul_le_mul_right
  apply Nat.pow_le_pow_right Nat.two_pos
  apply Nat.succ_le_of_lt (Nat.lt_of_le_of_lt h.minLevel_le hlevel)

/-- A removal from a table that is filled but for one entry finds it filled. -/
theorem isFilledBut_zero_resized_onErase (hrule : 100 < 2 ^ (rule.minLevel + 1) * rule.minLoad)
    (hfloor : rule.IsAboveFloor load) (h : rule.IsFilledBut 1 load) :
  rule.IsFilledBut 0 (load.resized (rule.onErase load))
  := by
  have hmax := Nat.max_eq_right hfloor.minLevel_le
  rcases rule.resized_onErase_cases load with ⟨heq, hfilled, -⟩ | ⟨heq, hfilled⟩ | ⟨heq, -⟩
  · rw [heq]
    intro hlevel
    apply hfilled.resolve_right
    omega
  · rw [heq]
    intro hlevel
    change load.floor < load.level at hlevel
    apply hfilled.resolve_right
    omega
  · rw [heq]
    intro hlevel
    have hhalved : rule.IsAboveFloor (load.rebuilt (load.level - 1)) :=
      ⟨hfloor.minLevel_le, hlevel.le⟩
    have hentry := hhalved.lt_capacity_mul_minLoad hrule hlevel
    change load.floor < load.level - 1 at hlevel
    have hbefore := h (by omega)
    rw [← load.two_pow_level_sub_one (by omega), Nat.mul_right_comm] at hbefore
    rw [Load.capacity_rebuilt] at hentry ⊢
    change 2 ^ (load.level - 1) * rule.minLoad ≤ load.live * 100
    omega

/-- A table above the level it was created at stays filled to the minimal load, but for one entry.
Growth leaves it filled if the minimal load is at most a quarter of the maximal one, since there
are no more tombstones than entries then; and one removal is not enough to outrun the halving if
the minimal load is more than one entry. -/
theorem keeps_isFilledBut_one (hquarter : rule.minLoad * 4 ≤ rule.maxLoad)
    (hrule : 100 < 2 ^ (rule.minLevel + 1) * rule.minLoad) :
  rule.Keeps fun load => rule.IsAboveFloor load ∧ rule.IsFilledBut 1 load
  := by
  constructor
  case insertion =>
    rintro load present next hinsertion ⟨hfloor, h⟩
    use (keeps_isAboveFloor rule).insertion hinsertion hfloor
    have hresized : rule.IsFilledBut 1 (load.resized (rule.onInsert load)) := by
      rcases rule.resized_onInsert_cases load with ⟨heq, -⟩ | ⟨heq, -⟩ | ⟨heq, hlive, hover⟩
      · rw [heq]
        apply h
      · rw [heq]
        apply h
      · rw [heq]
        intro _
        have hle := Nat.mul_le_mul_left load.capacity hquarter
        rw [← Nat.mul_assoc] at hle
        rw [Load.capacity_rebuilt, load.two_pow_level_add_one, Nat.mul_right_comm]
        change load.capacity * rule.minLoad * 2 ≤ (load.live + 1) * 100
        rw [Load.used] at hover
        omega
    cases hinsertion with
    | refuse => apply h
    | replace => apply hresized
    | add reused _ =>
        intro hlevel
        apply Nat.le_trans (hresized hlevel)
        apply Nat.mul_le_mul_right
        apply Nat.le_succ
  case removal =>
    rintro load present next hremoval ⟨hfloor, h⟩
    use (keeps_isAboveFloor rule).removal hremoval hfloor
    have hresized := isFilledBut_zero_resized_onErase hrule hfloor h
    cases hremoval with
    | miss =>
        intro hlevel
        apply Nat.le_trans (hresized hlevel)
        apply Nat.mul_le_mul_right
        apply Nat.le_succ
    | vacate hlive =>
        intro hlevel
        change _ ≤ (_ - 1 + 1) * 100
        rw [Nat.sub_add_cancel hlive]
        apply hresized hlevel

/-- A table without entries is back at the level it was created at. -/
theorem IsFilledBut.level_eq (hrule : 100 < 2 ^ (rule.minLevel + 1) * rule.minLoad)
    (hfloor : rule.IsAboveFloor load) (h : rule.IsFilledBut 1 load) (hlive : load.live = 0) :
  load.level = load.floor
  := by
  apply Nat.le_antisymm _ hfloor.floor_le
  by_contra hlevel
  have hfilled := h (Nat.lt_of_not_le hlevel)
  have hentry := hfloor.lt_capacity_mul_minLoad hrule (Nat.lt_of_not_le hlevel)
  rw [hlive] at hfilled
  omega

/-! ### Proportion -/

/-- A table with at most `peak` entries is in proportion to them, or has the level it was created
at. -/
def IsInProportion (rule : LoadFactor) (peak : Nat) (load : Load) : Prop :=
  load.live ≤ peak →
    load.level = load.floor ∨ load.capacity * rule.maxLoad < 200 * (2 * peak + 1)

/-- An insertion does not make fewer entries. -/
theorem Insertion.live_le (hinsertion : rule.Insertion load present next) :
  load.live ≤ next.live
  := by
  cases hinsertion with
  | refuse => apply Nat.le_refl
  | replace => rw [Load.live_resized]
  | add reused _ =>
      apply Nat.le_succ_of_le
      rw [Load.live_resized]

/-- An insertion keeps the proportion: when a table grows, at least half of its slots in use hold
entries. -/
theorem Insertion.isInProportion {peak : Nat} (hinsertion : rule.Insertion load present next)
    (h : rule.IsInProportion peak load) :
  rule.IsInProportion peak next
  := by
  intro hnext
  have hpeak := Nat.le_trans hinsertion.live_le hnext
  have hresized : (load.resized (rule.onInsert load)).level
        = (load.resized (rule.onInsert load)).floor
      ∨ (load.resized (rule.onInsert load)).capacity * rule.maxLoad < 200 * (2 * peak + 1) := by
    rcases rule.resized_onInsert_cases load with ⟨heq, -⟩ | ⟨heq, -⟩ | ⟨heq, hlive, hover⟩
    · rw [heq]
      apply h hpeak
    · rw [heq]
      apply h hpeak
    · rw [heq]
      right
      rw [Load.capacity_rebuilt, load.two_pow_level_add_one, Nat.mul_right_comm]
      rw [Load.used] at hover
      omega
  cases hinsertion with
  | refuse => apply h hpeak
  | replace => apply hresized
  | add reused _ => apply hresized

/-- A removal keeps the proportion to as many entries as there are before or more. -/
theorem Removal.isInProportion {peak : Nat} (hremoval : rule.Removal load present next)
    (hpeak : load.live ≤ peak) (h : rule.IsInProportion peak load) :
  rule.IsInProportion peak next
  := by
  intro _
  have hresized : (load.resized (rule.onErase load)).level
        = (load.resized (rule.onErase load)).floor
      ∨ (load.resized (rule.onErase load)).capacity * rule.maxLoad < 200 * (2 * peak + 1) := by
    rcases rule.resized_onErase_cases load with ⟨heq, -⟩ | ⟨heq, -⟩ | ⟨heq, -, hlevel⟩
    · rw [heq]
      apply h hpeak
    · rw [heq]
      apply h hpeak
    · rw [heq]
      right
      have hlt := (h hpeak).resolve_left (by omega)
      rw [← load.two_pow_level_sub_one (by omega), Nat.mul_right_comm] at hlt
      rw [Load.capacity_rebuilt]
      omega
  cases hremoval with
  | miss => apply hresized
  | vacate _ => apply hresized

/-! ### Tombstones -/

/-- At most one tombstone is above the limit. -/
def HasFewTombstones (rule : LoadFactor) (load : Load) : Prop :=
  load.tombstones * 100 ≤ load.capacity * rule.maxTombstones + 100

theorem keeps_hasFewTombstones (rule : LoadFactor) :
  rule.Keeps rule.HasFewTombstones
  := by
  constructor
  case insertion =>
    intro load present next hinsertion h
    have hresized : rule.HasFewTombstones (load.resized (rule.onInsert load)) := by
      rcases rule.resized_onInsert_cases load with ⟨heq, -⟩ | ⟨heq, -⟩ | ⟨heq, -⟩
      · rw [heq]
        apply h
      · rw [heq]
        apply Nat.zero_le
      · rw [heq]
        apply Nat.zero_le
    cases hinsertion with
    | refuse => apply h
    | replace => apply hresized
    | add reused _ =>
        apply Nat.le_trans _ hresized
        apply Nat.mul_le_mul_right
        apply Nat.sub_le
  case removal =>
    intro load present next hremoval h
    -- The rebuild that was due is made, so that there is still no tombstone above the limit.
    have hresized : (load.resized (rule.onErase load)).tombstones * 100
        ≤ (load.resized (rule.onErase load)).capacity * rule.maxTombstones := by
      rcases rule.resized_onErase_cases load with ⟨heq, -, hlimit⟩ | ⟨heq, -⟩ | ⟨heq, -⟩
      · rw [heq]
        apply hlimit
      · rw [heq]
        apply Nat.zero_le
      · rw [heq]
        apply Nat.zero_le
    cases hremoval with
    | miss => apply Nat.le_trans hresized (Nat.le_add_right _ _)
    | vacate _ =>
        change (_ + 1) * 100 ≤ _ + 100
        rw [Nat.add_mul]
        apply Nat.add_le_add_right hresized

end LoadFactor

end OpenAddressing
