import Mathlib.Tactic.Ring
import Mathlib.Tactic.Use
import OpenAddressing.Sizing.LoadFactor

/-!
# What a load factor rule wants

The answers of a load factor rule case by case, with the bounds that each of them tells. A rule
lets an insertion into the table as it is only if one more slot in use still leaves an empty
one, and has a table halved only if its entries fit into the half.
-/

namespace OpenAddressing

namespace Load

theorem two_pow_level_add_one (load : Load) :
  2 ^ (load.level + 1) = load.capacity * 2
  := Nat.pow_succ 2 load.level

theorem two_pow_level_sub_one {load : Load} (hlevel : 0 < load.level) :
  2 ^ (load.level - 1) * 2 = load.capacity
  := by
  rw [← Nat.pow_succ, Nat.succ_eq_add_one, Nat.sub_add_cancel hlevel, capacity]

end Load

namespace LoadFactor

variable (rule : LoadFactor) (load : Load)

/-- What a rule wants before an insertion. -/
theorem onInsert_cases :
  (rule.onInsert load = none ∧ (load.used + 1) * 100 ≤ load.capacity * rule.maxLoad)
    ∨ (rule.onInsert load = some .compact ∧ load.live < load.tombstones)
    ∨ (rule.onInsert load = some .grow ∧ load.tombstones ≤ load.live
      ∧ load.capacity * rule.maxLoad < (load.used + 1) * 100)
  := by
  by_cases hover : isOver (load.used + 1) load.capacity rule.maxLoad
  · rw [onInsert, if_pos hover]
    right
    by_cases hlive : load.live < load.tombstones
    · left
      rw [if_pos hlive]
      exact ⟨rfl, hlive⟩
    · right
      rw [if_neg hlive]
      exact ⟨rfl, Nat.le_of_not_lt hlive, of_decide_eq_true hover⟩
  · rw [onInsert, if_neg hover]
    left
    use rfl
    simpa [isOver] using hover

/-- What a rule wants before a removal. -/
theorem onErase_cases :
  (rule.onErase load = none
      ∧ (load.capacity * rule.minLoad ≤ load.live * 100 ∨ load.level ≤ max rule.minLevel load.floor)
      ∧ load.tombstones * 100 ≤ load.capacity * rule.maxTombstones)
    ∨ (rule.onErase load = some .compact
      ∧ (load.capacity * rule.minLoad ≤ load.live * 100 ∨ load.level ≤ max rule.minLevel load.floor)
      ∧ load.capacity * rule.maxTombstones < load.tombstones * 100)
    ∨ (rule.onErase load = some .shrink ∧ load.live * 100 < load.capacity * rule.minLoad
      ∧ max rule.minLevel load.floor < load.level)
  := by
  by_cases hsparse : load.live * 100 < load.capacity * rule.minLoad
      ∧ max rule.minLevel load.floor < load.level
  · right
    right
    rw [onErase, if_pos hsparse]
    exact ⟨rfl, hsparse⟩
  · rw [onErase, if_neg hsparse]
    rw [not_and_or, Nat.not_lt, Nat.not_lt] at hsparse
    by_cases hover : isOver load.tombstones load.capacity rule.maxTombstones
    · right
      left
      rw [if_pos hover]
      exact ⟨rfl, hsparse, of_decide_eq_true hover⟩
    · left
      rw [if_neg hover]
      use rfl, hsparse
      simpa [isOver] using hover

variable {rule load}

/-- A rule wants a table doubled if another slot in use is too much, and tombstones do not
outnumber the entries. -/
theorem onInsert_eq_grow_iff :
  rule.onInsert load = some .grow ↔ load.tombstones ≤ load.live
    ∧ load.capacity * rule.maxLoad < (load.used + 1) * 100
  := by
  rcases rule.onInsert_cases load with ⟨hnone, hle⟩ | ⟨hcompact, hlive⟩ | ⟨hgrow, hlive, hover⟩
  · rw [hnone]
    simp
    omega
  · rw [hcompact]
    simp
    omega
  · rw [hgrow]
    exact ⟨fun _ => ⟨hlive, hover⟩, fun _ => rfl⟩

/-- A rule wants nothing before an insertion that stays within the maximal load. -/
theorem onInsert_eq_none (h : (load.used + 1) * 100 ≤ load.capacity * rule.maxLoad) :
  rule.onInsert load = none
  := by
  rw [onInsert, if_neg]
  simpa [isOver] using h

/-- Within the maximal load an insertion leaves an empty slot. -/
theorem used_add_one_lt (h : (load.used + 1) * 100 ≤ load.capacity * rule.maxLoad) :
  load.used + 1 < load.capacity
  := by
  have hle := Nat.mul_le_mul_left load.capacity rule.maxLoad_le
  have hpos := load.capacity_pos
  omega

theorem used_add_one_lt_of_onInsert_eq_none (h : rule.onInsert load = none) :
  load.used + 1 < load.capacity
  := by
  rcases rule.onInsert_cases load with ⟨-, hle⟩ | ⟨hcompact, -⟩ | ⟨hgrow, -, -⟩
  · apply used_add_one_lt hle
  · rw [hcompact] at h
    cases h
  · rw [hgrow] at h
    cases h

/-- The entries of a table that is to be halved fill less than the half. -/
theorem live_lt_of_sparse (h : load.live * 100 < load.capacity * rule.minLoad)
    (hlevel : 0 < load.level) :
  load.live < 2 ^ (load.level - 1)
  := by
  have hmin : rule.minLoad ≤ 44 := by
    have hmax := rule.maxLoad_le
    have hlt := rule.minLoad_lt
    omega
  have hle := Nat.mul_le_mul_left load.capacity hmin
  have hhalf := Load.two_pow_level_sub_one hlevel
  omega

/-! ### Levels of new tables -/

section StartLevel

variable {entries level : Nat}

/-- A new table has the smallest level, from the minimal one on, at which the entries stay within
the maximal load. -/
theorem startLevel?_eq_some_iff :
  rule.startLevel? entries = some level
    ↔ rule.minLevel ≤ level ∧ level ≤ maxLevel ∧ entries * 100 ≤ 2 ^ level * rule.maxLoad
      ∧ ∀ lower, rule.minLevel ≤ lower → lower < level →
        2 ^ lower * rule.maxLoad < entries * 100
  := by
  have hlevel := rule.minLevel_le
  rw [startLevel?, List.find?_range'_eq_some, List.mem_range'_1]
  simp only [isOver, Bool.not_not, decide_eq_true_eq, Bool.not_eq_true', decide_eq_false_iff_not,
    Nat.not_lt]
  constructor
  · rintro ⟨hfits, ⟨hmin, hmax⟩, hlower⟩
    exact ⟨hmin, by omega, hfits, hlower⟩
  · rintro ⟨hmin, hmax, hfits, hlower⟩
    exact ⟨hfits, ⟨hmin, by omega⟩, hlower⟩

/-- A new table has at least the minimal level. -/
theorem minLevel_le_of_startLevel? (h : rule.startLevel? entries = some level) :
  rule.minLevel ≤ level
  := (startLevel?_eq_some_iff.mp h).1

/-- A new table for no entries has the minimal level. -/
theorem startLevel?_zero :
  rule.startLevel? 0 = some rule.minLevel
  := startLevel?_eq_some_iff.mpr ⟨Nat.le_refl _, rule.minLevel_le, Nat.zero_le _,
    fun _ hmin hlt => absurd hlt (Nat.not_lt_of_le hmin)⟩

/-- A new table has some level up to a given one just if that one is not below the minimal level and
keeps the entries within the maximal load. -/
theorem exists_startLevel?_le_iff {bound : Nat} (hbound : bound ≤ maxLevel) :
  (∃ level, rule.startLevel? entries = some level ∧ level ≤ bound)
    ↔ rule.minLevel ≤ bound ∧ entries * 100 ≤ 2 ^ bound * rule.maxLoad
  := by
  constructor
  · rintro ⟨level, hlevel, hle⟩
    obtain ⟨hmin, -, hfits, -⟩ := startLevel?_eq_some_iff.mp hlevel
    use Nat.le_trans hmin hle
    apply Nat.le_trans hfits
    apply Nat.mul_le_mul_right
    apply Nat.pow_le_pow_right Nat.two_pos hle
  · rintro ⟨hmin, hfits⟩
    have hsome : (rule.startLevel? entries).isSome := by
      rw [startLevel?, List.find?_isSome]
      use bound
      rw [List.mem_range'_1]
      constructor
      · omega
      · simpa [isOver] using hfits
    obtain ⟨level, hlevel⟩ := Option.isSome_iff_exists.mp hsome
    use level, hlevel
    obtain ⟨-, -, -, hlower⟩ := startLevel?_eq_some_iff.mp hlevel
    apply Nat.le_of_not_lt
    intro hlt
    apply Nat.not_lt_of_le hfits (hlower bound hmin hlt)

/-- Where a table may be made for some number of entries, one may be made for fewer. -/
theorem exists_startLevel?_of_le (h : rule.startLevel? entries = some level) {fewer : Nat}
    (hle : fewer ≤ entries) :
  ∃ lower, rule.startLevel? fewer = some lower
  := by
  obtain ⟨hmin, hmax, hfits, -⟩ := startLevel?_eq_some_iff.mp h
  have hfewer : fewer * 100 ≤ 2 ^ level * rule.maxLoad :=
    Nat.le_trans (Nat.mul_le_mul_right 100 hle) hfits
  obtain ⟨lower, hlower, -⟩ := (exists_startLevel?_le_iff hmax).mpr ⟨hmin, hfewer⟩
  use lower, hlower

end StartLevel

/-! ### Levels of wanted rebuilds -/

/-- The rebuild wanted before an insertion leaves two empty slots. It is at a level that tables
may have, unless a table of the largest level is to grow. -/
theorem targetLevel_of_onInsert (hroom : load.used < load.capacity) (hmax : load.level ≤ maxLevel)
    {resize : Resize} (hwanted : rule.onInsert load = some resize) :
  ∃ level, resize.targetLevel load.level = .ok level ∧ load.live + 1 < 2 ^ level
    ∧ (level ≤ maxLevel ∨ (resize = .grow ∧ load.level = maxLevel))
  := by
  rcases rule.onInsert_cases load with ⟨hnone, -⟩ | ⟨hcompact, hlive⟩ | ⟨hgrow, -, -⟩
  · rw [hnone] at hwanted
    cases hwanted
  · rw [hcompact] at hwanted
    cases hwanted
    use load.level, rfl
    constructor
    · rw [Load.used, Load.capacity] at hroom
      omega
    · apply Or.inl hmax
  · rw [hgrow] at hwanted
    cases hwanted
    use load.level + 1
    have hcapacity := load.two_pow_level_add_one
    have hpos := load.capacity_pos
    rw [maxLevel] at hmax ⊢
    use if_pos (by omega)
    constructor
    · rw [Load.used] at hroom
      omega
    · rcases Nat.lt_or_eq_of_le hmax with hlt | heq
      · apply Or.inl hlt
      · apply Or.inr ⟨rfl, heq⟩

/-- The rebuild wanted before a removal has room for the entries, and an empty slot beside. -/
theorem targetLevel_of_onErase (hroom : load.used < load.capacity) {resize : Resize}
    (hwanted : rule.onErase load = some resize) :
  ∃ level, resize.targetLevel load.level = .ok level ∧ level ≤ load.level
    ∧ load.live < 2 ^ level
  := by
  rcases rule.onErase_cases load with ⟨hnone, -⟩ | ⟨hcompact, -⟩ | ⟨hshrink, hsparse, hlevel⟩
  · rw [hnone] at hwanted
    cases hwanted
  · rw [hcompact] at hwanted
    cases hwanted
    use load.level, rfl, Nat.le_refl _
    apply Nat.lt_of_le_of_lt (Nat.le_add_right _ _) hroom
  · rw [hshrink] at hwanted
    cases hwanted
    use load.level - 1, rfl, Nat.sub_le _ _
    apply live_lt_of_sparse hsparse
    omega

end LoadFactor

end OpenAddressing
