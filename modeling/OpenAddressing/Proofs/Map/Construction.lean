import OpenAddressing.Map.Words
import OpenAddressing.Proofs.Sizing.LoadFactor
import OpenAddressing.Proofs.Table.Slots

/-!
# When a map can be made

Whether a map is made, and which error there is if it is not, depends on nothing but the level that
the sizing rule offers, the size of a slot, and whether the memory is granted. Nothing that is
computed on the way leaves its word, however many entries are requested.

* `ofCapacity_isExact`: the offer of a rule decides between a map, an overflow and a refusal. For a
  load factor rule and slots of 32 to 63 bytes there is an overflow just if the minimal level is 58
  or more, or the requested entries exceed the maximal load of a table of level 57.
-/

namespace OpenAddressing

/-! ### Words -/

/-- What is to fit into half of the words needs no other check. -/
theorem filter_fit?_eq (n : Nat) :
  (fit? 64 n).filter (· ≤ Memory.largest) = if Memory.largest < n then none else some n
  := by
  split
  next hover =>
    apply Option.filter_eq_none_iff.mpr
    intro m hm
    rw [fit?] at hm
    split at hm
    · cases hm
      simpa using hover
    · cases hm
  next hfits =>
    rw [fit?_eq_some, Option.filter_some_pos]
    · simpa using hfits
    · apply Nat.lt_of_le_of_lt (Nat.le_of_not_lt hfits) (by decide)

/-- A search of which every test gives a result is the search with these results. -/
theorem findM?_eq_some_find? {α : Type} {test : α → Option Bool} {result : α → Bool} {list : List α}
    (htest : ∀ a ∈ list, test a = some (result a)) :
  list.findM? test = some (list.find? result)
  := by
  induction list with
  | nil => rfl
  | cons a list ih =>
      rw [List.findM?, htest a List.mem_cons_self, List.find?_cons]
      have hrest := ih fun b hb => htest b (List.mem_cons_of_mem a hb)
      cases result a with
      | true => rfl
      | false => apply hrest

namespace LoadFactor

/-- Numbers of entries and of slots that are words are compared without an overflow. -/
theorem isOverInWords?_eq {count capacity percent : Nat} (hcount : count < 2 ^ 64)
    (hcapacity : capacity < 2 ^ 64) (hpercent : percent ≤ 90) :
  isOverInWords? count capacity percent = some (isOver count capacity percent)
  := by
  have hpart : capacity * percent ≤ capacity * 90 := Nat.mul_le_mul_left capacity hpercent
  rw [isOverInWords?, fit?_eq_some (by omega), fit?_eq_some (by omega)]
  rfl

/-- The level of a new table is found without an overflow. -/
theorem startLevelInWords?_eq (rule : LoadFactor) {entries : Nat} (hentries : entries < 2 ^ 64) :
  rule.startLevelInWords? entries = some (rule.startLevel? entries)
  := by
  apply findM?_eq_some_find?
  intro level hlevel
  have hmax := rule.minLevel_le
  have hlt : level < 64 := by
    obtain ⟨-, hlt⟩ := List.mem_range'_1.mp hlevel
    rw [maxLevel] at hlt hmax
    omega
  have hslots : 2 ^ level < 2 ^ 64 := Nat.pow_lt_pow_right (by decide) hlt
  rw [fit?_eq_some hslots]
  change (do let isOver ← isOverInWords? entries (2 ^ level) rule.maxLoad; return !isOver) = _
  rw [isOverInWords?_eq hentries hslots rule.maxLoad_le]
  rfl

end LoadFactor

/-! ### Offers -/

namespace Memory

variable {P : Type} [SizingRule P]

/-- The rule offers the level for the entries, and a table of the level is addressable. -/
structure Offers (memory : Memory) (rule : P) (capacity level : Nat) : Prop where
  startLevel?_eq : SizingRule.startLevel? rule capacity = some level
  level_le : level ≤ maxLevel
  bytes_le : 2 ^ level * memory.slotBytes ≤ largest

/-- The rule offers no level for the entries, or one whose tables are not addressable. -/
def Overflows (memory : Memory) (rule : P) (capacity : Nat) : Prop :=
  ∀ level, SizingRule.startLevel? rule capacity = some level →
    maxLevel < level ∨ largest < 2 ^ level * memory.slotBytes

theorem overflows_iff {memory : Memory} {rule : P} {capacity : Nat} :
  memory.Overflows rule capacity ↔ ¬∃ level, memory.Offers rule capacity level
  := by
  constructor
  · rintro h ⟨level, hoffers⟩
    rcases h level hoffers.startLevel?_eq with hlevel | hbytes
    · apply Nat.not_lt_of_le hoffers.level_le hlevel
    · apply Nat.not_lt_of_le hoffers.bytes_le hbytes
  · intro h level hlevel
    apply Decidable.or_iff_not_imp_left.mpr
    intro hle
    apply Nat.lt_of_not_le
    intro hbytes
    apply h ⟨level, hlevel, Nat.le_of_not_lt hle, hbytes⟩

/-- If tables of one level are addressable and those of the next are not, then a load factor rule
overflows just if its minimal level is above the one, or the entries exceed the maximal load of such
a table. -/
theorem overflows_loadFactor_iff {memory : Memory} {top : Nat} (htop : top ≤ maxLevel)
    (hfits : 2 ^ top * memory.slotBytes ≤ largest)
    (hover : largest < 2 ^ (top + 1) * memory.slotBytes) (rule : LoadFactor) (capacity : Nat) :
  memory.Overflows rule capacity
    ↔ top < rule.minLevel ∨ 2 ^ top * rule.maxLoad < capacity * 100
  := by
  have hoffers : (∃ level, memory.Offers rule capacity level)
      ↔ ∃ level, rule.startLevel? capacity = some level ∧ level ≤ top := by
    constructor
    · rintro ⟨level, hlevel⟩
      use level, hlevel.startLevel?_eq
      apply Nat.le_of_not_lt
      intro hlt
      apply Nat.not_lt_of_le hlevel.bytes_le
      apply Nat.lt_of_lt_of_le hover
      apply Nat.mul_le_mul_right
      apply Nat.pow_le_pow_right Nat.two_pos hlt
    · rintro ⟨level, hlevel, hle⟩
      use level, hlevel, Nat.le_trans hle htop
      apply Nat.le_trans _ hfits
      apply Nat.mul_le_mul_right
      apply Nat.pow_le_pow_right Nat.two_pos hle
  rw [overflows_iff, hoffers, LoadFactor.exists_startLevel?_le_iff htop, not_and_or, Nat.not_le,
    Nat.not_le]

end Memory

namespace Map

/-! ### What becomes of a request -/

variable {K V P : Type} [SizingRule P]

section Requests

variable {memory : Memory} {capacity : Nat} {rule : P}

theorem ofCapacity_of_overflows (hash : K → UInt64) (h : memory.Overflows rule capacity) :
  (ofCapacity memory capacity hash rule : Except CapacityError (Map K V P))
    = .error (.overflow capacity)
  := by
  rw [ofCapacity]
  split
  next => rfl
  next level hlevel =>
    rcases h level hlevel with hover | hlarge
    · rw [if_pos hover]
    · dsimp only
      rw [if_pos hlarge, ite_self]

theorem ofCapacity_of_offers (hash : K → UInt64) {level : Nat}
    (h : memory.Offers rule capacity level) :
  (ofCapacity memory capacity hash rule : Except CapacityError (Map K V P))
    = if memory.grants (2 ^ level * memory.slotBytes) then .ok ⟨hash, rule, .blank level⟩
      else .error (.allocation (2 ^ level))
  := by
  rw [ofCapacity, h.startLevel?_eq]
  dsimp only
  rw [if_neg (Nat.not_lt_of_le h.level_le), if_neg (Nat.not_lt_of_le h.bytes_le)]

end Requests

variable (memory : Memory) (capacity : Nat) (hash : K → UInt64) (rule : P)

/-- A map is made without a result that leaves its word. -/
theorem ofCapacityInWords?_eq :
  ofCapacityInWords? memory capacity hash rule
    = some (ofCapacity memory capacity hash rule : Except CapacityError (Map K V P))
  := by
  rw [ofCapacityInWords?, ofCapacity]
  cases SizingRule.startLevel? rule capacity with
  | none => rfl
  | some level =>
      rcases Nat.lt_or_ge maxLevel level with hover | hlevel
      · rw [Option.filter_some_neg (by simpa using hover)]
        dsimp only
        rw [if_pos hover]
      · have hslots : 2 ^ level < 2 ^ 64 :=
          Nat.pow_lt_pow_right (by decide) (Nat.lt_of_le_of_lt hlevel (by decide))
        rw [Option.filter_some_pos (by simpa using hlevel)]
        dsimp only
        rw [if_neg (Nat.not_lt_of_le hlevel), fit?_eq_some hslots, Option.bind_eq_bind,
          Option.bind_some, filter_fit?_eq]
        by_cases hlarge : Memory.largest < 2 ^ level * memory.slotBytes
        · rw [if_pos hlarge, if_pos hlarge]
          rfl
        · rw [if_neg hlarge, if_neg hlarge]
          dsimp only
          split
          · rfl
          · rfl

/-- What becomes of a request for a map. -/
theorem ofCapacity_cases :
  let made : Except CapacityError (Map K V P) := ofCapacity memory capacity hash rule
  (memory.Overflows rule capacity ∧ made = .error (.overflow capacity))
    ∨ ∃ level, memory.Offers rule capacity level
      ∧ ((memory.grants (2 ^ level * memory.slotBytes) = false
          ∧ made = .error (.allocation (2 ^ level)))
        ∨ (memory.grants (2 ^ level * memory.slotBytes) = true
          ∧ made = .ok ⟨hash, rule, .blank level⟩))
  := by
  intro made
  by_cases hoffers : ∃ level, memory.Offers rule capacity level
  · right
    obtain ⟨level, hlevel⟩ := hoffers
    use level, hlevel
    have hmade := ofCapacity_of_offers (V := V) hash hlevel
    cases hgrants : memory.grants (2 ^ level * memory.slotBytes) with
    | false =>
        left
        rw [hgrants] at hmade
        exact ⟨rfl, hmade⟩
    | true =>
        right
        rw [hgrants] at hmade
        exact ⟨rfl, hmade⟩
  · left
    have hover := Memory.overflows_iff.mpr hoffers
    exact ⟨hover, ofCapacity_of_overflows hash hover⟩

variable {memory : Memory} {capacity : Nat} {hash : K → UInt64} {rule : P}

theorem ofCapacity_eq_overflow_iff {requested : Nat} :
  (ofCapacity memory capacity hash rule : Except CapacityError (Map K V P))
      = .error (.overflow requested)
    ↔ requested = capacity ∧ memory.Overflows rule capacity
  := by
  constructor
  · intro hmade
    rcases ofCapacity_cases (V := V) memory capacity hash rule with
      ⟨hover, hcase⟩ | ⟨level, -, ⟨-, hcase⟩ | ⟨-, hcase⟩⟩
    · cases hcase.symm.trans hmade
      exact ⟨rfl, hover⟩
    · cases hcase.symm.trans hmade
    · cases hcase.symm.trans hmade
  · rintro ⟨rfl, hover⟩
    apply ofCapacity_of_overflows hash hover

theorem ofCapacity_eq_allocation_iff {slots : Nat} :
  (ofCapacity memory capacity hash rule : Except CapacityError (Map K V P))
      = .error (.allocation slots)
    ↔ ∃ level, memory.Offers rule capacity level
      ∧ memory.grants (2 ^ level * memory.slotBytes) = false ∧ slots = 2 ^ level
  := by
  constructor
  · intro hmade
    rcases ofCapacity_cases (V := V) memory capacity hash rule with
      ⟨-, hcase⟩ | ⟨level, hoffers, ⟨hgrants, hcase⟩ | ⟨-, hcase⟩⟩
    · cases hcase.symm.trans hmade
    · cases hcase.symm.trans hmade
      exact ⟨level, hoffers, hgrants, rfl⟩
    · cases hcase.symm.trans hmade
  · rintro ⟨level, hoffers, hgrants, rfl⟩
    rw [ofCapacity_of_offers hash hoffers, hgrants]
    rfl

theorem ofCapacity_eq_ok_iff {map : Map K V P} :
  ofCapacity memory capacity hash rule = .ok map
    ↔ ∃ level, memory.Offers rule capacity level
      ∧ memory.grants (2 ^ level * memory.slotBytes) = true ∧ map = ⟨hash, rule, .blank level⟩
  := by
  constructor
  · intro hmade
    rcases ofCapacity_cases (V := V) memory capacity hash rule with
      ⟨-, hcase⟩ | ⟨level, hoffers, ⟨-, hcase⟩ | ⟨hgrants, hcase⟩⟩
    · cases hcase.symm.trans hmade
    · cases hcase.symm.trans hmade
    · cases hcase.symm.trans hmade
      exact ⟨level, hoffers, hgrants, rfl⟩
  · rintro ⟨level, hoffers, hgrants, rfl⟩
    rw [ofCapacity_of_offers hash hoffers, hgrants]
    rfl

/-- With slots of 32 to 63 bytes, tables of level 57 are addressable and those of level 58 are
not. -/
theorem ofCapacity_eq_overflow_iff_of_loadFactor (hmin : 32 ≤ memory.slotBytes)
    (hmax : memory.slotBytes ≤ 63) {rule : LoadFactor} :
  (ofCapacity memory capacity hash rule : Except CapacityError (Map K V LoadFactor))
      = .error (.overflow capacity)
    ↔ 58 ≤ rule.minLevel ∨ 2 ^ 57 * rule.maxLoad < capacity * 100
  := by
  have hfits : 2 ^ 57 * memory.slotBytes ≤ Memory.largest := by
    apply Nat.le_trans (Nat.mul_le_mul_left (2 ^ 57) hmax)
    decide
  have hlarge : Memory.largest < 2 ^ (57 + 1) * memory.slotBytes := by
    apply Nat.lt_of_lt_of_le _ (Nat.mul_le_mul_left (2 ^ (57 + 1)) hmin)
    decide
  have hover := Memory.overflows_loadFactor_iff (by decide) hfits hlarge rule capacity
  rw [ofCapacity_eq_overflow_iff, hover]
  exact and_iff_right rfl

/-! ### Requests as a whole -/

/-- What becomes of a request for a map is exactly as announced, whichever of the three it is: an
overflow, a refusal, or a map that is empty and at the level offered. No result on the way leaves
its word. -/
structure IsExact (memory : Memory) (capacity : Nat) (hash : K → UInt64) (rule : P)
    (made : Except CapacityError (Map K V P)) : Prop where
  overflow_iff : ∀ requested, made = .error (.overflow requested)
    ↔ requested = capacity ∧ memory.Overflows rule capacity
  allocation_iff : ∀ slots, made = .error (.allocation slots)
    ↔ ∃ level, memory.Offers rule capacity level
      ∧ memory.grants (2 ^ level * memory.slotBytes) = false ∧ slots = 2 ^ level
  ok_iff : ∀ map, made = .ok map
    ↔ ∃ level, memory.Offers rule capacity level
      ∧ memory.grants (2 ^ level * memory.slotBytes) = true ∧ map = ⟨hash, rule, .blank level⟩
  /-- The level of a map that is made is the one offered and that of its creation. The table has as
  many slots as the level says, each of them is empty, and so nothing is counted or stored. -/
  isEmpty : ∀ map, made = .ok map →
    ∃ level, memory.Offers rule capacity level ∧ map.table.load = ⟨level, level, 0, 0⟩
      ∧ map.table.slots.size = 2 ^ level ∧ (∀ slot ∈ map.table.slots, slot = .empty)
      ∧ map.entries = []
  inWords : ofCapacityInWords? memory capacity hash rule = some made

/-- Whatever the sizing rule is and however many entries are requested, there is an overflow just if
the rule offers no level, one above the largest, or one whose tables are not addressable. Otherwise
the memory is refused, or the map is empty and at the level offered, and no result on the way leaves
its word. A load factor rule, asked for any number of entries that is a word, finds its level with
results in words as well. With slots of 32 to 63 bytes it overflows just if its minimal level is 58
or more, or the entries exceed the maximal load of a table of level 57. -/
theorem ofCapacity_isExact {K V : Type} (hash : K → UInt64) :
  (∀ {P : Type} [SizingRule P] (memory : Memory) (rule : P) (capacity : Nat),
      IsExact memory capacity hash rule
        (ofCapacity memory capacity hash rule : Except CapacityError (Map K V P)))
    ∧ (∀ (rule : LoadFactor) (entries : UInt64),
      rule.startLevelInWords? entries.toNat = some (rule.startLevel? entries.toNat))
    ∧ ∀ (memory : Memory) (rule : LoadFactor) (capacity : Nat),
      32 ≤ memory.slotBytes → memory.slotBytes ≤ 63 →
        ((ofCapacity memory capacity hash rule : Except CapacityError (Map K V LoadFactor))
            = .error (.overflow capacity)
          ↔ 58 ≤ rule.minLevel ∨ 2 ^ 57 * rule.maxLoad < capacity * 100)
  := by
  refine ⟨?_, ?_, ?_⟩
  · intro P _ memory rule capacity
    constructor
    case overflow_iff =>
      intro requested
      apply ofCapacity_eq_overflow_iff
    case allocation_iff =>
      intro slots
      apply ofCapacity_eq_allocation_iff
    case ok_iff =>
      intro map
      apply ofCapacity_eq_ok_iff
    case isEmpty =>
      intro map hmade
      obtain ⟨level, hoffers, -, rfl⟩ := ofCapacity_eq_ok_iff.mp hmade
      use level, hoffers, rfl
      refine ⟨Array.size_replicate, ?_, Table.entries_blank level⟩
      intro slot hslot
      apply Array.eq_of_mem_replicate hslot
    case inWords => apply ofCapacityInWords?_eq
  · intro rule entries
    apply rule.startLevelInWords?_eq entries.toNat_lt
  · intro memory rule capacity hmin hmax
    apply ofCapacity_eq_overflow_iff_of_loadFactor hmin hmax

/-- Under the default rule the boundary is the same for slots of forty and of 48 bytes. -/
theorem ofCapacity_isExact_of_default :
  let hash : UInt64 → UInt64 := id
  let made := fun slotBytes capacity => (ofCapacity ⟨slotBytes, fun _ => true⟩ capacity hash
    ({} : LoadFactor) : Except CapacityError (Map UInt64 Nat LoadFactor))
  (32 ≤ 40 ∧ 48 ≤ 63)
    ∧ made 40 100880631653099110 ≠ .error (.overflow 100880631653099110)
    ∧ made 48 100880631653099110 ≠ .error (.overflow 100880631653099110)
    ∧ made 40 100880631653099111 = .error (.overflow 100880631653099111)
    ∧ made 48 100880631653099111 = .error (.overflow 100880631653099111)
  := by
  intro hash made
  have hover : ∀ slotBytes capacity, 32 ≤ slotBytes → slotBytes ≤ 63 →
      (made slotBytes capacity = .error (.overflow capacity)
        ↔ 58 ≤ ({} : LoadFactor).minLevel
          ∨ 2 ^ 57 * ({} : LoadFactor).maxLoad < capacity * 100) :=
    fun slotBytes => (ofCapacity_isExact hash).2.2 ⟨slotBytes, fun _ => true⟩ {}
  refine ⟨by decide, ?_, ?_, ?_, ?_⟩
  · rw [ne_eq, hover 40 _ (by decide) (by decide)]
    decide
  · rw [ne_eq, hover 48 _ (by decide) (by decide)]
    decide
  · rw [hover 40 _ (by decide) (by decide)]
    decide
  · rw [hover 48 _ (by decide) (by decide)]
    decide

/-- The largest number of entries that the default rule offers an addressable level for, and the
next one. -/
example : ({} : LoadFactor).startLevel? 100880631653099110 = some 57
    ∧ ({} : LoadFactor).startLevel? 100880631653099111 = some 58 := by decide

end Map

end OpenAddressing
