import OpenAddressing.Proofs.ProbeSequence.Coverage
import OpenAddressing.Proofs.Table.Slots
import OpenAddressing.Table.Rebuild

/-!
# Searching a table

What the three walks along a probe sequence find, said in terms of the slots alone. A search
passes a slot that is not empty and does not hold the entry of the key; it misses the key if it
passes every slot up to an empty one or to the end. In a well-formed table a search misses
exactly the keys without an entry, whatever the hashes and however full the table.
-/

namespace OpenAddressing

/-! ### Walks that break off -/

namespace ProbeSequence

variable {σ β : Type} {visit : σ → Nat → Except β σ}

/-- A fold that breaks off does so at some position, after it has run through all before. -/
theorem exists_of_foldlM_eq_error {positions : List Nat} {state : σ} {answer : β}
    (h : positions.foldlM visit state = .error answer) :
  ∃ before i after last, positions = before ++ i :: after
    ∧ before.foldlM visit state = .ok last ∧ visit last i = .error answer
  := by
  induction positions generalizing state with
  | nil => cases h
  | cons i positions ih =>
      rw [List.foldlM_cons] at h
      cases hvisit : visit state i with
      | error first =>
          rw [hvisit] at h
          cases h
          use [], i, positions, state
          exact ⟨rfl, rfl, hvisit⟩
      | ok next =>
          rw [hvisit] at h
          obtain ⟨before, j, after, last, rfl, hbefore, hj⟩ := ih h
          use i :: before, j, after, last
          refine ⟨rfl, ?_, hj⟩
          rw [List.foldlM_cons, hvisit]
          apply hbefore

/-- A fold without a state that does not break off has not broken off anywhere. -/
theorem visit_of_foldlM_eq_ok {visit : Unit → Nat → Except β Unit} {positions : List Nat}
    (h : positions.foldlM visit () = .ok ()) :
  ∀ i ∈ positions, visit () i = .ok ()
  := by
  induction positions with
  | nil =>
      intro i hi
      cases hi
  | cons j positions ih =>
      rw [List.foldlM_cons] at h
      cases hvisit : visit () j with
      | error first =>
          rw [hvisit] at h
          cases h
      | ok next =>
          rw [hvisit] at h
          intro i hi
          rcases List.mem_cons.mp hi with rfl | hi
          · apply hvisit
          · apply ih h i hi

end ProbeSequence

namespace Table

variable {K V : Type} [BEq K] {table : Table K V}

/-! ### Passing and missing -/

/-- A search for `key` goes on past slot `i`. -/
def Passes (table : Table K V) (hash : UInt64) (key : K) (i : Nat) : Prop :=
  table.slotAt i ≠ .empty
    ∧ ∀ entry, table.slotAt i = .occupied entry → entry.isFor hash key = false

/-- A search for `key` passes every slot of its probe sequence up to an empty slot, or up to
the end. -/
def Misses (table : Table K V) (hash : UInt64) (key : K) : Prop :=
  (∀ i ∈ (table.probe hash).positions, table.Passes hash key i)
    ∨ ∃ before i after, (table.probe hash).positions = before ++ i :: after
      ∧ (∀ j ∈ before, table.Passes hash key j) ∧ table.slotAt i = .empty

omit [BEq K] in
/-- Two slots of a probe sequence are the same, or one of them comes before the other. -/
theorem mem_or_eq_or_mem_of_split {before after before' after' : List Nat} {i j : Nat}
    (h : before ++ i :: after = before' ++ j :: after') :
  i ∈ before' ∨ i = j ∨ j ∈ before
  := by
  rcases List.append_eq_append_iff.mp h with ⟨more, rfl, hrest⟩ | ⟨more, rfl, hrest⟩
  · rcases List.cons_eq_append_iff.mp hrest with ⟨rfl, hcons⟩ | ⟨more, rfl, -⟩
    · right
      left
      apply (List.cons.inj hcons).1.symm
    · left
      apply List.mem_append_right _ List.mem_cons_self
  · rcases List.cons_eq_append_iff.mp hrest with ⟨rfl, hcons⟩ | ⟨more, rfl, -⟩
    · right
      left
      apply (List.cons.inj hcons).1
    · right
      right
      apply List.mem_append_right _ List.mem_cons_self

/-- An entry that is reached by its hash is not missed. -/
theorem Misses.isFor_eq_false {hash : UInt64} {key : K} (h : table.Misses hash key) {i : Nat}
    {entry : Entry K V} (hslot : table.slotAt i = .occupied entry)
    (hreach : table.Reaches hash i) :
  entry.isFor hash key = false
  := by
  obtain ⟨before, after, hpositions, hbefore⟩ := hreach
  rcases h with hall | ⟨passed, e, rest, hpassed, hpasses, hempty⟩
  · apply (hall i _).2 entry hslot
    rw [hpositions]
    apply List.mem_append_right _ List.mem_cons_self
  · rw [hpositions] at hpassed
    rcases mem_or_eq_or_mem_of_split hpassed with hi | rfl | he
    · apply (hpasses i hi).2 entry hslot
    · rw [hslot] at hempty
      cases hempty
    · apply absurd hempty (hbefore e he)

/-! ### Finding an entry -/

/-- One step of the search for the entry of a key. -/
def findStep (table : Table K V) (hash : UInt64) (key : K) (_ : Unit) (i : Nat) :
    Except (Option Nat) Unit :=
  match table.slotAt i with
  | .empty => .error none
  | .tombstone => .ok ()
  | .occupied entry => if entry.isFor hash key then .error (some i) else .ok ()

theorem find?_eq_foldlM (table : Table K V) (hash : UInt64) (key : K) :
  table.find? hash key
    = match (table.probe hash).positions.foldlM (table.findStep hash key) () with
      | .error answer => answer
      | .ok _ => none
  := by
  rw [← ProbeSequence.walk_eq_foldlM]
  rfl

theorem passes_of_findStep {hash : UInt64} {key : K} {i : Nat}
    (h : table.findStep hash key () i = .ok ()) :
  table.Passes hash key i
  := by
  unfold findStep at h
  cases hslot : table.slotAt i <;> grind [Passes]

/-- A search that ends at a slot has found an entry for the key. -/
theorem slotAt_of_find?_eq_some {hash : UInt64} {key : K} {i : Nat}
    (h : table.find? hash key = some i) :
  ∃ entry, table.slotAt i = .occupied entry ∧ entry.isFor hash key
  := by
  rw [find?_eq_foldlM] at h
  split at h
  next answer hfold =>
    subst h
    obtain ⟨before, j, after, _, -, -, hj⟩ := ProbeSequence.exists_of_foldlM_eq_error hfold
    unfold findStep at hj
    cases hslot : table.slotAt j <;> grind
  next => cases h

/-- A search that ends without a slot has missed the key. -/
theorem misses_of_find?_eq_none {hash : UInt64} {key : K}
    (h : table.find? hash key = none) :
  table.Misses hash key
  := by
  rw [find?_eq_foldlM] at h
  split at h
  next answer hfold =>
    subst h
    obtain ⟨before, j, after, _, hpositions, hbefore, hj⟩ :=
      ProbeSequence.exists_of_foldlM_eq_error hfold
    right
    use before, j, after, hpositions
    constructor
    · intro i hi
      apply passes_of_findStep (ProbeSequence.visit_of_foldlM_eq_ok hbefore i hi)
    · unfold findStep at hj
      cases hslot : table.slotAt j <;> grind
  next hfold =>
    left
    intro i hi
    apply passes_of_findStep (ProbeSequence.visit_of_foldlM_eq_ok hfold i hi)

/-! ### Finding a place -/

/-- Slot `i` is the first of the probe sequence without an entry. -/
def IsVacancy (table : Table K V) (hash : UInt64) (i : Nat) : Prop :=
  (table.slotAt i).isOccupied = false
    ∧ ∃ before after, (table.probe hash).positions = before ++ i :: after
      ∧ ∀ j ∈ before, (table.slotAt j).isOccupied

omit [BEq K] in
theorem IsVacancy.reaches {hash : UInt64} {i : Nat} (h : table.IsVacancy hash i) :
  table.Reaches hash i
  := by
  obtain ⟨-, before, after, hpositions, hbefore⟩ := h
  use before, after, hpositions
  intro j hj hempty
  have hoccupied := hbefore j hj
  rw [hempty] at hoccupied
  cases hoccupied

omit [BEq K] in
/-- Only one slot is the first without an entry. -/
theorem IsVacancy.unique {hash : UInt64} {i j : Nat} (hi : table.IsVacancy hash i)
    (hj : table.IsVacancy hash j) :
  i = j
  := by
  have hfind : ∀ {k}, table.IsVacancy hash k →
      (table.probe hash).positions.find? (fun k => !(table.slotAt k).isOccupied) = some k := by
    rintro k ⟨hslot, before, after, hpositions, hbefore⟩
    apply List.find?_eq_some_iff_append.mpr
    use by simp [hslot], before, after, hpositions
    simpa using hbefore
  apply Option.some.inj ((hfind hi).symm.trans (hfind hj))

omit [BEq K] in
/-- Where there are no tombstones, an empty slot that is reached is the first without an entry. -/
theorem Reaches.isVacancy {hash : UInt64} {i : Nat} (h : table.Reaches hash i)
    (hempty : table.slotAt i = .empty) (hnone : ∀ j, table.slotAt j ≠ .tombstone) :
  table.IsVacancy hash i
  := by
  obtain ⟨before, after, hpositions, hbefore⟩ := h
  use by rw [hempty]; rfl
  use before, after, hpositions
  intro j hj
  cases hslot : table.slotAt j with
  | empty => apply absurd hslot (hbefore j hj)
  | tombstone => apply absurd hslot (hnone j)
  | occupied entry => rfl

/-- One step of the search for the place of a key, with the first tombstone so far. -/
def placeStep (table : Table K V) (hash : UInt64) (key : K) (reusable : Option Nat) (i : Nat) :
    Except (Placement K V) (Option Nat) :=
  match table.slotAt i with
  | .occupied entry =>
    if entry.isFor hash key then .error (.existing i entry) else .ok reusable
  | .tombstone => .ok (reusable.or (some i))
  | .empty =>
    match reusable with
    | some j => .error (.vacant j true)
    | none => .error (.vacant i false)

theorem place_eq_foldlM (table : Table K V) (hash : UInt64) (key : K) :
  table.place hash key
    = match (table.probe hash).positions.foldlM (table.placeStep hash key) none with
      | .error placement => placement
      | .ok _ => .nowhere
  := by
  rw [← ProbeSequence.walk_eq_foldlM]
  rfl

theorem placeStep_of_empty {hash : UInt64} {key : K} {reusable : Option Nat} {i : Nat}
    (hslot : table.slotAt i = .empty) :
  table.placeStep hash key reusable i
    = match reusable with
      | some j => .error (.vacant j true)
      | none => .error (.vacant i false)
  := by
  simp only [placeStep, hslot]

theorem placeStep_of_tombstone {hash : UInt64} {key : K} {reusable : Option Nat} {i : Nat}
    (hslot : table.slotAt i = .tombstone) :
  table.placeStep hash key reusable i = .ok (reusable.or (some i))
  := by
  simp only [placeStep, hslot]

theorem placeStep_of_occupied {hash : UInt64} {key : K} {reusable : Option Nat} {i : Nat}
    {entry : Entry K V} (hslot : table.slotAt i = .occupied entry) :
  table.placeStep hash key reusable i
    = if entry.isFor hash key then .error (.existing i entry) else .ok reusable
  := by
  simp only [placeStep, hslot]

/-- As long as the search for a place goes on, it passes slots and remembers the first
tombstone. -/
theorem of_foldlM_placeStep_eq_ok {hash : UInt64} {key : K} {positions : List Nat}
    {reusable last : Option Nat}
    (h : positions.foldlM (table.placeStep hash key) reusable = .ok last) :
  (∀ i ∈ positions, table.Passes hash key i)
    ∧ last = reusable.or (positions.find? fun i => (table.slotAt i).isTombstone)
  := by
  induction positions generalizing reusable with
  | nil =>
      cases h
      simp
  | cons i positions ih =>
      rw [List.foldlM_cons] at h
      cases hslot : table.slotAt i with
      | empty =>
          rw [placeStep_of_empty hslot] at h
          cases reusable <;> cases h
      | tombstone =>
          rw [placeStep_of_tombstone hslot] at h
          obtain ⟨hpasses, hlast⟩ := ih h
          constructor
          · intro j hj
            rcases List.mem_cons.mp hj with rfl | hj
            · simp [Passes, hslot]
            · apply hpasses j hj
          · rw [hlast, List.find?_cons, hslot]
            cases reusable <;> rfl
      | occupied entry =>
          rw [placeStep_of_occupied hslot] at h
          cases hfor : entry.isFor hash key with
          | true =>
              rw [hfor] at h
              cases h
          | false =>
              rw [hfor] at h
              obtain ⟨hpasses, hlast⟩ := ih h
              constructor
              · intro j hj
                rcases List.mem_cons.mp hj with rfl | hj
                · simp [Passes, hslot, hfor]
                · apply hpasses j hj
              · rw [hlast, List.find?_cons, hslot]
                rfl

/-- An insertion lands on an entry only if that is the one of the key. -/
theorem slotAt_of_place_eq_existing {hash : UInt64} {key : K} {i : Nat} {entry : Entry K V}
    (h : table.place hash key = .existing i entry) :
  table.slotAt i = .occupied entry ∧ entry.isFor hash key
  := by
  rw [place_eq_foldlM] at h
  split at h
  next placement hfold =>
    subst h
    obtain ⟨before, j, after, last, -, -, hj⟩ := ProbeSequence.exists_of_foldlM_eq_error hfold
    unfold placeStep at hj
    cases hslot : table.slotAt j <;> grind
  next => cases h

/-- An insertion lands on a slot without an entry only if the key is missed, and then on the
first such slot. -/
theorem isVacancy_of_place_eq_vacant {hash : UInt64} {key : K} {i : Nat} {tombstone : Bool}
    (h : table.place hash key = .vacant i tombstone) :
  table.Misses hash key ∧ table.IsVacancy hash i
    ∧ table.slotAt i = if tombstone then .tombstone else .empty
  := by
  rw [place_eq_foldlM] at h
  split at h
  next placement hfold =>
    subst h
    obtain ⟨before, e, after, last, hpositions, hbefore, he⟩ :=
      ProbeSequence.exists_of_foldlM_eq_error hfold
    obtain ⟨hpasses, hlast⟩ := of_foldlM_placeStep_eq_ok hbefore
    have hempty : table.slotAt e = .empty := by
      unfold placeStep at he
      cases hslot : table.slotAt e <;> grind
    have hmisses : table.Misses hash key := by
      right
      use before, e, after, hpositions
    have hoccupied : ∀ j ∈ before, ¬ (table.slotAt j).isTombstone →
        (table.slotAt j).isOccupied := by
      intro j hj htombstone
      have hne := (hpasses j hj).1
      cases hslot : table.slotAt j with
      | empty => apply absurd hslot hne
      | tombstone => apply absurd (Slot.isTombstone_iff.mpr hslot) htombstone
      | occupied entry => rfl
    rw [placeStep_of_empty hempty] at he
    rw [Option.none_or] at hlast
    cases hfound : before.find? fun i => (table.slotAt i).isTombstone with
    | none =>
        -- no tombstone on the way: the insertion takes the empty slot that ended the search
        rw [hlast, hfound] at he
        cases he
        use hmisses
        refine ⟨⟨by rw [hempty]; rfl, before, after, hpositions, ?_⟩, hempty⟩
        intro j hj
        apply hoccupied j hj (List.find?_eq_none.mp hfound j hj)
    | some j =>
        rw [hlast, hfound] at he
        cases he
        obtain ⟨htombstone, front, back, rfl, hfront⟩ := List.find?_eq_some_iff_append.mp hfound
        have hslot := Slot.isTombstone_iff.mp htombstone
        use hmisses
        refine ⟨⟨by rw [hslot]; rfl, front, back ++ e :: after, ?_, ?_⟩, hslot⟩
        · rw [hpositions, List.append_assoc]
          rfl
        · intro k hk
          apply hoccupied k (List.mem_append_left _ hk)
          simpa using hfront k hk
  next => cases h

/-- An insertion lands on a slot without an entry only if it has come to an empty one. -/
theorem exists_empty_of_place_eq_vacant {hash : UInt64} {key : K} {i : Nat} {tombstone : Bool}
    (h : table.place hash key = .vacant i tombstone) :
  ∃ j ∈ (table.probe hash).positions, table.slotAt j = .empty
  := by
  rw [place_eq_foldlM] at h
  split at h
  next placement hfold =>
    subst h
    obtain ⟨before, j, after, last, hpositions, -, hj⟩ :=
      ProbeSequence.exists_of_foldlM_eq_error hfold
    use j
    constructor
    · rw [hpositions]
      apply List.mem_append_right _ List.mem_cons_self
    · unfold placeStep at hj
      cases hslot : table.slotAt j <;> grind
  next => cases h

/-- An insertion lands nowhere only if the search passes every slot. -/
theorem passes_of_place_eq_nowhere {hash : UInt64} {key : K}
    (h : table.place hash key = .nowhere) :
  ∀ i ∈ (table.probe hash).positions, table.Passes hash key i
  := by
  rw [place_eq_foldlM] at h
  split at h
  next placement hfold =>
    subst h
    obtain ⟨before, j, after, last, -, -, hj⟩ := ProbeSequence.exists_of_foldlM_eq_error hfold
    unfold placeStep at hj
    cases hslot : table.slotAt j <;> grind
  next hfold => apply (of_foldlM_placeStep_eq_ok hfold).1

/-! ### Finding an empty slot -/

/-- One step of the search for an empty slot. -/
def vacancyStep (table : Table K V) (_ : Unit) (i : Nat) : Except Nat Unit :=
  if (table.slotAt i).isEmpty then .error i else .ok ()

omit [BEq K] in
theorem vacancy?_eq_foldlM (table : Table K V) (hash : UInt64) :
  table.vacancy? hash
    = match (table.probe hash).positions.foldlM table.vacancyStep () with
      | .error i => some i
      | .ok _ => none
  := by
  rw [← ProbeSequence.walk_eq_foldlM]
  rfl

omit [BEq K] in
theorem slotAt_of_vacancyStep {i : Nat} (h : table.vacancyStep () i = .ok ()) :
  table.slotAt i ≠ .empty
  := by
  intro hempty
  rw [vacancyStep, hempty] at h
  cases h

omit [BEq K] in
/-- The slot found is empty, and no slot before it is. -/
theorem reaches_of_vacancy?_eq_some {hash : UInt64} {i : Nat} (h : table.vacancy? hash = some i) :
  table.slotAt i = .empty ∧ table.Reaches hash i
  := by
  rw [vacancy?_eq_foldlM] at h
  split at h
  next j hfold =>
    cases h
    obtain ⟨before, j, after, _, hpositions, hbefore, hj⟩ :=
      ProbeSequence.exists_of_foldlM_eq_error hfold
    unfold vacancyStep at hj
    split at hj
    next hempty =>
      cases hj
      use Slot.isEmpty_iff.mp hempty, before, after, hpositions
      intro k hk
      apply slotAt_of_vacancyStep (ProbeSequence.visit_of_foldlM_eq_ok hbefore k hk)
    next => cases hj
  next => cases h

omit [BEq K] in
theorem slotAt_ne_empty_of_vacancy?_eq_none {hash : UInt64} (h : table.vacancy? hash = none) :
  ∀ i ∈ (table.probe hash).positions, table.slotAt i ≠ .empty
  := by
  rw [vacancy?_eq_foldlM] at h
  split at h
  next => cases h
  next hfold =>
    intro i hi
    apply slotAt_of_vacancyStep (ProbeSequence.visit_of_foldlM_eq_ok hfold i hi)

end Table

end OpenAddressing
