import OpenAddressing.Proofs.Table.WellFormed
import OpenAddressing.Reentry.Guarded

/-!
# Which keys are compared

A search that lets keys act compares the stored keys on its way whose hash is that of the key looked
up, until one of them is equal or breaks off. These are the `candidates` of the hash. In a
well-formed table the candidates are all the entries with the hash, wherever they are, since an
empty slot does not come before any of them.

* `search_eq`: a search is a comparison of the candidates, one after the other.
-/

namespace OpenAddressing

/-! ### Candidates -/

namespace Slot

variable {K V : Type}

/-- The entries with the given hash among slots, up to the first empty one. -/
def candidates (hash : UInt64) : List (Slot K V) → List (Entry K V)
  | [] => []
  | .empty :: _ => []
  | .tombstone :: slots => candidates hash slots
  | .occupied entry :: slots =>
    if entry.hash == hash then entry :: candidates hash slots else candidates hash slots

theorem mem_candidates {hash : UInt64} {slots : List (Slot K V)} {entry : Entry K V} :
  entry ∈ candidates hash slots
    ↔ entry.hash = hash ∧ ∃ before after, slots = before ++ .occupied entry :: after
      ∧ ∀ slot ∈ before, slot ≠ .empty
  := by
  induction slots with
  | nil => simp [candidates]
  | cons slot slots ih =>
      -- what comes before the entry is nothing, or begins with the first slot
      have hsplit : (∃ before after, slot :: slots = before ++ .occupied entry :: after
            ∧ ∀ other ∈ before, other ≠ .empty)
          ↔ slot = .occupied entry ∨ slot ≠ .empty
            ∧ ∃ before after, slots = before ++ .occupied entry :: after
              ∧ ∀ other ∈ before, other ≠ .empty := by
        constructor
        · rintro ⟨_ | ⟨first, before⟩, after, hslots, hbefore⟩
          · left
            apply (List.cons.inj hslots).1
          · obtain ⟨rfl, rfl⟩ := List.cons.inj hslots
            obtain ⟨hfirst, hbefore⟩ := List.forall_mem_cons.mp hbefore
            right
            exact ⟨hfirst, before, after, rfl, hbefore⟩
        · rintro (rfl | ⟨hslot, before, after, rfl, hbefore⟩)
          · exact ⟨[], slots, rfl, List.forall_mem_nil _⟩
          · exact ⟨slot :: before, after, rfl, List.forall_mem_cons.mpr ⟨hslot, hbefore⟩⟩
      rw [hsplit]
      cases slot with
      | empty => simp [candidates]
      | tombstone => simp [candidates, ih]
      | occupied first =>
          rw [candidates]
          split
          next hfirst => grind
          next hfirst => grind

end Slot

namespace Table

variable {K V : Type} {table : Table K V}

/-- The entries with the given hash on its probe sequence, up to the first empty slot. -/
def candidates (table : Table K V) (hash : UInt64) : List (Entry K V) :=
  Slot.candidates hash ((table.probe hash).positions.map table.slotAt)

/-- All entries with a hash are candidates. -/
theorem WellFormed.mem_candidates [BEq K] {hash : K → UInt64} (h : table.WellFormed hash)
    {khash : UInt64} {entry : Entry K V} :
  entry ∈ table.candidates khash ↔ entry ∈ table.entries ∧ entry.hash = khash
  := by
  rw [candidates, Slot.mem_candidates]
  constructor
  · rintro ⟨hentry, before, after, hslots, -⟩
    have hmem : .occupied entry ∈ (table.probe khash).positions.map table.slotAt := by
      rw [hslots]
      apply List.mem_append_right _ List.mem_cons_self
    obtain ⟨i, -, hslot⟩ := List.mem_map.mp hmem
    exact ⟨mem_entries.mpr ⟨i, hslot⟩, hentry⟩
  · rintro ⟨hentry, rfl⟩
    obtain ⟨i, hslot⟩ := mem_entries.mp hentry
    obtain ⟨before, after, hpositions, hbefore⟩ := h.reaches i entry hslot
    use rfl, before.map table.slotAt, after.map table.slotAt
    constructor
    · rw [hpositions, List.map_append, List.map_cons, hslot]
    · rw [List.forall_mem_map]
      apply hbefore

end Table

/-! ### Searches -/

namespace Guarded

variable {K V P α β : Type}

/-- Go on from the answer of a call. A fault ends the whole. -/
def andThen (call : Guarded K V P → Guarded K V P × Except Fault α)
    (next : α → Guarded K V P → Guarded K V P × Except Fault β) (state : Guarded K V P) :
    Guarded K V P × Except Fault β :=
  match call state with
  | (state, .error cause) => (state, .error cause)
  | (state, .ok answer) => next answer state

variable [BEq K]

/-- Compare entries with the key looked up, one after the other, until one has an equal key or
breaks off. -/
def compareAll (hooks : Hooks K) (query : K) :
    List (Entry K V) → Guarded K V P → Guarded K V P × Except Fault (Option (Entry K V))
  | [] => fun state => (state, .ok none)
  | entry :: entries =>
    andThen
      (fun state => state.actIfAny hooks .comparing entry.key (hooks.onCompare entry.key query))
      fun _ state =>
        if entry.key == query then (state, .ok (some entry))
        else compareAll hooks query entries state

/-- One step of a search. -/
def searchStep (hooks : Hooks K) (table : Table K V) (hash : UInt64) (query : K)
    (state : Guarded K V P) (i : Nat) :
    Except (Guarded K V P × Except Fault (Option (Entry K V))) (Guarded K V P) :=
  match table.slotAt i with
  | .empty => .error (state, .ok none)
  | .tombstone => .ok state
  | .occupied entry =>
    if entry.hash == hash then
      match state.actIfAny hooks .comparing entry.key (hooks.onCompare entry.key query) with
      | (state, .error cause) => .error (state, .error cause)
      | (state, .ok _) =>
        if entry.key == query then .error (state, .ok (some entry)) else .ok state
    else
      .ok state

/-- The answer that a search has come to. -/
def found : Except (Guarded K V P × Except Fault (Option (Entry K V))) (Guarded K V P) →
    Guarded K V P × Except Fault (Option (Entry K V))
  | .error answer => answer
  | .ok state => (state, .ok none)

theorem found_foldlM_searchStep (hooks : Hooks K) (table : Table K V) (hash : UInt64) (query : K)
    (positions : List Nat) (state : Guarded K V P) :
  found (positions.foldlM (searchStep hooks table hash query) state)
    = compareAll hooks query (Slot.candidates hash (positions.map table.slotAt)) state
  := by
  induction positions generalizing state with
  | nil => rfl
  | cons i positions ih =>
      rw [List.foldlM_cons, searchStep, List.map_cons]
      cases hslot : table.slotAt i with
      | empty => rfl
      | tombstone => apply ih
      | occupied entry =>
          dsimp only
          rw [Slot.candidates]
          split
          next hhash =>
            rw [compareAll, andThen]
            obtain ⟨next, _ | _⟩ :=
              state.actIfAny hooks .comparing entry.key (hooks.onCompare entry.key query)
            · rfl
            · dsimp only
              split
              next => rfl
              next => apply ih
          next => apply ih

/-- A search compares the candidates. -/
theorem search_eq (hooks : Hooks K) (state : Guarded K V P) (hash : UInt64) (query : K) :
  state.search hooks hash query
    = compareAll hooks query (state.map.table.candidates hash) state
  := by
  rw [Table.candidates, ← found_foldlM_searchStep, ← ProbeSequence.walk_eq_foldlM]
  rfl

end Guarded

end OpenAddressing
