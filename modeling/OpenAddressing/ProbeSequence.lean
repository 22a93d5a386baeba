/-!
# Probe sequences

The slots a key may live in are tried in an order that depends on its hash alone: from the slot
`hash` modulo the number of slots on, the first step goes one slot ahead, the next one two, and
so on, wrapping around at the end of the table. A `ProbeSequence` is what is still to be tried.
`positions` lists it, and `walk` runs through it until an answer is found;
`walk_eq_foldlM` says that the walk is the fold of that list.
-/

namespace OpenAddressing

/-- The rest of a probe sequence in a table whose largest slot number is `mask`. -/
structure ProbeSequence where
  /-- The slot to be tried next. -/
  position : Nat
  /-- The number of slots tried so far. -/
  step : Nat
  /-- The largest slot number. -/
  mask : Nat
  deriving Repr, DecidableEq

namespace ProbeSequence

/-- The probe sequence of a hash. -/
def start (hash : UInt64) (mask : Nat) : ProbeSequence where
  position := hash.toNat &&& mask
  step := 0
  mask := mask

/-- The slot to be tried next, with the rest of the sequence, until as many slots have been
tried as the table has. -/
def next? (probe : ProbeSequence) : Option (Nat × ProbeSequence) :=
  if probe.mask < probe.step then
    none
  else
    some (probe.position,
      { probe with
        position := (probe.position + (probe.step + 1)) &&& probe.mask
        step := probe.step + 1 })

/-- The number of slots still to be tried. -/
def remaining (probe : ProbeSequence) : Nat :=
  probe.mask + 1 - probe.step

/-- The next slots to be tried, at most `count` of them. -/
def take : Nat → ProbeSequence → List Nat
  | 0, _ => []
  | count + 1, probe =>
    match probe.next? with
    | none => []
    | some (i, rest) => i :: take count rest

/-- The slots still to be tried, in order. -/
def positions (probe : ProbeSequence) : List Nat :=
  probe.take probe.remaining

/-- Visit the next slots, at most `count` of them, until `visit` breaks off with an answer. -/
@[specialize]
def walkAtMost {σ β : Type} (visit : σ → Nat → Except β σ) :
    Nat → ProbeSequence → σ → Except β σ
  | 0, _, state => .ok state
  | count + 1, probe, state =>
    match probe.next? with
    | none => .ok state
    | some (i, rest) =>
      match visit state i with
      | .error answer => .error answer
      | .ok state => walkAtMost visit count rest state

/-- Visit the slots still to be tried until `visit` breaks off with an answer. -/
@[inline]
def walk {σ β : Type} (probe : ProbeSequence) (state : σ)
    (visit : σ → Nat → Except β σ) : Except β σ :=
  walkAtMost visit probe.remaining probe state

theorem next?_eq_none_iff (probe : ProbeSequence) :
  probe.next? = none ↔ probe.remaining = 0
  := by
  unfold next? remaining
  split <;> simp <;> omega

/-- Every step leaves one slot less to be tried. -/
theorem remaining_of_next? {probe rest : ProbeSequence} {i : Nat}
    (h : probe.next? = some (i, rest)) :
  probe.remaining = rest.remaining + 1
  := by
  unfold next? at h
  split at h
  · simp at h
  · simp only [Option.some.injEq, Prod.mk.injEq] at h
    obtain ⟨_, rfl⟩ := h
    simp only [remaining]
    omega

/-- The sequence delivers exactly as many slots as it promises. -/
theorem length_positions (probe : ProbeSequence) :
  probe.positions.length = probe.remaining
  := by
  unfold positions
  generalize h : probe.remaining = count
  induction count generalizing probe with
  | zero => rfl
  | succ count ih =>
    unfold take
    cases hnext : probe.next? with
    | none =>
      rw [next?_eq_none_iff] at hnext
      omega
    | some slot =>
      obtain ⟨i, rest⟩ := slot
      have hrest := remaining_of_next? hnext
      simp [ih rest (by omega)]

theorem walkAtMost_eq_foldlM {σ β : Type} (visit : σ → Nat → Except β σ) (count : Nat)
    (probe : ProbeSequence) (state : σ) :
  walkAtMost visit count probe state = (probe.take count).foldlM visit state
  := by
  induction count generalizing probe state with
  | zero => rfl
  | succ count ih =>
    unfold walkAtMost take
    cases probe.next? with
    | none => rfl
    | some slot =>
      obtain ⟨i, rest⟩ := slot
      simp only [List.foldlM_cons]
      cases visit state i with
      | error answer => rfl
      | ok state => exact ih rest state

/-- The walk is the fold of the list of positions, broken off at the first answer. -/
theorem walk_eq_foldlM {σ β : Type} (probe : ProbeSequence) (state : σ)
    (visit : σ → Nat → Except β σ) :
  probe.walk state visit = probe.positions.foldlM visit state
  := walkAtMost_eq_foldlM visit probe.remaining probe state

end ProbeSequence

end OpenAddressing
