import OpenAddressing.Fault

/-!
# Outcomes

A mutation leaves a state behind whether it answers or breaks off, and on the way it may rebuild
the table. An `Outcome` holds all three: the state, the rebuilds that were completed, and the
answer or the fault.
-/

namespace OpenAddressing

/-- A completed rebuild. -/
structure Rebuild where
  /-- The level of the table before. -/
  fromLevel : Nat
  /-- The level of the table after. -/
  toLevel : Nat
  /-- The number of live entries after. -/
  live : Nat
  /-- The number of tombstones before. -/
  dropped : Nat
  deriving Repr, DecidableEq

namespace Rebuild

/-- The line that reports a rebuild. -/
def message (rebuild : Rebuild) : String :=
  s!"rehash: level {rebuild.fromLevel} -> {rebuild.toLevel}, {rebuild.live} live, "
    ++ s!"{rebuild.dropped} tombstones dropped"

end Rebuild

/-- What a mutation leaves behind. -/
structure Outcome (σ : Type) (α : Type) where
  state : σ
  rebuilds : List Rebuild
  answer : Except Fault α

namespace Outcome

variable {σ : Type} {α : Type}

/-- Answer without a rebuild. -/
def ok (state : σ) (answer : α) : Outcome σ α :=
  ⟨state, [], .ok answer⟩

/-- Break off without a rebuild. -/
def fault (state : σ) (cause : Fault) : Outcome σ α :=
  ⟨state, [], .error cause⟩

/-- Go on from the state and the answer. A fault ends the whole. -/
@[inline]
def andThen {β : Type} (outcome : Outcome σ α) (next : σ → α → Outcome σ β) : Outcome σ β :=
  match outcome with
  | ⟨state, rebuilds, .error cause⟩ => ⟨state, rebuilds, .error cause⟩
  | ⟨state, rebuilds, .ok answer⟩ =>
    match next state answer with
    | ⟨state, more, answer⟩ => ⟨state, rebuilds ++ more, answer⟩

@[simp]
theorem ok_andThen {β : Type} (state : σ) (answer : α) (next : σ → α → Outcome σ β) :
  (ok state answer).andThen next = next state answer
  := rfl

@[simp]
theorem fault_andThen {β : Type} (state : σ) (cause : Fault) (next : σ → α → Outcome σ β) :
  (fault state cause).andThen next = fault state cause
  := rfl

/-- Change the answer. -/
@[inline]
def map {β : Type} (f : α → β) (outcome : Outcome σ α) : Outcome σ β :=
  ⟨outcome.state, outcome.rebuilds, outcome.answer.map f⟩

/-- See the state as part of another. -/
@[inline]
def within {τ : Type} (f : σ → τ) (outcome : Outcome σ α) : Outcome τ α :=
  ⟨f outcome.state, outcome.rebuilds, outcome.answer⟩

@[simp]
theorem map_state {β : Type} (f : α → β) (outcome : Outcome σ α) :
  (outcome.map f).state = outcome.state
  := rfl

@[simp]
theorem map_answer {β : Type} (f : α → β) (outcome : Outcome σ α) :
  (outcome.map f).answer = outcome.answer.map f
  := rfl

@[simp]
theorem within_state {τ : Type} (f : σ → τ) (outcome : Outcome σ α) :
  (outcome.within f).state = f outcome.state
  := rfl

@[simp]
theorem within_answer {τ : Type} (f : σ → τ) (outcome : Outcome σ α) :
  (outcome.within f).answer = outcome.answer
  := rfl

/-- Changing the last answer is changing it where it is given. -/
theorem map_andThen {β γ : Type} (f : β → γ) (outcome : Outcome σ α)
    (next : σ → α → Outcome σ β) :
  (outcome.andThen next).map f = outcome.andThen fun state answer => (next state answer).map f
  := by
  obtain ⟨state, rebuilds, _ | answer⟩ := outcome
  · rfl
  · rfl

/-- After an answer the state and the answer are those of what comes next. -/
theorem andThen_of_ok {β : Type} {outcome : Outcome σ α} {answer : α}
    (h : outcome.answer = .ok answer) (next : σ → α → Outcome σ β) :
  outcome.andThen next = ⟨(next outcome.state answer).state,
    outcome.rebuilds ++ (next outcome.state answer).rebuilds,
    (next outcome.state answer).answer⟩
  := by
  obtain ⟨state, rebuilds, _⟩ := outcome
  subst h
  rfl

/-- After a fault nothing comes next. -/
theorem andThen_of_error {β : Type} {outcome : Outcome σ α} {cause : Fault}
    (h : outcome.answer = .error cause) (next : σ → α → Outcome σ β) :
  outcome.andThen next = ⟨outcome.state, outcome.rebuilds, .error cause⟩
  := by
  obtain ⟨state, rebuilds, _⟩ := outcome
  subst h
  rfl

/-- What holds of the first state, and of the second whenever there is one, holds of the
last. -/
theorem andThen_state_of {β : Type} {Inv : σ → Prop} {outcome : Outcome σ α}
    {next : σ → α → Outcome σ β} (h : Inv outcome.state)
    (hnext : ∀ answer, outcome.answer = .ok answer → Inv (next outcome.state answer).state) :
  Inv (outcome.andThen next).state
  := by
  cases hanswer : outcome.answer with
  | error cause =>
      rw [andThen_of_error hanswer]
      apply h
  | ok answer =>
      rw [andThen_of_ok hanswer]
      apply hnext answer hanswer

/-- The whole answers if both parts do. -/
theorem andThen_answer_eq_ok {β : Type} {outcome : Outcome σ α} {next : σ → α → Outcome σ β}
    {answer : β} (h : (outcome.andThen next).answer = .ok answer) :
  ∃ first, outcome.answer = .ok first ∧ (next outcome.state first).answer = .ok answer
    ∧ (outcome.andThen next).state = (next outcome.state first).state
  := by
  cases hfirst : outcome.answer with
  | error cause =>
      rw [andThen_of_error hfirst] at h
      cases h
  | ok first =>
      rw [andThen_of_ok hfirst] at h ⊢
      exact ⟨first, rfl, h, rfl⟩

end Outcome

end OpenAddressing
