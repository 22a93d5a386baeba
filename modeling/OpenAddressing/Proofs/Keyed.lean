import Mathlib.Tactic.Use

/-!
# Lists with distinct keys

A list whose elements have pairwise different keys holds at most one element for each key. What
is found, changed or removed by a key is then the same for every order of the list.
-/

namespace OpenAddressing

variable {α K : Type} [BEq K]

/-- No two elements of the list have equal keys. -/
def DistinctKeys (key : α → K) (list : List α) : Prop :=
  list.Pairwise fun a b => (key a == key b) = false

namespace DistinctKeys

variable {key : α → K} {list : List α}

theorem map {β : Type} {key' : β → K} {f : α → β} (hf : ∀ a, key' (f a) = key a)
    (h : DistinctKeys key list) :
  DistinctKeys key' (list.map f)
  := by
  rw [DistinctKeys, List.pairwise_map]
  simp only [hf]
  apply h

variable [EquivBEq K]

theorem nodup (h : DistinctKeys key list) :
  list.Nodup
  := by
  apply List.Pairwise.imp _ h
  rintro a _ hab rfl
  rw [BEq.rfl] at hab
  cases hab

theorem perm {other : List α} (h : DistinctKeys key list) (hperm : list.Perm other) :
  DistinctKeys key other
  := by
  apply List.Perm.pairwise hperm h
  intro a b hab
  rw [BEq.comm]
  apply hab

/-- Elements with equal keys are the same element. -/
theorem eq_of_beq (h : DistinctKeys key list) {a b : α} (ha : a ∈ list) (hb : b ∈ list)
    (hab : key a == key b) :
  a = b
  := by
  induction list with
  | nil => cases ha
  | cons c list ih =>
      obtain ⟨hc, hlist⟩ := List.pairwise_cons.mp h
      rcases List.mem_cons.mp ha with rfl | ha'
      · rcases List.mem_cons.mp hb with rfl | hb'
        · rfl
        · rw [hc b hb'] at hab
          cases hab
      · rcases List.mem_cons.mp hb with rfl | hb'
        · rw [BEq.comm, hc a ha'] at hab
          cases hab
        · apply ih hlist ha' hb'

/-- A key finds the element that has it. -/
theorem find?_eq_some_iff (h : DistinctKeys key list) {k : K} {a : α} :
  list.find? (fun b => key b == k) = some a ↔ a ∈ list ∧ (key a == k)
  := by
  constructor
  · intro hfound
    exact ⟨List.mem_of_find?_eq_some hfound,
      List.find?_some (p := fun b => key b == k) hfound⟩
  · rintro ⟨ha, hak⟩
    cases hfound : list.find? fun b => key b == k with
    | none =>
        apply absurd hak
        apply List.find?_eq_none.mp hfound a ha
    | some b =>
        have hbk : key b == k := List.find?_some (p := fun b => key b == k) hfound
        have hba := BEq.trans hbk (BEq.symm hak)
        rw [h.eq_of_beq (List.mem_of_find?_eq_some hfound) ha hba]

/-- What a key finds does not depend on the order. -/
theorem find?_perm {other : List α} (h : DistinctKeys key list) (hperm : list.Perm other)
    (k : K) :
  list.find? (fun a => key a == k) = other.find? (fun a => key a == k)
  := by
  apply Option.ext
  intro a
  rw [h.find?_eq_some_iff, (h.perm hperm).find?_eq_some_iff, hperm.mem_iff]

section Middle

variable {before after : List α} {a : α} {k : K}

/-- The elements around the one for a key are not for it. -/
theorem beq_eq_false_of_middle (h : DistinctKeys key (before ++ a :: after)) (hak : key a == k) :
  (∀ b ∈ before, (key b == k) = false) ∧ ∀ b ∈ after, (key b == k) = false
  := by
  obtain ⟨-, hafter, hbefore⟩ := List.pairwise_append.mp h
  constructor
  · intro b hb
    rw [← BEq.congr_right hak]
    apply hbefore b hb a List.mem_cons_self
  · intro b hb
    rw [← BEq.congr_right hak, BEq.comm]
    apply (List.pairwise_cons.mp hafter).1 b hb

/-- Changing what is for a key changes one element. -/
theorem map_if_middle (h : DistinctKeys key (before ++ a :: after)) (hak : key a == k)
    (f : α → α) :
  (before ++ a :: after).map (fun b => if key b == k then f b else b)
    = before ++ f a :: after
  := by
  obtain ⟨hbefore, hafter⟩ := h.beq_eq_false_of_middle hak
  have hid : ∀ part : List α, (∀ b ∈ part, (key b == k) = false) →
      part.map (fun b => if key b == k then f b else b) = part := by
    intro part hpart
    rw [List.map_congr_left (g := id), List.map_id]
    intro b hb
    simp [hpart b hb]
  rw [List.map_append, List.map_cons, hid before hbefore, hid after hafter, if_pos hak]

/-- Removing what is for a key removes one element. -/
theorem filter_middle (h : DistinctKeys key (before ++ a :: after)) (hak : key a == k) :
  (before ++ a :: after).filter (fun b => !(key b == k)) = before ++ after
  := by
  obtain ⟨hbefore, hafter⟩ := h.beq_eq_false_of_middle hak
  have hid : ∀ part : List α, (∀ b ∈ part, (key b == k) = false) →
      part.filter (fun b => !(key b == k)) = part := by
    intro part hpart
    apply List.filter_eq_self.mpr
    intro b hb
    simp [hpart b hb]
  rw [List.filter_append, List.filter_cons, hid before hbefore, hid after hafter, hak]
  rfl

end Middle

end DistinctKeys

end OpenAddressing
