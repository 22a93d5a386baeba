import OpenAddressing.Map.Dictionary
import OpenAddressing.Proofs.Keyed

/-!
# Dictionaries up to order

Two dictionaries agree if they hold the same pairs, in whatever order, and no key twice.
Dictionaries that agree answer every call in the same way, and agree again afterwards.
-/

namespace OpenAddressing

namespace Dictionary

variable {K V : Type} [BEq K]

/-- No key has two pairs. -/
def Distinct (dict : Dictionary K V) : Prop :=
  DistinctKeys Prod.fst dict.pairs

/-! ### Distinct keys -/

namespace Distinct

variable {dict : Dictionary K V}

theorem empty :
  (⟨[]⟩ : Dictionary K V).Distinct
  := List.Pairwise.nil

theorem mapValues (h : dict.Distinct) (f : K → V → V) :
  (dict.mapValues f).Distinct
  := DistinctKeys.map (fun _ => rfl) h

theorem update (h : dict.Distinct) (key : K) (f : V → V) :
  (dict.update key f).Distinct
  := by
  apply DistinctKeys.map _ h
  intro pair
  split
  · rfl
  · rfl

theorem insert (h : dict.Distinct) (key : K) (value : V) :
  (dict.insert key value).Distinct
  := by
  rw [Dictionary.insert]
  cases hfound : dict.find? key with
  | some pair => apply h.update
  | none =>
      have habsent := List.find?_eq_none.mp hfound
      apply List.pairwise_append.mpr
      use h, List.pairwise_singleton _ _
      intro pair hpair other hother
      rw [List.mem_singleton.mp hother]
      simpa using habsent pair hpair

theorem erase (h : dict.Distinct) (key : K) :
  (dict.erase key).Distinct
  := List.Pairwise.filter _ h

end Distinct

/-! ### What is found after a change -/

section Find

variable {dict : Dictionary K V} {other : K}

theorem find?_mapValues (dict : Dictionary K V) (f : K → V → V) (other : K) :
  (dict.mapValues f).find? other
    = (dict.find? other).map fun (key, value) => (key, f key value)
  := by
  rw [find?, mapValues, List.find?_map]
  rfl

theorem find?_update (dict : Dictionary K V) (key : K) (f : V → V) (other : K) :
  (dict.update key f).find? other
    = (dict.find? other).map fun pair => if pair.1 == key then (pair.1, f pair.2) else pair
  := by
  rw [find?, update, List.find?_map]
  congr 2
  funext pair
  rw [Function.comp_apply]
  split
  · rfl
  · rfl

/-- What is found has the key. -/
theorem beq_of_find? {pair : K × V} (hfound : dict.find? other = some pair) :
  pair.1 == other
  := by
  rw [find?] at hfound
  apply List.find?_some hfound

variable [EquivBEq K]

/-- Equal keys find the same pair. -/
theorem find?_congr {key : K} (hkey : key == other) :
  dict.find? key = dict.find? other
  := by
  rw [find?, find?]
  congr 1
  funext pair
  rw [BEq.congr_right hkey]

/-- An insertion is found under its own key, where the key that was inserted first is kept, and
changes nothing under the others. -/
theorem find?_insert (dict : Dictionary K V) (key : K) (value : V) (other : K) :
  (dict.insert key value).find? other
    = if key == other then some (((dict.find? other).map Prod.fst).getD key, value)
      else dict.find? other
  := by
  rw [Dictionary.insert]
  cases hfound : dict.find? key with
  | some old =>
      dsimp only
      rw [find?_update]
      split
      next hkey =>
        rw [← find?_congr hkey, hfound, Option.map_some, if_pos (beq_of_find? hfound)]
        rfl
      next hkey =>
        cases hother : dict.find? other with
        | none => rfl
        | some pair =>
            rw [Option.map_some, BEq.congr_left (beq_of_find? hother), BEq.comm, if_neg hkey]
  | none =>
      rw [find?, List.find?_append, List.find?_singleton]
      split
      next hkey =>
        rw [find?_congr hkey] at hfound
        rw [hfound, show dict.pairs.find? _ = none from hfound]
        rfl
      next => apply Option.or_none

/-- A key that is missing stays so when another one is inserted. -/
theorem find?_insert_eq_none {key : K} (hkey : (key == other) = false) (value : V)
    (hnone : dict.find? other = none) :
  (dict.insert key value).find? other = none
  := by
  rw [find?_insert, hkey, hnone]
  rfl

end Find

/-! ### Agreement -/

/-- The dictionaries hold the same pairs, and no key twice. -/
structure Agrees (a b : Dictionary K V) : Prop where
  distinct : a.Distinct
  perm : a.pairs.Perm b.pairs

namespace Agrees

variable {a b : Dictionary K V}

theorem refl (h : a.Distinct) :
  a.Agrees a
  := ⟨h, .refl _⟩

theorem trans {c : Dictionary K V} (h : a.Agrees b) (h' : b.Agrees c) :
  a.Agrees c
  := ⟨h.distinct, h.perm.trans h'.perm⟩

theorem mapValues (h : a.Agrees b) (f : K → V → V) :
  (a.mapValues f).Agrees (b.mapValues f)
  := ⟨h.distinct.mapValues f, h.perm.map _⟩

theorem update (h : a.Agrees b) (key : K) (f : V → V) :
  (a.update key f).Agrees (b.update key f)
  := ⟨h.distinct.update key f, h.perm.map _⟩

theorem erase (h : a.Agrees b) (key : K) :
  (a.erase key).Agrees (b.erase key)
  := ⟨h.distinct.erase key, h.perm.filter _⟩

variable [EquivBEq K]

theorem find?_eq (h : a.Agrees b) (key : K) :
  a.find? key = b.find? key
  := h.distinct.find?_perm h.perm key

theorem insert (h : a.Agrees b) (key : K) (value : V) :
  (a.insert key value).Agrees (b.insert key value)
  := by
  use h.distinct.insert key value
  rw [Dictionary.insert, Dictionary.insert, ← h.find?_eq]
  cases a.find? key with
  | some _ => apply (h.update key _).perm
  | none => apply h.perm.append_right

theorem insertMany (h : a.Agrees b) (pairs : List (K × V)) :
  (pairs.foldl (fun dict pair => dict.insert pair.1 pair.2) a).Agrees
    (pairs.foldl (fun dict pair => dict.insert pair.1 pair.2) b)
  := by
  induction pairs generalizing a b with
  | nil => apply h
  | cons pair pairs ih => apply ih (h.insert pair.1 pair.2)

/-- One call is answered in the same way, and the dictionaries agree again. -/
theorem exec (h : a.Agrees b) (op : Op K V) :
  (a.exec op).1.Agrees (b.exec op).1 ∧ (a.exec op).2 = (b.exec op).2
  := by
  cases op with
  | get key => exact ⟨h, by rw [Dictionary.exec, h.find?_eq]; rfl⟩
  | getPair key => exact ⟨h, by rw [Dictionary.exec, h.find?_eq]; rfl⟩
  | contains key => exact ⟨h, by rw [Dictionary.exec, h.find?_eq]; rfl⟩
  | insert key value =>
      exact ⟨h.insert key value, by rw [Dictionary.exec, h.find?_eq]; rfl⟩
  | insertMany pairs => exact ⟨h.insertMany pairs, rfl⟩
  | modify key f => exact ⟨h.update key f, by rw [Dictionary.exec, h.find?_eq]; rfl⟩
  | mapValues f => exact ⟨h.mapValues f, rfl⟩
  | erase key => exact ⟨h.erase key, by rw [Dictionary.exec, h.find?_eq]; rfl⟩
  | erasePair key => exact ⟨h.erase key, by rw [Dictionary.exec, h.find?_eq]; rfl⟩
  | clear => exact ⟨.refl .empty, rfl⟩

end Agrees

end Dictionary

/-! ### Outcomes measured against a dictionary -/

namespace Outcome

variable {K V σ α : Type} [BEq K]

/-- Unless it is a fault, the outcome answers `reply`, and its state stands for a dictionary
that agrees with `dict`. -/
def Yields (outcome : Outcome σ α) (dictionary : σ → Dictionary K V) (dict : Dictionary K V)
    (reply : α) : Prop :=
  ∀ answer, outcome.answer = .ok answer →
    answer = reply ∧ (dictionary outcome.state).Agrees dict

namespace Yields

variable {dictionary : σ → Dictionary K V} {dict : Dictionary K V} {reply : α}

theorem ok {state : σ} (h : (dictionary state).Agrees dict) :
  (Outcome.ok state reply).Yields dictionary dict reply
  := by
  rintro _ ⟨⟩
  exact ⟨rfl, h⟩

theorem fault (state : σ) (cause : Fault) :
  (Outcome.fault state cause).Yields dictionary dict reply
  := by
  rintro _ ⟨⟩

variable {outcome : Outcome σ α}

theorem trans {dict' : Dictionary K V} (h : outcome.Yields dictionary dict reply)
    (hagrees : dict.Agrees dict') :
  outcome.Yields dictionary dict' reply
  := by
  intro answer hanswer
  obtain ⟨rfl, hstate⟩ := h answer hanswer
  exact ⟨rfl, hstate.trans hagrees⟩

theorem map {β : Type} (h : outcome.Yields dictionary dict reply) (f : α → β) :
  (outcome.map f).Yields dictionary dict (f reply)
  := by
  intro answer hanswer
  rw [map_answer] at hanswer
  cases hfirst : outcome.answer with
  | error cause =>
      rw [hfirst] at hanswer
      cases hanswer
  | ok first =>
      rw [hfirst] at hanswer
      cases hanswer
      obtain ⟨rfl, hstate⟩ := h first hfirst
      exact ⟨rfl, hstate⟩

theorem within {τ : Type} {f : σ → τ} {dictionary' : τ → Dictionary K V}
    (hf : ∀ state, dictionary' (f state) = dictionary state)
    (h : outcome.Yields dictionary dict reply) :
  (outcome.within f).Yields dictionary' dict reply
  := by
  intro answer hanswer
  rw [within_state, hf]
  apply h answer hanswer

/-- What comes next need only be measured after an answer. -/
theorem andThen {β : Type} {next : σ → α → Outcome σ β} {dict' : Dictionary K V} {reply' : β}
    (h : outcome.Yields dictionary dict reply)
    (hnext : (dictionary outcome.state).Agrees dict →
      (next outcome.state reply).Yields dictionary dict' reply') :
  (outcome.andThen next).Yields dictionary dict' reply'
  := by
  intro answer hanswer
  obtain ⟨first, hfirst, hlast, hstate⟩ := andThen_answer_eq_ok hanswer
  obtain ⟨rfl, hagrees⟩ := h first hfirst
  rw [hstate]
  apply hnext hagrees answer hlast

end Yields

end Outcome

end OpenAddressing
