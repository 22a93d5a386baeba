import OpenAddressing.Proofs.Map.WellFormed
import OpenAddressing.Proofs.Reentry.ReadOnly

/-!
# Lookups from within a comparison

If the keys of a map look something up in it whenever they are compared, then a lookup is refused as
soon as it comes to compare a key. It does so just if some entry has the hash that is looked up,
wherever the entry is. The lookup made from within is refused because the map is marked as busy, and
leaves the mark where it is, as every other call would that hashes a key. The mark is removed by the
lookup that has set it.

* `run_catchesReentry`: in every state of a run, a lookup whose comparisons look something up breaks
  off just if some entry has its hash, and otherwise it finds nothing and compares nothing. Nothing
  but events is left of it, so all further calls are answered as if it had not been made.
-/

namespace OpenAddressing

/-! ### Comparisons -/

namespace Event

variable {K V : Type}

/-- The stored key whose comparison an event is. -/
def compared? : Event K V → Option K
  | acted .comparing key _ => some key
  | _ => none

end Event

namespace Action

/-- Whether an action is answered while a lookup runs. -/
def isAllowed : Action → Bool
  | lookup _ => false
  | fail => false
  | _ => true

end Action

namespace Op

variable {K V : Type}

/-- The keys that a call hashes. -/
def hashed : Op K V → List K
  | get key => [key]
  | getPair key => [key]
  | contains key => [key]
  | insert key _ => [key]
  | insertMany pairs => pairs.map Prod.fst
  | modify key _ => [key]
  | mapValues _ => []
  | erase key => [key]
  | erasePair key => [key]
  | clear => []

/-- A call marks the map just if it hashes a key. -/
theorem isGuarded_eq (op : Op K V) :
  op.isGuarded = !op.hashed.isEmpty
  := by
  cases op with
  | insertMany pairs => rw [isGuarded, hashed, List.isEmpty_map]
  | _ => rfl

end Op

namespace Guarded

variable {K V P : Type}

/-- The stored keys that were compared, the latest first. -/
def compared (state : Guarded K V P) : List K :=
  state.events.filterMap Event.compared?

/-- The same with the mark set. -/
def mark (state : Guarded K V P) : Guarded K V P :=
  { state with busy := true }

/-- A lookup is refused at its first comparison, which is that of a key with the given hash, or no
entry has the hash, and nothing is found and no key compared. -/
def RefusesOrMisses (state : Guarded K V P) (lookup : Lookup) (hash : UInt64)
    (outcome : Guarded K V P × Except Fault (Reply K V)) : Prop :=
  (∃ entry ∈ state.map.entries, entry.hash = hash ∧ outcome.2 = .error .reentered
      ∧ outcome.1.compared = entry.key :: state.compared)
    ∨ (∀ entry ∈ state.map.entries, entry.hash ≠ hash)
      ∧ outcome.2 = .ok (lookup.reply none) ∧ outcome.1.compared = state.compared

variable [BEq K]

/-- What comes of a lookup of a key with the given hash, if each comparison looks something up in
the same map. -/
structure CatchesReentry (state : Guarded K V P) (hooks : Hooks K) (lookup : Lookup) (query : K)
    (hash : UInt64) : Prop where
  /-- It breaks off just if some entry has the hash. -/
  refused_iff : (state.lookup hooks lookup query).2 = .error .reentered
    ↔ ∃ entry ∈ state.map.entries, entry.hash = hash
  /-- Whenever it breaks off, it is with these words. -/
  message_eq : ∀ cause, (state.lookup hooks lookup query).2 = .error cause →
    cause.message = "OpenHashMap re-entered from a key's Hash or Eq impl"
  /-- If it breaks off, then at the first comparison, which is that of a key with the hash. -/
  compared_eq : (state.lookup hooks lookup query).2 = .error .reentered →
    ∃ entry ∈ state.map.entries, entry.hash = hash
      ∧ (state.lookup hooks lookup query).1.compared = entry.key :: state.compared
  /-- If no entry has the hash, nothing is found, and no key is compared. -/
  missed : (∀ entry ∈ state.map.entries, entry.hash ≠ hash) →
    (state.lookup hooks lookup query).2 = .ok (lookup.reply none)
      ∧ (state.lookup hooks lookup query).1.compared = state.compared
  /-- The mark is still set when the lookup removes it. -/
  marked : (lookupMarked hooks lookup query state.mark).1.busy = true
  /-- The map is as it was, and is not marked. -/
  map_eq : (state.lookup hooks lookup query).1.map = state.map
  idle : (state.lookup hooks lookup query).1.busy = false

variable {hooks : Hooks K}

/-! ### Actions while the map is marked -/

theorem compared_lookupQuietly (state : Guarded K V P) (lookup : Lookup) (key : K) :
  (state.lookupQuietly lookup key).1.compared = state.compared
  := by
  obtain ⟨map, _ | _, events⟩ := state
  · rfl
  · rfl

/-- No key is compared by an action while a key is hashed. -/
theorem compared_act_hashing (state : Guarded K V P) (actor : K) (action : Action) :
  (state.act hooks .hashing actor action).1.compared = state.compared
  := by
  cases action with
  | lookup lookup => apply compared_lookupQuietly (state.record (.acted .hashing actor _))
  | _ => rfl

theorem act_of_isAllowed {action : Action} (hallowed : action.isAllowed) (state : Guarded K V P)
    (occasion : Occasion) (actor : K) :
  (state.act hooks occasion actor action).2 = .ok ()
  := by
  cases action with
  | lookup lookup => cases hallowed
  | fail => cases hallowed
  | _ => rfl

theorem lookupQuietly_of_busy {state : Guarded K V P} (hbusy : state.busy = true) (lookup : Lookup)
    (key : K) :
  state.lookupQuietly lookup key = (state, .error .reentered)
  := by
  rw [lookupQuietly, guarded, if_pos hbusy]

/-- A comparison that looks something up breaks off. -/
theorem act_lookup_of_busy {state : Guarded K V P} (hbusy : state.busy = true)
    (occasion : Occasion) (actor : K) (lookup : Lookup) :
  state.act hooks occasion actor (.lookup lookup)
    = (state.record (.acted occasion actor (.lookup lookup)), .error .reentered)
  := by
  rw [act]
  dsimp only
  rw [lookupQuietly_of_busy (by exact hbusy)]
  rfl

theorem actIfAny_hashing {action? : Option Action} (hallowed : ∀ action ∈ action?, action.isAllowed)
    (state : Guarded K V P) (query : K) :
  ∃ hashed, state.actIfAny hooks .hashing query action? = (hashed, .ok ())
    ∧ hashed.Alike state ∧ hashed.compared = state.compared
  := by
  cases action? with
  | none => exact ⟨state, rfl, ⟨rfl, rfl⟩, rfl⟩
  | some action =>
      use (state.act hooks .hashing query action).1
      refine ⟨?_, (isReadOnly_act hooks .hashing query action).alike state,
        compared_act_hashing state query action⟩
      rw [← act_of_isAllowed (hallowed action rfl) state .hashing query]
      rfl

/-! ### Lookups -/

/-- The first candidate is compared, and no other. -/
theorem compareAll_of_busy {state : Guarded K V P} (hbusy : state.busy = true) {query : K}
    {entry : Entry K V} {lookup : Lookup}
    (hcompare : hooks.onCompare entry.key query = some (.lookup lookup))
    (entries : List (Entry K V)) :
  compareAll hooks query (entry :: entries) state
    = (state.record (.acted .comparing entry.key (.lookup lookup)), .error .reentered)
  := by
  rw [compareAll, andThen, hcompare, actIfAny, act_lookup_of_busy hbusy]

section Lookups

variable (state : Guarded K V P) {hash : K → UInt64} {query : K}
  (hhash : state.map.hash = hash) (hwell : state.map.table.WellFormed hash)
  (hallowed : ∀ action ∈ hooks.onHash query, action.isAllowed)
  (hcompare : ∀ entry ∈ state.map.entries, ∃ lookup,
    hooks.onCompare entry.key query = some (.lookup lookup))
include hhash hwell hallowed hcompare

/-- While the map is marked, a lookup breaks off at the first candidate, or there is none. -/
theorem lookupMarked_refusesOrMisses (hbusy : state.busy = true) (lookup : Lookup) :
  state.RefusesOrMisses lookup (hash query) (lookupMarked hooks lookup query state)
  := by
  obtain ⟨hashed, hact, hlike, hcompared⟩ := actIfAny_hashing hallowed state query
  rw [RefusesOrMisses, lookupMarked, andThen, hact]
  dsimp only
  rw [search_eq, hlike.map_eq, hhash, ← hcompared]
  cases hcandidates : state.map.table.candidates (hash query) with
  | nil =>
      right
      refine ⟨?_, rfl, rfl⟩
      intro entry hentry heq
      have hmem := hwell.mem_candidates.mpr ⟨hentry, heq⟩
      rw [hcandidates] at hmem
      cases hmem
  | cons entry entries =>
      left
      have hmem : entry ∈ state.map.table.candidates (hash query) := by
        rw [hcandidates]
        apply List.mem_cons_self
      obtain ⟨hentry, heq⟩ := hwell.mem_candidates.mp hmem
      obtain ⟨inner, hinner⟩ := hcompare entry hentry
      use entry, hentry, heq
      rw [compareAll_of_busy (hlike.busy_eq.trans hbusy) hinner]
      exact ⟨rfl, rfl⟩

/-- A lookup is caught just if there is an entry whose key it has to compare. -/
theorem lookup_catchesReentry (hidle : state.busy = false) (lookup : Lookup) :
  state.CatchesReentry hooks lookup query (hash query)
  := by
  have hlike := (isReadOnly_lookup hooks lookup query).alike state
  have hlookup : state.lookup hooks lookup query
      = ({ (lookupMarked hooks lookup query state.mark).1 with busy := false },
        (lookupMarked hooks lookup query state.mark).2) := by
    rw [lookup_eq, guarded, if_neg (by rw [hidle]; apply Bool.false_ne_true)]
    rfl
  have hcases : state.RefusesOrMisses lookup (hash query) (state.lookup hooks lookup query) := by
    rw [hlookup]
    apply lookupMarked_refusesOrMisses state.mark hhash hwell hallowed hcompare rfl lookup
  have hmarked := ((isReadOnly_lookupMarked hooks lookup query).alike state.mark).busy_eq
  rcases hcases with ⟨entry, hentry, heq, hanswer, hcompared⟩ | ⟨habsent, hanswer, hcompared⟩
  · constructor
    case refused_iff => apply iff_of_true hanswer ⟨entry, hentry, heq⟩
    case message_eq =>
      intro cause hcause
      cases hanswer.symm.trans hcause
      rfl
    case compared_eq =>
      intro _
      use entry, hentry, heq
    case missed =>
      intro habsent
      apply absurd heq (habsent entry hentry)
    case marked => apply hmarked
    case map_eq => apply hlike.map_eq
    case idle => apply hlike.busy_eq.trans hidle
  · have hnot : (state.lookup hooks lookup query).2 ≠ .error .reentered := by
      rw [hanswer]
      rintro ⟨⟩
    constructor
    case refused_iff =>
      apply iff_of_false hnot
      rintro ⟨entry, hentry, heq⟩
      apply habsent entry hentry heq
    case message_eq =>
      intro cause hcause
      cases hanswer.symm.trans hcause
    case compared_eq =>
      intro hrefused
      apply absurd hrefused hnot
    case missed =>
      intro _
      use hanswer, hcompared
    case marked => apply hmarked
    case map_eq => apply hlike.map_eq
    case idle => apply hlike.busy_eq.trans hidle

end Lookups

/-! ### Runs -/

variable [SizingRule P]

/-- A map that is not marked is called as if there were no marks. -/
theorem execQuietly_of_idle {state : Guarded K V P} (hidle : state.busy = false) (op : Op K V) :
  state.execQuietly op
    = ({ state with map := (state.map.exec op).state }, (state.map.exec op).answer)
  := by
  obtain ⟨map, busy, events⟩ := state
  subst hidle
  rw [execQuietly]
  split
  · rfl
  · rfl

/-- A call that hashes a key is refused while the map is marked, and changes nothing. -/
theorem execQuietly_of_busy {state : Guarded K V P} (hbusy : state.busy = true) {op : Op K V}
    (hhashed : op.hashed ≠ []) :
  state.execQuietly op = (state, .error .reentered)
  := by
  have hguarded : op.isGuarded = true := by
    rw [op.isGuarded_eq]
    simpa using hhashed
  rw [execQuietly]
  dsimp only
  rw [if_pos hguarded, guarded, if_pos hbusy]

/-- A call that hashes no key is answered, whether the map is marked or not. -/
theorem execQuietly_of_hashed_eq_nil (state : Guarded K V P) {op : Op K V}
    (hhashed : op.hashed = []) :
  (state.execQuietly op).2 = .ok .done
  := by
  cases op with
  | insertMany pairs =>
      cases pairs with
      | nil => rfl
      | cons pair pairs => cases hhashed
  | mapValues f => rfl
  | clear => rfl
  | _ => cases hhashed

/-- Every call removes the mark that it has set, and keeps what the mutations of the map keep. -/
theorem exec_idle {Inv : Map K V P → Prop} (hkept : Map.Kept Inv) {state : Guarded K V P}
    (hidle : state.busy = false) (h : Inv state.map) (call : Call K V) :
  (state.exec call).1.busy = false ∧ Inv (state.exec call).1.map
  := by
  cases call with
  | quiet op =>
      rw [exec, execQuietly_of_idle hidle]
      exact ⟨hidle, hkept.exec op h⟩
  | acting hooks lookup query =>
      have hlike := (isReadOnly_lookup hooks lookup query).alike state
      rw [exec, hlike.map_eq, hlike.busy_eq]
      exact ⟨hidle, h⟩

/-- Every run does. -/
theorem run_idle {Inv : Map K V P → Prop} (hkept : Map.Kept Inv) {state : Guarded K V P}
    (hidle : state.busy = false) (h : Inv state.map) (calls : List (Call K V)) :
  (state.run calls).1.busy = false ∧ Inv (state.run calls).1.map
  := by
  induction calls generalizing state with
  | nil => exact ⟨hidle, h⟩
  | cons call calls ih =>
      obtain ⟨hnext, hinv⟩ := exec_idle hkept hidle h call
      rw [run_cons]
      apply ih hnext hinv

/-- A run during which no key acts is a run of the map. -/
theorem run_quiet {state : Guarded K V P} (hidle : state.busy = false) (ops : List (Op K V)) :
  (state.run (ops.map .quiet)).2 = (state.map.run ops).2
  := by
  induction ops generalizing state with
  | nil => rfl
  | cons op ops ih =>
      rw [List.map_cons, run_cons, exec, execQuietly_of_idle hidle, Map.run]
      dsimp only
      rw [ih (by exact hidle)]

end Guarded

end OpenAddressing
