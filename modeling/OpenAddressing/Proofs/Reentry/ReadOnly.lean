import OpenAddressing.Proofs.Reentry.Search
import OpenAddressing.Reentry.Run

/-!
# Lookups leave nothing but events

Whatever keys do during a lookup, the map and its mark are afterwards what they were before, and so
the lookup adds to the events and changes nothing else. Nothing that a guarded map answers depends
on the events so far. So two guarded maps that differ in their events only, which we call alike,
stay so with every call, and answer it in the same way.

* `isReadOnly_lookup`: a lookup adds events, and neither changes the map or its mark nor depends on
  the events there are.
* `run_alike`: guarded maps that are alike answer all calls in the same way.
-/

namespace OpenAddressing

namespace Guarded

variable {K V P α β : Type}

/-- Two guarded maps differ in their events only. -/
structure Alike (a b : Guarded K V P) : Prop where
  map_eq : a.map = b.map
  busy_eq : a.busy = b.busy

/-- A call adds events. It neither changes the map or its mark nor depends on the events there
are. -/
def IsReadOnly (call : Guarded K V P → Guarded K V P × Except Fault α) : Prop :=
  ∀ map busy, ∃ said answer, ∀ events,
    call ⟨map, busy, events⟩ = (⟨map, busy, said ++ events⟩, answer)

namespace IsReadOnly

variable {call : Guarded K V P → Guarded K V P × Except Fault α}

theorem alike (h : IsReadOnly call) (state : Guarded K V P) :
  (call state).1.Alike state
  := by
  obtain ⟨map, busy, events⟩ := state
  obtain ⟨said, answer, hcall⟩ := h map busy
  rw [hcall]
  exact ⟨rfl, rfl⟩

theorem answer_eq (h : IsReadOnly call) {a b : Guarded K V P} (hab : a.Alike b) :
  (call a).2 = (call b).2
  := by
  obtain ⟨map, busy, events⟩ := a
  obtain ⟨_, _, others⟩ := b
  obtain ⟨rfl, rfl⟩ := hab
  obtain ⟨said, answer, hcall⟩ := h map busy
  rw [hcall, hcall]

/-- An answer that is read off the map. -/
theorem pure (answer : Map K V P → Except Fault α) :
  IsReadOnly fun state : Guarded K V P => (state, answer state.map)
  := by
  intro map busy
  use [], answer map
  intro events
  rfl

theorem andThen {next : α → Guarded K V P → Guarded K V P × Except Fault β} (h : IsReadOnly call)
    (hnext : ∀ answer, IsReadOnly (next answer)) :
  IsReadOnly (andThen call next)
  := by
  intro map busy
  obtain ⟨said, _ | answer, hcall⟩ := h map busy
  · use said, .error ‹_›
    intro events
    rw [Guarded.andThen, hcall]
  · obtain ⟨more, last, hlast⟩ := hnext answer map busy
    use more ++ said, last
    intro events
    rw [Guarded.andThen, hcall, List.append_assoc]
    apply hlast

/-- An answer may be changed. -/
theorem map (f : Except Fault α → Except Fault β) (h : IsReadOnly call) :
  IsReadOnly fun state => ((call state).1, f (call state).2)
  := by
  intro map busy
  obtain ⟨said, answer, hcall⟩ := h map busy
  use said, f answer
  intro events
  dsimp only
  rw [hcall]

/-- An event may be recorded before. -/
theorem record (event : Event K V) (h : IsReadOnly call) :
  IsReadOnly fun state => call (state.record event)
  := by
  intro map busy
  obtain ⟨said, answer, hcall⟩ := h map busy
  use said ++ [event], answer
  intro events
  rw [List.append_assoc]
  apply hcall

/-- What is seen of the map may be recorded. -/
theorem observe (see : Map K V P → Observation K V) :
  IsReadOnly fun state : Guarded K V P => state.observe (see state.map)
  := by
  intro map busy
  use [.saw (see map)], .ok ()
  intro events
  rfl

/-- The mark of a call is gone after it. -/
theorem guarded (h : IsReadOnly call) :
  IsReadOnly fun state => state.guarded call
  := by
  intro map busy
  cases busy with
  | true =>
      use [], .error .reentered
      intro events
      rfl
  | false =>
      obtain ⟨said, answer, hcall⟩ := h map true
      use said, answer
      intro events
      dsimp only
      rw [Guarded.guarded, if_neg Bool.false_ne_true, hcall]

end IsReadOnly

/-! ### Actions -/

variable [BEq K] (hooks : Hooks K)

omit hooks in
theorem isReadOnly_lookupQuietly (lookup : Lookup) (key : K) :
  IsReadOnly fun state : Guarded K V P => state.lookupQuietly lookup key
  := by
  apply IsReadOnly.guarded
  apply IsReadOnly.pure fun map => .ok (lookup.reply (map.table.lookup? (map.hash key) key))

theorem isReadOnly_act (occasion : Occasion) (actor : K) (action : Action) :
  IsReadOnly fun state : Guarded K V P => state.act hooks occasion actor action
  := by
  cases action with
  | note => apply (IsReadOnly.pure fun _ => .ok ()).record
  | lookup lookup => apply ((isReadOnly_lookupQuietly lookup actor).map _).record
  | size => apply (IsReadOnly.observe fun map => .number map.size).record
  | isEmpty => apply (IsReadOnly.observe fun map => .flag map.isEmpty).record
  | capacity => apply (IsReadOnly.observe fun map => .number map.capacity).record
  | keys => apply (IsReadOnly.observe fun map => .keys (map.entries.map Entry.key)).record
  | values => apply (IsReadOnly.observe fun map => .values (map.entries.map Entry.value)).record
  | containsInCopy =>
      apply (IsReadOnly.observe fun map =>
        let key := hooks.inCopy actor (map.entries.map Entry.key)
        .flag (map.table.lookup? (map.hash key) key).isSome).record
  | fail => apply (IsReadOnly.pure fun _ => .error .callbackFailed).record

theorem isReadOnly_actIfAny (occasion : Occasion) (actor : K) (action? : Option Action) :
  IsReadOnly fun state : Guarded K V P => state.actIfAny hooks occasion actor action?
  := by
  cases action? with
  | none => apply IsReadOnly.pure fun _ => .ok ()
  | some action => apply isReadOnly_act

/-! ### Lookups -/

theorem isReadOnly_compareAll (query : K) (entries : List (Entry K V)) :
  IsReadOnly (P := P) (compareAll hooks query entries)
  := by
  induction entries with
  | nil => apply IsReadOnly.pure fun _ => .ok none
  | cons entry entries ih =>
      rw [compareAll]
      apply (isReadOnly_actIfAny hooks .comparing entry.key _).andThen
      intro _
      split
      · apply IsReadOnly.pure fun _ => .ok (some entry)
      · apply ih

theorem isReadOnly_search (hash : Map K V P → UInt64) (query : K) :
  IsReadOnly fun state : Guarded K V P => state.search hooks (hash state.map) query
  := by
  intro map busy
  obtain ⟨said, answer, hcompare⟩ :=
    isReadOnly_compareAll (P := P) hooks query (map.table.candidates (hash map)) map busy
  use said, answer
  intro events
  dsimp only
  rw [search_eq]
  apply hcompare

/-- What a lookup does while the map is marked as busy. -/
def lookupMarked (lookup : Lookup) (query : K) :
    Guarded K V P → Guarded K V P × Except Fault (Reply K V) :=
  andThen (fun state => state.actIfAny hooks .hashing query (hooks.onHash query)) fun _ state =>
    let found := state.search hooks (state.map.hash query) query
    (found.1, found.2.map lookup.reply)

theorem lookup_eq (state : Guarded K V P) (lookup : Lookup) (query : K) :
  state.lookup hooks lookup query = state.guarded (lookupMarked hooks lookup query)
  := by
  rw [Guarded.lookup]
  congr
  funext marked
  rw [lookupMarked, andThen]
  obtain ⟨next, _ | _⟩ := marked.actIfAny hooks .hashing query (hooks.onHash query)
  · rfl
  · rfl

theorem isReadOnly_lookupMarked (lookup : Lookup) (query : K) :
  IsReadOnly (V := V) (P := P) (lookupMarked hooks lookup query)
  := by
  apply (isReadOnly_actIfAny hooks .hashing query _).andThen
  intro _
  apply (isReadOnly_search hooks (fun map => map.hash query) query).map

theorem isReadOnly_lookup (lookup : Lookup) (query : K) :
  IsReadOnly fun state : Guarded K V P => state.lookup hooks lookup query
  := by
  simp only [lookup_eq]
  apply (isReadOnly_lookupMarked hooks lookup query).guarded

/-! ### Runs -/

omit hooks
variable [SizingRule P] {a b : Guarded K V P}

theorem execQuietly_alike (h : a.Alike b) (op : Op K V) :
  (a.execQuietly op).1.Alike (b.execQuietly op).1 ∧ (a.execQuietly op).2 = (b.execQuietly op).2
  := by
  obtain ⟨map, busy, events⟩ := a
  obtain ⟨_, _, others⟩ := b
  obtain ⟨rfl, rfl⟩ := h
  rw [execQuietly, execQuietly]
  dsimp only
  split
  · cases busy with
    | true => exact ⟨⟨rfl, rfl⟩, rfl⟩
    | false => exact ⟨⟨rfl, rfl⟩, rfl⟩
  · exact ⟨⟨rfl, rfl⟩, rfl⟩

/-- Guarded maps that are alike answer a call in the same way, and are alike after it. -/
theorem exec_alike (h : a.Alike b) (call : Call K V) :
  (a.exec call).1.Alike (b.exec call).1 ∧ (a.exec call).2 = (b.exec call).2
  := by
  cases call with
  | quiet op => apply execQuietly_alike h
  | acting hooks lookup query =>
      have hread := isReadOnly_lookup (V := V) (P := P) hooks lookup query
      obtain ⟨hamap, habusy⟩ := hread.alike a
      obtain ⟨hbmap, hbbusy⟩ := hread.alike b
      constructor
      · exact ⟨hamap.trans (h.map_eq.trans hbmap.symm), habusy.trans (h.busy_eq.trans hbbusy.symm)⟩
      · apply hread.answer_eq h

theorem run_cons (state : Guarded K V P) (call : Call K V) (calls : List (Call K V)) :
  state.run (call :: calls)
    = (((state.exec call).1.run calls).1, (state.exec call).2 :: ((state.exec call).1.run calls).2)
  := rfl

/-- Guarded maps that are alike answer any calls in the same way, and are alike after them. -/
theorem run_alike (h : a.Alike b) (calls : List (Call K V)) :
  (a.run calls).1.Alike (b.run calls).1 ∧ (a.run calls).2 = (b.run calls).2
  := by
  induction calls generalizing a b with
  | nil => exact ⟨h, rfl⟩
  | cons call calls ih =>
      obtain ⟨hnext, hanswer⟩ := exec_alike h call
      obtain ⟨hlast, hanswers⟩ := ih hnext
      rw [run_cons, run_cons, hanswer, hanswers]
      exact ⟨hlast, rfl⟩

end Guarded

end OpenAddressing
