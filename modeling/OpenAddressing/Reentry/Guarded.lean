import OpenAddressing.Reentry.Action

/-!
# Guarded lookups

A `Guarded` map is marked as busy while a call runs that hashes a key, and such a call on a busy map
is refused. The mark is set and removed by the same call, however that call ends: `guarded` removes
it if the call it runs breaks off, and a refused call has not set it. The lookups are here, since
keys may act during a lookup; the other guarded calls are insertions, removals and changes of the
value of a key. The size, the keys and the values may be asked for at any time, and a copy of the
map is not busy.
-/

namespace OpenAddressing

/-- A map with its busy mark, and the events since it was last asked for them, the latest
first. -/
structure Guarded (K V P : Type) where
  map : Map K V P
  busy : Bool := false
  events : List (Event K V) := []

namespace Guarded

variable {K V P α : Type}

/-- Remember an event. -/
def record (state : Guarded K V P) (event : Event K V) : Guarded K V P :=
  { state with events := event :: state.events }

/-- A copy of the map, on which no call runs. -/
def copy (state : Guarded K V P) : Guarded K V P where
  map := state.map

/-- Run a call with the map marked as busy. If it is marked already, the call is refused and the
mark is left to the call that has set it. -/
def guarded (state : Guarded K V P)
    (call : Guarded K V P → Guarded K V P × Except Fault α) : Guarded K V P × Except Fault α :=
  if state.busy then
    (state, .error .reentered)
  else
    let (state, answer) := call { state with busy := true }
    ({ state with busy := false }, answer)

/-- Look a key up while no key acts. -/
def lookupQuietly [BEq K] (state : Guarded K V P) (lookup : Lookup) (key : K) :
    Guarded K V P × Except Fault (Reply K V) :=
  state.guarded fun state =>
    (state, .ok (lookup.reply (state.map.table.lookup? (state.map.hash key) key)))

/-- Remember what an action has made known. -/
def observe (state : Guarded K V P) (observation : Observation K V) :
    Guarded K V P × Except Fault Unit :=
  (state.record (.saw observation), .ok ())

/-- Let a key act. No other key acts meanwhile. -/
def act [BEq K] (hooks : Hooks K) (state : Guarded K V P) (occasion : Occasion) (actor : K)
    (action : Action) : Guarded K V P × Except Fault Unit :=
  let state := state.record (.acted occasion actor action)
  match action with
  | .note => (state, .ok ())
  | .lookup lookup =>
    let (state, answer) := state.lookupQuietly lookup actor
    (state, answer.map fun _ => ())
  | .size => state.observe (.number state.map.size)
  | .isEmpty => state.observe (.flag state.map.isEmpty)
  | .capacity => state.observe (.number state.map.capacity)
  | .keys => state.observe (.keys (state.map.entries.map Entry.key))
  | .values => state.observe (.values (state.map.entries.map Entry.value))
  | .containsInCopy =>
    let copy := state.copy
    let key := hooks.inCopy actor (copy.map.entries.map Entry.key)
    match copy.lookupQuietly .contains key with
    | (_, .ok (.flag yes)) => state.observe (.flag yes)
    | (_, .ok _) => (state, .ok ())
    | (_, .error cause) => (state, .error cause)
  | .fail => (state, .error .callbackFailed)

/-- Let a key act, if it does on this occasion. -/
def actIfAny [BEq K] (hooks : Hooks K) (state : Guarded K V P) (occasion : Occasion) (actor : K) :
    Option Action → Guarded K V P × Except Fault Unit
  | none => (state, .ok ())
  | some action => state.act hooks occasion actor action

/-- The entry of a key, with the stored keys acting as they are compared. A stored key is compared
only if its hash is that of the key looked up. -/
def search [BEq K] (hooks : Hooks K) (state : Guarded K V P) (hash : UInt64) (query : K) :
    Guarded K V P × Except Fault (Option (Entry K V)) :=
  let table := state.map.table
  let found := (table.probe hash).walk state fun state i =>
    match table.slotAt i with
    | .empty => .error (state, .ok none)
    | .tombstone => .ok state
    | .occupied entry =>
      if entry.hash == hash then
        match state.actIfAny hooks .comparing entry.key (hooks.onCompare entry.key query) with
        | (state, .error cause) => .error (state, .error cause)
        | (state, .ok _) =>
          if entry.key == query then .error (state, .ok (some entry)) else .ok state
      else
        .ok state
  match found with
  | .error answer => answer
  | .ok state => (state, .ok none)

/-- Look a key up while keys act. -/
def lookup [BEq K] (hooks : Hooks K) (state : Guarded K V P) (lookup : Lookup) (query : K) :
    Guarded K V P × Except Fault (Reply K V) :=
  state.guarded fun state =>
    match state.actIfAny hooks .hashing query (hooks.onHash query) with
    | (state, .error cause) => (state, .error cause)
    | (state, .ok _) =>
      let (state, found) := state.search hooks (state.map.hash query) query
      (state, found.map lookup.reply)

/-- The events so far in the order in which they happened, and the state without them. -/
def takeEvents (state : Guarded K V P) : List (Event K V) × Guarded K V P :=
  (state.events.reverse, { state with events := [] })

end Guarded

end OpenAddressing
