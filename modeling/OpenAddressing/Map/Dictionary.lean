import OpenAddressing.Map.Run

/-!
# Dictionaries

A `Dictionary` is a finite map as it is meant, without slots and hashes: a list with one pair
for each key present. An update keeps the key that was inserted first. `Dictionary.exec` makes
the calls a hash map answers, and is what its answers are measured against.
-/

namespace OpenAddressing

/-- A finite map as a list of pairs. -/
structure Dictionary (K V : Type) where
  pairs : List (K × V) := []
  deriving Repr

namespace Dictionary

variable {K V : Type}

/-- Change every value. -/
def mapValues (f : K → V → V) (dict : Dictionary K V) : Dictionary K V :=
  ⟨dict.pairs.map fun (key, value) => (key, f key value)⟩

section Keyed

variable [BEq K]

/-- The pair of a key. -/
def find? (dict : Dictionary K V) (key : K) : Option (K × V) :=
  dict.pairs.find? fun pair => pair.1 == key

/-- Change the value of a key. -/
def update (dict : Dictionary K V) (key : K) (f : V → V) : Dictionary K V :=
  ⟨dict.pairs.map fun pair => if pair.1 == key then (pair.1, f pair.2) else pair⟩

/-- Set the value of a key, which is added if it is not there. -/
def insert (dict : Dictionary K V) (key : K) (value : V) : Dictionary K V :=
  match dict.find? key with
  | some _ => dict.update key fun _ => value
  | none => ⟨dict.pairs ++ [(key, value)]⟩

/-- Remove the pair of a key. -/
def erase (dict : Dictionary K V) (key : K) : Dictionary K V :=
  ⟨dict.pairs.filter fun pair => !(pair.1 == key)⟩

/-- Make a call. -/
def exec (dict : Dictionary K V) : Op K V → Dictionary K V × Reply K V
  | .get key => (dict, .value? ((dict.find? key).map Prod.snd))
  | .getPair key => (dict, .pair? (dict.find? key))
  | .contains key => (dict, .flag (dict.find? key).isSome)
  | .insert key value => (dict.insert key value, .value? ((dict.find? key).map Prod.snd))
  | .insertMany pairs =>
    (pairs.foldl (fun dict pair => dict.insert pair.1 pair.2) dict, .done)
  | .modify key f =>
    (dict.update key f, .value? ((dict.find? key).map fun pair => f pair.2))
  | .mapValues f => (dict.mapValues f, .done)
  | .erase key => (dict.erase key, .value? ((dict.find? key).map Prod.snd))
  | .erasePair key => (dict.erase key, .pair? (dict.find? key))
  | .clear => (⟨[]⟩, .done)

/-- Make one call after the other. -/
def run : List (Op K V) → Dictionary K V → Dictionary K V × List (Reply K V)
  | [], dict => (dict, [])
  | op :: ops, dict =>
    let (next, reply) := dict.exec op
    let (last, replies) := run ops next
    (last, reply :: replies)

end Keyed

end Dictionary

end OpenAddressing
