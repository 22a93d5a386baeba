import OpenAddressing.Hashing
import OpenAddressing.Proofs.Table.WellFormed

/-!
# Equality of values

Two values are the same key if they are equal once decimals are in canonical form, so being the
same key is an equivalence. The bytes of a value depend on its canonical form alone: whatever
hash function is used on the bytes, equal values have equal hashes.
-/

namespace OpenAddressing

namespace Value

/-- The value with its decimal in canonical form. -/
def canonical : Value → Value
  | decimal d => decimal ⟨d.canonical⟩
  | value => value

/-- Values are the same key if their canonical forms are equal. -/
theorem beq_iff_canonical_eq {a b : Value} :
  a == b ↔ a.canonical = b.canonical
  := by
  change a.isSame b ↔ a.canonical = b.canonical
  cases a <;> cases b <;> simp [isSame, canonical]
  case binary a b =>
    cases a
    cases b
    simp

instance : EquivBEq Value where
  rfl := beq_iff_canonical_eq.mpr rfl
  symm h := beq_iff_canonical_eq.mpr (beq_iff_canonical_eq.mp h).symm
  trans h h' := beq_iff_canonical_eq.mpr
    ((beq_iff_canonical_eq.mp h).trans (beq_iff_canonical_eq.mp h'))

/-- Equal values have the same bytes. -/
theorem encoding_eq_of_beq {a b : Value} (h : a == b) :
  a.encoding = b.encoding
  := by
  rw [beq_iff_canonical_eq] at h
  cases a <;> cases b <;> simp_all [canonical, encoding, kind, content]

/-- Every hash of the bytes agrees on equal values. -/
theorem hashCompatible (hash : List UInt8 → UInt64) :
  HashCompatible fun value : Value => hash value.encoding
  := by
  intro a b h
  apply congrArg hash (encoding_eq_of_beq h)

end Value

/-- The hash functions that a program can choose from agree on equal values. -/
theorem Hashing.hashCompatible (hashing : Hashing) :
  HashCompatible hashing.hashValue
  := Value.hashCompatible hashing.hash

end OpenAddressing
