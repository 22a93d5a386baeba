import OpenAddressing.Value.Encoding

/-!
# Hash functions

Functions from a string of bytes to 64 bits. A map over values may use any of them on the
encoding of its keys; some spread keys well, others make them collide.
-/

namespace OpenAddressing

/-- The hash functions a program can choose from. -/
inductive Hashing where
  /-- The 64-bit Fowler-Noll-Vo function that multiplies last. -/
  | fnv1a
  /-- The same hash for all. -/
  | constant (hash : UInt64)
  /-- The bytes as the digits of a number in base thirty-one, and the rest it leaves when divided
  by the modulus. -/
  | polynomial (modulus : UInt64)
  /-- The last eight bytes as a number, the lowest byte first. -/
  | lastWord

namespace Hashing

/-- The 64-bit Fowler-Noll-Vo function that multiplies last. -/
def fnv1aOf (bytes : List UInt8) : UInt64 :=
  bytes.foldl (fun h b => (h ^^^ b.toUInt64) * 0x100000001b3) 0xcbf29ce484222325

/-- The number with the given bytes, the lowest byte first, modulo `2 ^ 64`. -/
def wordOf (bytes : List UInt8) : UInt64 :=
  bytes.foldr (fun b h => h * 256 + b.toUInt64) 0

/-- The hash of a string of bytes. -/
def hash : Hashing → List UInt8 → UInt64
  | fnv1a, bytes => fnv1aOf bytes
  | constant hash, _ => hash
  | polynomial modulus, bytes => bytes.foldl (fun h b => h * 31 + b.toUInt64) 0 % modulus
  | lastWord, bytes => wordOf (bytes.drop (bytes.length - 8))

/-- The hash of a value. -/
def hashValue (hashing : Hashing) (value : Value) : UInt64 :=
  hashing.hash value.encoding

end Hashing

end OpenAddressing
