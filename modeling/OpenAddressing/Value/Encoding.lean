import OpenAddressing.Value.Basic

/-!
# The bytes of a value

Values are hashed by the bytes of their `encoding`: eight bytes that tell the kind of value, and
then the content in a form that shows where it ends. Equal values have the same bytes, and the
bytes of different values differ before either ends.
-/

namespace OpenAddressing

/-- The lowest `count` bytes of a number, the lowest one first. -/
def littleEndian : (count : Nat) → Nat → List UInt8
  | 0, _ => []
  | count + 1, n => UInt8.ofNat n :: littleEndian count (n / 256)

theorem length_littleEndian (count n : Nat) :
  (littleEndian count n).length = count
  := by
  induction count generalizing n with
  | zero => rfl
  | succ count ih => simp [littleEndian, ih]

namespace Value

/-- The number of a value's kind. -/
def kind : Value → Nat
  | null => 0
  | boolean _ => 1
  | tinyInt _ => 2
  | smallInt _ => 3
  | integer _ => 4
  | bigInt _ => 5
  | decimal _ => 6
  | timestamp _ => 7
  | varchar _ => 8
  | binary _ => 9

/-- The bytes of a value's content. Numbers have as many bytes as their type is wide, a text is
ended by a byte that no text contains, and a blob begins with its length. -/
def content : Value → List UInt8
  | null => []
  | boolean b => [if b then 1 else 0]
  | tinyInt n => littleEndian 1 n.toUInt8.toNat
  | smallInt n => littleEndian 2 n.toUInt16.toNat
  | integer n => littleEndian 4 n.toUInt32.toNat
  | bigInt n => littleEndian 8 n.toUInt64.toNat
  | decimal d => littleEndian 8 d.canonical.toNat
  | timestamp n => littleEndian 8 n.toNat
  | varchar s => s.toUTF8.data.toList ++ [0xff]
  | binary b => littleEndian 8 b.bytes.length ++ b.bytes

/-- The bytes of a value. -/
def encoding (value : Value) : List UInt8 :=
  littleEndian 8 value.kind ++ value.content

end Value

end OpenAddressing
