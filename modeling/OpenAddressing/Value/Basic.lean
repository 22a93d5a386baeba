import OpenAddressing.Decimal.Basic
import OpenAddressing.Word

/-!
# Values

The values a database column may hold. Two values are equal if they are of the same kind and
have the same content, where decimals are compared by their canonical bits: `null` is equal to
itself, and so is a decimal that is not a number.
-/

namespace OpenAddressing

/-- A string of bytes that fits into addressable memory. -/
structure Blob where
  bytes : List UInt8
  length_lt : bytes.length < 2 ^ (63 : Nat)
  deriving DecidableEq

namespace Blob

/-- The blob of a list of bytes, unless the list is too long. -/
def ofBytes? (bytes : List UInt8) : Option Blob :=
  if h : bytes.length < 2 ^ (63 : Nat) then some ⟨bytes, h⟩ else none

instance : Inhabited Blob := ⟨⟨[], by decide⟩⟩

end Blob

/-- A value of a database column. -/
inductive Value where
  | null
  | boolean (b : Bool)
  | tinyInt (n : Int8)
  | smallInt (n : Int16)
  | integer (n : Int32)
  | bigInt (n : Int64)
  | decimal (d : Decimal)
  | timestamp (n : UInt64)
  | varchar (s : String)
  | binary (b : Blob)
  deriving Inhabited

namespace Value

/-- Whether two values are the same key. -/
def isSame : Value → Value → Bool
  | null, null => true
  | boolean a, boolean b => a == b
  | tinyInt a, tinyInt b => a == b
  | smallInt a, smallInt b => a == b
  | integer a, integer b => a == b
  | bigInt a, bigInt b => a == b
  | decimal a, decimal b => a.canonical == b.canonical
  | timestamp a, timestamp b => a == b
  | varchar a, varchar b => a == b
  | binary a, binary b => a.bytes == b.bytes
  | _, _ => false

/-- Values are compared as keys. -/
instance : BEq Value := ⟨isSame⟩

/-- The name of the column type that holds the value. -/
def typeName : Value → String
  | null => "NULL"
  | boolean _ => "BOOLEAN"
  | tinyInt _ => "TINYINT"
  | smallInt _ => "SMALLINT"
  | integer _ => "INTEGER"
  | bigInt _ => "BIGINT"
  | decimal _ => "DECIMAL"
  | timestamp _ => "TIMESTAMP"
  | varchar _ => "VARCHAR"
  | binary _ => "BINARY"

/-- Whether there is no content. -/
def isNull : Value → Bool
  | null => true
  | _ => false

end Value

end OpenAddressing
