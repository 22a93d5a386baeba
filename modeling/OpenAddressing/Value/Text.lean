import OpenAddressing.Decimal.Text
import OpenAddressing.Text.Layout
import OpenAddressing.Text.Quoted
import OpenAddressing.Value.Basic

/-!
# The text of a value

A value is written in three ways: `display` is how a query shows it, `inspect` names its kind
as well, on one line, and `inspectBlock` does so with every part on a line of its own.
-/

namespace OpenAddressing

namespace Value

/-- The two digits of a byte in base sixteen, in upper case. -/
def byteText (b : UInt8) : String :=
  String.ofList ([b.toNat / 16, b.toNat % 16].map fun digit => (Nat.digitChar digit).toUpper)

/-- A value as a query shows it. Nothing is escaped in a text. -/
def display : Value → String
  | null => "NULL"
  | boolean b => if b then "true" else "false"
  | tinyInt n => toString n.toInt
  | smallInt n => toString n.toInt
  | integer n => toString n.toInt
  | bigInt n => toString n.toInt
  | decimal d => d.text Decimal.plain
  | timestamp n => toString n.toNat
  | varchar s => "'" ++ s ++ "'"
  | binary b => "X'" ++ String.join (b.bytes.map byteText) ++ "'"

/-- The name of a value's kind. -/
def kindName : Value → String
  | null => "Null"
  | boolean _ => "Boolean"
  | tinyInt _ => "TinyInt"
  | smallInt _ => "SmallInt"
  | integer _ => "Integer"
  | bigInt _ => "BigInt"
  | decimal _ => "Decimal"
  | timestamp _ => "Timestamp"
  | varchar _ => "Varchar"
  | binary _ => "Binary"

/-- The content of a value for inspection: one text, or the texts of the members of a list. -/
def parts : Value → Option (String ⊕ List String)
  | null => none
  | decimal d => some (.inl (d.text Decimal.detailed))
  | varchar s => some (.inl (Text.quote s))
  | binary b => some (.inr (b.bytes.map fun byte => toString byte.toNat))
  | value => some (.inl value.display)

/-- A value on one line, with the name of its kind. -/
def inspect (value : Value) : String :=
  match value.parts with
  | none => value.kindName
  | some (.inl text) => Text.enclose (value.kindName ++ "(") ")" [text]
  | some (.inr texts) =>
    Text.enclose (value.kindName ++ "(") ")" [Text.enclose "[" "]" texts]

/-- A value with every part on a line of its own. -/
def inspectBlock (value : Value) : Text.Block :=
  match value.parts with
  | none => [value.kindName]
  | some (.inl text) => Text.Block.enclose (value.kindName ++ "(") ")" [[text]]
  | some (.inr texts) =>
    Text.Block.enclose (value.kindName ++ "(") ")"
      [Text.Block.enclose "[" "]" (texts.map fun text => [text])]

end Value

end OpenAddressing
