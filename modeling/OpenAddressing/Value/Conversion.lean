import OpenAddressing.Value.Basic

/-!
# What is stored as a value

A type is stored as values by `ToValue`. An option stores what is missing as `null`, also if
options are nested.
-/

namespace OpenAddressing

/-- The types whose elements are stored as values. -/
class ToValue (α : Type) where
  /-- The value that stores an element. -/
  toValue : α → Value

export ToValue (toValue)

instance : ToValue Bool := ⟨.boolean⟩

instance : ToValue Int8 := ⟨.tinyInt⟩

instance : ToValue Int16 := ⟨.smallInt⟩

instance : ToValue Int32 := ⟨.integer⟩

instance : ToValue Int64 := ⟨.bigInt⟩

instance : ToValue Decimal := ⟨.decimal⟩

instance : ToValue String := ⟨.varchar⟩

instance : ToValue Blob := ⟨.binary⟩

instance {α : Type} [ToValue α] : ToValue (Option α) where
  toValue
    | none => .null
    | some a => toValue a

end OpenAddressing
