import Conform.Value.Basic

/-!
# Primitive kinds
-/

namespace Conform

/-- What a value can be coerced to. -/
inductive Kind where
  | null
  | bool
  | int
  | float
  | string
  | any
  | dateTime
  | date
  | duration
deriving DecidableEq, Repr

namespace Kind

/-- The name of a kind. -/
def name : Kind → String
  | .null => "Null"
  | .bool => "Bool"
  | .int => "Int"
  | .float => "Float"
  | .string => "String"
  | .any => "Any"
  | .dateTime => "Datetime"
  | .date => "Date"
  | .duration => "Duration"

/-- The kind that a reserved name stands for. -/
def ofName? (s : String) : Option Kind :=
  if s = "Any" then some .any
  else if s = "Null" then some .null
  else if s = "String" then some .string
  else if s = "Int" then some .int
  else if s = "Float" then some .float
  else if s = "Bool" ∨ s = "Boolean" then some .bool
  else if s = "Datetime" ∨ s = "DateTime" then some .dateTime
  else if s = "Date" then some .date
  else if s = "Duration" then some .duration
  else none

/-- The kind that an input is coerced to before it is compared with `v`. -/
def of : Value → Kind
  | .null => .null
  | .bool _ => .bool
  | .int _ => .int
  | .float _ => .float
  | .str _ => .string
  | .dateTime _ => .dateTime
  | .date _ => .date
  | .duration _ => .duration
  | .list _ => .any
  | .record _ => .any

@[simp] theorem ofName?_name (k : Kind) : ofName? k.name = some k := by cases k <;> decide

end Kind
end Conform
