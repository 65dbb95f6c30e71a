/-!
# Types of fields

The type of a field decides how it is compared: text fields are searched,
all others are compared as a whole, and fields of different types are not
compared with each other at all.
-/

namespace CardQuery

/-- **The type of a field.** -/
inductive FieldType where
  | string
  /-- A string that is searched by strict equality. -/
  | text
  | number
  | boolean
deriving DecidableEq, Repr

namespace FieldType

/-- The name of a type. -/
def name : FieldType → String
  | string => "string"
  | text => "text"
  | number => "number"
  | boolean => "boolean"

/-- The name of a type in listings, which starts with a capital. -/
def title : FieldType → String
  | string => "String"
  | text => "Text"
  | number => "Number"
  | boolean => "Boolean"

/-- Every type. -/
def all : List FieldType := [string, text, number, boolean]

/-- The type of a name. -/
def ofName? (s : String) : Option FieldType := all.find? (·.name == s)

@[simp] theorem ofName?_name (t : FieldType) : ofName? t.name = some t := by
  cases t <;> decide

end FieldType

end CardQuery
