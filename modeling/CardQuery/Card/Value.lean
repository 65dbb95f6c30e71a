import CardQuery.Number.Shortest

/-!
# Values

What a field of a card holds and what an expression computes. A field with
several values, such as one that differs between front and back, holds an
array; a comparison with an array asks whether any of its values fits.
-/

namespace CardQuery

/-- **The values of fields.** -/
inductive Value where
  /-- No value. -/
  | null
  | boolean (b : Bool)
  | number (x : Float)
  | string (s : String)
  /-- Several values. -/
  | array (items : List Value)

/-- The kinds of value. -/
inductive ValueKind where
  | null
  | boolean
  | number
  | string
  | array
deriving DecidableEq, Repr

/-- The name of a kind. -/
def ValueKind.name : ValueKind → String
  | .null => "null"
  | .boolean => "boolean"
  | .number => "number"
  | .string => "string"
  | .array => "array"

/-- Whether a number counts as true: all do but zero and what is not a
number. -/
def Number.isTruthy (x : Float) : Bool := x != 0 && !x.isNaN

namespace Value

/-- The kind of a value. -/
def kind : Value → ValueKind
  | null => .null
  | boolean _ => .boolean
  | number _ => .number
  | string _ => .string
  | array _ => .array

/-- **Whether a value counts as true** where a condition is expected. Several
values always do, even if there are none of them. -/
def isTruthy : Value → Bool
  | null => false
  | boolean b => b
  | number x => Number.isTruthy x
  | string s => !s.isEmpty
  | array _ => true

/-- Whether a value is blank. Cards use the empty string and no value for
the same thing. -/
def isBlank : Value → Bool
  | null => true
  | string s => s.isEmpty
  | _ => false

/-- The text of a string. -/
def text? : Value → Option String
  | string s => some s
  | _ => none

mutual

/-- **The text of a value.** -/
def display : Value → String
  | null => "null"
  | boolean true => "true"
  | boolean false => "false"
  | number x => Number.plainText x
  | string s => s
  | array items => ",".intercalate (displays items)

/-- The texts of some values. -/
def displays : List Value → List String
  | [] => []
  | v :: rest => v.display :: displays rest

end

end Value

end CardQuery
