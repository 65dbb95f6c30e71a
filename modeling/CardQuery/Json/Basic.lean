import CardQuery.Catalog
import CardQuery.Number.Nearest

/-!
# JSON values

A JSON value in its canonical form: the members of an object stand in the
order of their names, each name once. Numbers are integers as long as they
fit into 64 bits and were written without a fraction and without an
exponent; every other number is a double.
-/

namespace CardQuery

/-- **The numbers of JSON.** -/
inductive JsonNumber where
  | integer (n : Int)
  | float (x : Float)
deriving Repr

/-- The double of a number. -/
def JsonNumber.toFloat : JsonNumber → Float
  | .integer n => Number.withSign (n < 0) (Number.ofNat n.natAbs)
  | .float x => x

/-- **JSON values.** -/
inductive Json where
  | null
  | boolean (b : Bool)
  | number (n : JsonNumber)
  | string (s : String)
  | array (items : List Json)
  | object (members : List (String × Json))

namespace Json

/-- Whether a value is `null`. -/
def isNull : Json → Bool
  | null => true
  | _ => false

/-- The member of an object under a name. Nothing else has members. -/
def member? (name : String) : Json → Option Json
  | object members => Catalog.get? members name
  | _ => none

end Json

end CardQuery
