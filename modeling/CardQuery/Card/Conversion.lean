import CardQuery.Card.FieldType
import CardQuery.Card.Value
import CardQuery.Json.Basic

/-!
# Values out of JSON

Cards come as JSON. An object holds nothing that a query could compare, so it
counts as no value.
-/

namespace CardQuery

namespace Json

mutual

/-- **The value of a JSON value.** -/
def toValue : Json → Value
  | null | object _ => .null
  | boolean b => .boolean b
  | number n => .number n.toFloat
  | string s => .string s
  | array items => .array (toValues items)

/-- The values of some JSON values. -/
def toValues : List Json → List Value
  | [] => []
  | v :: rest => v.toValue :: toValues rest

end

mutual

/-- **The type of field that a JSON value suggests.** An array suggests what
its first item that suggests anything does. -/
def fieldType? : Json → Option FieldType
  | null | object _ => none
  | boolean _ => some .boolean
  | number _ => some .number
  | string _ => some .string
  | array items => firstFieldType? items

/-- The type that the first of some values suggests which suggests any. -/
def firstFieldType? : List Json → Option FieldType
  | [] => none
  | v :: rest =>
    match v.fieldType? with
    | some t => some t
    | none => firstFieldType? rest

end

end Json

end CardQuery
