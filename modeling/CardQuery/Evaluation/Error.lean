import CardQuery.Card.FieldType
import CardQuery.Card.Value
import CardQuery.Query.Operator

/-!
# What can go wrong when a query is evaluated

Every error has one cause in the query or in the card, and says which.
-/

namespace CardQuery

/-- **The causes of failure.** -/
inductive EvalError where
  /-- A name that no field has. -/
  | unknownField (name : String)
  /-- Two fields of different types side by side. -/
  | typeMismatch (left right : FieldType)
  | divisionByZero
  | moduloByZero
  /-- A list where a condition is expected. -/
  | listAsBoolean
  /-- A list where a value is expected. -/
  | listAsValue
  /-- An operator that computes no value, where a value is expected. -/
  | notAValue (op : Operator)
  /-- Something else where a list is expected. -/
  | expectedList
  /-- A string that stands for no number. -/
  | notNumeric (text : String)
  /-- A value of a kind that stands for no number. -/
  | invalidNumericOperand (kind : ValueKind)
  /-- A regular expression where a value is expected. -/
  | regexAsValue
  /-- A text that is no regular expression. -/
  | invalidRegex (source : String)
deriving DecidableEq, Repr

/-- The wording of an error. That of a text which is no regular expression
ends where the reason would stand. -/
def EvalError.message : EvalError → String
  | .unknownField name => s!"Unknown field: {name}"
  | .typeMismatch left right =>
    s!"Type mismatch: cannot compare {left.name} field with {right.name} field"
  | .divisionByZero => "Division by zero"
  | .moduloByZero => "Modulo by zero"
  | .listAsBoolean => "Lists cannot be evaluated as boolean"
  | .listAsValue => "Cannot get value from list"
  | .notAValue op => s!"Cannot get value from binary operator: {op.symbol}"
  | .expectedList => "Expected list expression"
  | .notNumeric text => "Cannot convert \"" ++ text ++ "\" to number"
  | .invalidNumericOperand kind => s!"Cannot convert {kind.name} to number"
  | .regexAsValue => "Regex literals can only be compared with a value"
  | .invalidRegex source => "Invalid regex /" ++ source ++ "/: "

end CardQuery
