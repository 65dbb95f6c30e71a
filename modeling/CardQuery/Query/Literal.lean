/-!
# Literals

A literal as it stands in a query, before any coercion. Numbers are doubles,
so that `-0` survives; the text of a regular expression keeps its escapes.
-/

namespace CardQuery

/-- **The value of a literal.** Tokens without a value of their own carry
`null`. -/
inductive Literal where
  | null
  | boolean (b : Bool)
  | number (x : Float)
  /-- A string, its escapes resolved. -/
  | string (s : String)
  /-- What stands between the slashes, as written. -/
  | regex (source : String)
deriving Repr

namespace Literal

/-- The text of a string or of a regular expression. -/
def text? : Literal → Option String
  | .string s | .regex s => some s
  | _ => none

/-- The number of a numeric literal. -/
def number? : Literal → Option Float
  | .number x => some x
  | _ => none

/-- **Equality of literals.** Numbers are compared as numbers: the two zeros
are equal, and what is not a number differs from itself. -/
def eq : Literal → Literal → Bool
  | .null, .null => true
  | .boolean a, .boolean b => a == b
  | .number x, .number y => x == y
  | .string s, .string t => s == t
  | .regex s, .regex t => s == t
  | _, _ => false

end Literal

end CardQuery
