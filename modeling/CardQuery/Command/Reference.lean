import CardQuery.Text.Lowercase

/-!
# The language reference

Five pages about the query language and an overview of them. A page is asked
for by its name or by an alias, in any case.
-/

namespace CardQuery

/-! ## The texts -/

namespace Reference

/-- The list of the pages. -/
def overview : List String := [
  "BUILDQL DOCUMENTATION",
  "",
  "BuildQL is a small boolean query language for filtering card collections.",
  "A query compares card fields with literals, lists, or other fields and",
  "combines the comparisons with & and |.",
  "",
  "DOCUMENTATION CATEGORIES",
  "",
  "  syntax            Literals, identifiers, lists, groups and regex literals",
  "  operators         Comparison, membership, logical and arithmetic operators",
  "  equality          How strict and loose equality compare values",
  "  fields            Field types and the JSON field schema used by 'check'",
  "  errors            Lexer, parser and interpreter error messages",
  "",
  "QUICK REFERENCE",
  "",
  "  xp > 3 & trait = \"practiced\"      Comparison combined with AND",
  "  name ? [\"roland\", \"agnes\"]        Loose membership",
  "  cost % 2 = 1                      Arithmetic",
  "  name = /^the/                     Regex literal",
  "",
  "Run 'buildql doc <category>' for detailed documentation."]

/-- How queries are written. -/
def syntaxPage : List String := [
  "SYNTAX",
  "",
  "LITERALS",
  "  42, -7            Integers (a leading '-' is part of the number)",
  "  \"text\", 'text'    Strings; \\n, \\t and \\r are escapes, any other",
  "                    escaped character stands for itself",
  "  true, false       Booleans",
  "  null              Null",
  "  /pattern/         Regex literal, only where a value is expected",
  "                    (after a comparison operator, '[' or ',')",
  "",
  "IDENTIFIERS",
  "  Letters, digits, '_' and ':' after a leading letter or '_'.",
  "  Identifiers are case-insensitive: XP and xp name the same field.",
  "",
  "LISTS",
  "  [1, 2, 3]         Only valid on the right of a membership operator",
  "",
  "GROUPS",
  "  (a = 1 | b = 2)   Parentheses override precedence",
  "",
  "TOP LEVEL",
  "  A query must be a binary operation or a parenthesized group;",
  "  a bare literal or identifier is rejected."]

/-- What the operators mean. -/
def operatorsPage : List String := [
  "OPERATORS",
  "",
  "Precedence, lowest first. Every level is left-associative except",
  "comparison, which does not chain.",
  "",
  "  |                 Logical OR (short-circuit)",
  "  &                 Logical AND (short-circuit)",
  "  == = != !==       Strict equal, loose equal, loose not equal,",
  "                    strict not equal",
  "  ?? !?? ? !?       Strict in, strict not in, loose in, loose not in",
  "  > < >= <=         Numeric comparison",
  "  + -               Addition, subtraction",
  "  * / %             Multiplication, division, remainder",
  "",
  "MEMBERSHIP",
  "  The right operand must be a list:",
  "    name ? [\"roland\", \"agnes\"]",
  "",
  "ARITHMETIC",
  "  Operands are converted to numbers. The special values \"x\", \"*\", \"?\"",
  "  count as -2, -3 and -4; \"-\" never matches. Division or remainder by",
  "  zero is an error. An arithmetic expression used as a condition is",
  "  true when its result is non-zero."]

/-- How values are compared. -/
def equalityPage : List String := [
  "EQUALITY",
  "",
  "Values are compared in this order:",
  "",
  "  1. Arrays match when any element matches.",
  "  2. A number and a string compare numerically when the string is",
  "     numeric; a boolean never equals a number or string.",
  "  3. null and \"\" are equal to each other.",
  "  4. Booleans compare by truthiness.",
  "  5. Numbers compare exactly.",
  "  6. Strings are trimmed and lower-cased first. With loose equality (=)",
  "     the shorter string is searched for in the longer one, word by",
  "     word, allowing up to 20 characters between words. With strict",
  "     equality (==) text fields match when one contains the other",
  "     ignoring accents; other fields must match exactly.",
  "",
  "  Regex literals match case-insensitively against string values."]

/-- Where fields come from. -/
def fieldsPage : List String := [
  "FIELDS",
  "",
  "FIELD TYPES",
  "  string            Short names and codes",
  "  text              Long card text; strict equality is containment",
  "  number            Numeric values",
  "  boolean           Flags",
  "",
  "Both operands of a comparison must have the same field type. Comparing",
  "a number field to a string field is an error; comparing a field to a",
  "literal is always allowed.",
  "",
  "FIELD SCHEMA",
  "  'buildql check --fields schema.json' reads a JSON object mapping field",
  "  names to how they are found on a card:",
  "",
  "    \x7b",
  "      \"xp\":    \x7b \"type\": \"number\" \x7d,",
  "      \"trait\": \x7b \"type\": \"text\", \"path\": \"traits\",",
  "                 \"back_path\": \"back.traits\" \x7d",
  "    \x7d",
  "",
  "  path defaults to the field name; dotted paths reach into nested",
  "  objects. With --match-backs, fields with a back_path match against",
  "  both faces of the card.",
  "",
  "  Without --fields, one field is inferred per top-level card key."]

/-- What can go wrong. -/
def errorsPage : List String := [
  "ERRORS",
  "",
  "Every syntax error names its position as 'line L, column C'.",
  "",
  "LEXER",
  "  Unterminated string literal",
  "  Unterminated regex literal",
  "  Unexpected character: 'c'",
  "",
  "PARSER",
  "  Expected expression, got 'token'",
  "  Expected ')' after expression",
  "  Expected ']' after list elements",
  "  Unexpected token: 'token'",
  "  Expression must be a binary operation or a group",
  "  Maximum nesting depth of N exceeded",
  "",
  "INTERPRETER",
  "  Unknown field: name",
  "  Type mismatch: cannot compare number field with string field",
  "  Division by zero",
  "  Modulo by zero",
  "  Expected list expression",
  "  Lists cannot be evaluated as boolean",
  "  Cannot convert \"abc\" to number",
  "  Invalid regex /pattern/: reason"]

/-- The text of some lines. -/
def text (lines : List String) : String := String.join (lines.map (· ++ "\n"))

end Reference

/-! ## The pages -/

/-- **The pages of the reference.** -/
inductive ReferencePage where
  | syntaxOfQueries
  | operators
  | equality
  | fields
  | errors
deriving DecidableEq, Repr

namespace ReferencePage

/-- The page of a name, in any case. -/
def ofName? (name : String) : Option ReferencePage :=
  match Text.lowercase name with
  | "syntax" => some syntaxOfQueries
  | "operators" | "ops" => some operators
  | "equality" | "matching" => some equality
  | "fields" | "schema" => some fields
  | "errors" | "error" => some errors
  | _ => none

/-- The title of a page. -/
def title : ReferencePage → String
  | syntaxOfQueries => "Syntax"
  | operators => "Operators"
  | equality => "Equality"
  | fields => "Fields"
  | errors => "Errors"

/-- **The text of a page.** -/
def text : ReferencePage → String
  | syntaxOfQueries => Reference.text Reference.syntaxPage
  | operators => Reference.text Reference.operatorsPage
  | equality => Reference.text Reference.equalityPage
  | fields => Reference.text Reference.fieldsPage
  | errors => Reference.text Reference.errorsPage

end ReferencePage

end CardQuery
