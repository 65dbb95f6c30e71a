import CardQuery.Card.Field
import CardQuery.Evaluation.Arithmetic
import CardQuery.Evaluation.Equality
import CardQuery.Query.Expr

/-!
# Deciding whether a card fits a query

A query is evaluated against one card at a time. What stands where a
condition is expected gives a truth value, and what stands where a value is
expected gives a value; a regular expression gives a pattern, and only where
it is compared with something.

Parts of a query are evaluated from left to right, and only as far as they
are needed: the first error ends the evaluation, and the right side of `&`
and `|` is left alone where the left side decides. Patterns that were looked
up before an error stay remembered.
-/

namespace CardQuery

/-- **What the names in queries mean**: the fields, the context in which they
are looked up, and the options of searching. -/
structure Scope (Card Context : Type) where
  /-- The fields. -/
  fields : Registry Card Context
  /-- The context of looking up. -/
  context : Context
  /-- The options of searching. -/
  options : SearchOptions

/-- **An evaluation**: it may fail, and it may look patterns up. -/
abbrev Evaluation := ExceptT EvalError Searching

/-- An evaluation that looks no pattern up. -/
def Evaluation.ofExcept {α : Type} (r : Except EvalError α) : Evaluation α := ExceptT.mk (pure r)

/-- An evaluation that cannot fail. -/
def Evaluation.ofSearch {α : Type} (r : Searching α) : Evaluation α := ExceptT.lift r

/-- What an equality compares: a value or a pattern. -/
inductive Operand where
  | value (v : Value)
  | pattern (p : Pattern)

/-- Whether a relation holds between two numbers. -/
def Relation.holds : Relation → Float → Float → Bool
  | .greater, x, y => x > y
  | .less, x, y => x < y
  | .greaterEq, x, y => x >= y
  | .lessEq, x, y => x <= y

/-- The value of a literal. A regular expression has none. -/
def Literal.toValue : Literal → Except EvalError Value
  | .null => .ok .null
  | .boolean b => .ok (.boolean b)
  | .number x => .ok (.number x)
  | .string s => .ok (.string s)
  | .regex _ => .error .regexAsValue

namespace Scope

variable {Card Context : Type} [PatternCompiler]

/-- The value of a field on a card. -/
def lookup (s : Scope Card Context) (card : Card) (name : String) : Except EvalError Value :=
  match s.fields.get? name with
  | some f => .ok (f.lookup card s.context)
  | none => .error (.unknownField name)

/-! ## Types -/

/-- The type of the field that an expression names, if it names one. -/
def typeOf (s : Scope Card Context) : Expr → Except EvalError (Option FieldType)
  | .identifier name _ =>
    match s.fields.fieldType? name with
    | some t => .ok (some t)
    | none => .error (.unknownField name)
  | _ => .ok none

/-- **The type by which two operands are compared.** Fields of different types
are not compared. -/
def commonType (s : Scope Card Context) (left right : Expr) :
    Except EvalError (Option FieldType) := do
  let l ← s.typeOf left
  let r ← s.typeOf right
  match l, r with
  | some l, some r => if l = r then return some l else .error (.typeMismatch l r)
  | l, r => return l <|> r

/-! ## Values -/

/-- **The value of an expression.** An operation on a number that is missing
has no value, which is no error. -/
def value (s : Scope Card Context) (card : Card) : Expr → Except EvalError Value
  | .literal v _ => v.toValue
  | .identifier name _ => s.lookup card name
  | .group body _ => s.value card body
  | .binary (.arithmetic op) left right _ => do
    let l ← (← s.value card left).toNumber
    let r ← (← s.value card right).toNumber
    match l, r with
    | some x, some y => return .number (← op.apply x y)
    | _, _ => return .null
  | .binary op _ _ _ => .error (.notAValue op)
  | .list _ _ => .error .listAsValue

/-- The numbers of two operands. -/
def numbers (s : Scope Card Context) (card : Card) (left right : Expr) :
    Except EvalError (Option Float × Option Float) := do
  let l ← (← s.value card left).toNumber
  let r ← (← s.value card right).toNumber
  return (l, r)

/-! ## Comparing -/

/-- A pattern looked up, or the error that there is none. -/
def compile (s : Scope Card Context) (source : String) : Evaluation Pattern := do
  match ← Evaluation.ofSearch (Cache.literal? s.options.capacity source) with
  | some p => return p
  | none => throw (.invalidRegex source)

/-- **What an expression contributes to an equality.** -/
def operand (s : Scope Card Context) (card : Card) : Expr → Evaluation Operand
  | .literal (.regex source) _ => return .pattern (← s.compile source)
  | .group body _ => s.operand card body
  | e => return .value (← Evaluation.ofExcept (s.value card e))

/-- What some expressions contribute to an equality. -/
def operands (s : Scope Card Context) (card : Card) : List Expr → Evaluation (List Operand)
  | [] => return []
  | e :: rest => do
    let first ← s.operand card e
    let others ← s.operands card rest
    return first :: others

/-- Whether two operands are equal. Two patterns never are. -/
def operandsEqual (s : Scope Card Context) (mode : EqualityMode) (type : Option FieldType) :
    Operand → Operand → Searching Bool
  | .value l, .value r => Equality.values s.options mode type r l
  | .pattern p, .value v | .value v, .pattern p => return p.fits v
  | .pattern _, .pattern _ => return false

/-- Whether an operand is equal to one of some operands. -/
def anyEqual (s : Scope Card Context) (mode : EqualityMode) (type : Option FieldType)
    (l : Operand) : List Operand → Searching Bool
  | [] => return false
  | r :: rest => do
    if ← s.operandsEqual mode type l r then return true
    else s.anyEqual mode type l rest

/-! ## Conditions -/

/-- Whether the operands of an arithmetic operator give a number that counts
as true. -/
def computesTruth (s : Scope Card Context) (card : Card) (op : Arithmetic)
    (left right : Expr) : Except EvalError Bool := do
  match ← s.numbers card left right with
  | (some x, some y) => return Number.isTruthy (← op.apply x y)
  | _ => return false

/-- Whether a relation holds between two operands. It does not where a number
is missing. -/
def related (s : Scope Card Context) (card : Card) (r : Relation) (left right : Expr) :
    Except EvalError Bool := do
  match ← s.numbers card left right with
  | (some x, some y) => return r.holds x y
  | _ => return false

/-- Whether two operands are equal, or unequal if that is asked. -/
def compares (s : Scope Card Context) (card : Card) (mode : EqualityMode) (negated : Bool)
    (type : Option FieldType) (left right : Expr) : Evaluation Bool := do
  let l ← s.operand card left
  let r ← s.operand card right
  let equal ← Evaluation.ofSearch (s.operandsEqual mode type l r)
  return equal != negated

/-- Whether an operand is in a list, or not in it if that is asked. -/
def isMember (s : Scope Card Context) (card : Card) (mode : EqualityMode) (negated : Bool)
    (type : Option FieldType) (left right : Expr) : Evaluation Bool := do
  let l ← s.operand card left
  match right with
  | .list elements _ =>
    let rs ← s.operands card elements
    let found ← Evaluation.ofSearch (s.anyEqual mode type l rs)
    return found != negated
  | _ => throw .expectedList

/-- **Whether an expression holds of a card.** -/
def holds (s : Scope Card Context) (card : Card) : Expr → Evaluation Bool
  | .literal (.regex _) _ => return true
  | .literal v _ => do return (← Evaluation.ofExcept v.toValue).isTruthy
  | .identifier name _ => do return (← Evaluation.ofExcept (s.lookup card name)).isTruthy
  | .group body _ => s.holds card body
  | .list _ _ => throw .listAsBoolean
  | .binary op left right _ => do
    let type ← Evaluation.ofExcept (s.commonType left right)
    match op with
    | .and => if ← s.holds card left then s.holds card right else return false
    | .or => if ← s.holds card left then return true else s.holds card right
    | .equality mode negated => s.compares card mode negated type left right
    | .membership mode negated => s.isMember card mode negated type left right
    | .relation r => Evaluation.ofExcept (s.related card r left right)
    | .arithmetic op => Evaluation.ofExcept (s.computesTruth card op left right)

end Scope

/-! ## Matchers -/

/-- **A matcher** decides whether cards fit queries, and remembers patterns
from one to the next. -/
structure Matcher (Card Context : Type) where
  /-- What the names in queries mean. -/
  scope : Scope Card Context
  /-- The patterns that are remembered. -/
  cache : Cache

namespace Matcher

variable {Card Context : Type} [PatternCompiler]

/-- A matcher that remembers nothing yet. -/
def fresh (scope : Scope Card Context) : Matcher Card Context := ⟨scope, .empty⟩

/-- How many patterns are remembered. -/
def cached (m : Matcher Card Context) : Nat := m.cache.size

/-- **Whether a card fits a query.** -/
def matchCard (m : Matcher Card Context) (query : Expr) (card : Card) :
    Except EvalError Bool × Matcher Card Context :=
  let (result, cache) := (m.scope.holds card query).run.run m.cache
  (result, { m with cache := cache })

/-- Whether each of some cards fits a query. A failure does not keep the
others from being asked. -/
def matchEach (m : Matcher Card Context) (query : Expr) :
    List Card → List (Except EvalError Bool) × Matcher Card Context
  | [] => ([], m)
  | card :: rest =>
    let (first, m) := m.matchCard query card
    let (others, m) := m.matchEach query rest
    (first :: others, m)

/-- Whether each of some cards fits a query, or the first failure, which
keeps the others from being asked. -/
def decideAll (m : Matcher Card Context) (query : Expr) :
    List Card → Except EvalError (List Bool) × Matcher Card Context
  | [] => (.ok [], m)
  | card :: rest =>
    match m.matchCard query card with
    | (.error e, m) => (.error e, m)
    | (.ok fits, m) =>
      match m.decideAll query rest with
      | (.error e, m) => (.error e, m)
      | (.ok others, m) => (.ok (fits :: others), m)

/-- The elements of a list that answers keep. -/
def kept {α : Type} : List α → List Bool → List α
  | a :: rest, keep :: answers => if keep then a :: kept rest answers else kept rest answers
  | _, _ => []

/-- **The cards that fit a query**, in their order, or the first failure. -/
def filter (m : Matcher Card Context) (query : Expr) (cards : List Card) :
    Except EvalError (List Card) × Matcher Card Context :=
  let (answers, m) := m.decideAll query cards
  (answers.map (kept cards), m)

/-- Whether two values are equal. -/
def equalValues (m : Matcher Card Context) (mode : EqualityMode) (type : Option FieldType)
    (left right : Value) : Bool × Matcher Card Context :=
  let (result, cache) := (Equality.values m.scope.options mode type right left).run m.cache
  (result, { m with cache := cache })

/-- The text of the scope of a matcher in listings. -/
def debugScope (m : Matcher Card Context) (context : String) : String :=
  "InterpreterContext \x7b fields: " ++ m.scope.fields.debug ++
    ", field_lookup_context: " ++ context ++ " \x7d"

end Matcher

/-- The wording of an error where the evaluation of a query is one of several
steps that may fail. -/
def EvalError.describe (e : EvalError) : String := "Interpreter error: " ++ e.message

end CardQuery
