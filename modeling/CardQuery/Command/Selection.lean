import CardQuery.Card.Schema
import CardQuery.Command.Error
import CardQuery.Evaluation.Matcher

/-!
# Selecting cards

The cards of a JSON text that fit a query. The fields of the cards are
described by a schema, which is inferred from the cards if none is given.
The steps are taken in a fixed order, and the first that fails decides: the
query, the presence of cards, their JSON, its form, the schema, and last the
evaluation.
-/

namespace CardQuery

/-- **What cards are selected from, and how.** -/
structure Selection where
  /-- The query. -/
  query : String
  /-- The JSON of the cards. -/
  input : Option String
  /-- The JSON of the schema. -/
  schema : Option String
  /-- Whether the backs of cards are read too. -/
  matchBacks : Bool
  /-- Whether the query is read and nothing else is done. -/
  queryOnly : Bool
  /-- How deeply the query may nest. -/
  limit : Nat
  /-- How many characters may stand between two words of a needle. -/
  gap : Nat

/-- What comes of a selection. -/
inductive Selected where
  /-- The query can be read. -/
  | queryIsValid
  /-- The cards that fit. -/
  | cards (matching : List Json)

namespace Selection

variable [PatternCompiler]

/-- The cards of a JSON value: the items of an array, or a single object. -/
def cardsOf : Json → Except CommandError (List Json)
  | .array items => .ok items
  | .object members => .ok [.object members]
  | _ => .error .invalidCards

/-- The cards of a JSON text. -/
def readCards (input : String) : Except CommandError (List Json) :=
  match Json.ofText? input with
  | some v => cardsOf v
  | none => .error .json

/-- The schema that is given, or that the cards suggest. -/
def readSchema (schema : Option String) (cards : List Json) : Except CommandError Schema :=
  match schema with
  | none => .ok (Schema.infer cards)
  | some text =>
    match Schema.ofText? text with
    | some s => .ok s
    | none => .error .json

/-- What the names in the query mean. -/
def scope (s : Selection) (schema : Schema) : Scope Json LookupContext where
  fields := schema.registry
  context := ⟨s.matchBacks⟩
  options := ⟨s.gap, SearchOptions.standard.capacity⟩

/-- The cards of the input that fit an expression. -/
def select (s : Selection) (e : Expr) : Except CommandError (List Json) :=
  match s.input with
  | none => .error .noInput
  | some input => do
    let cards ← readCards input
    let schema ← readSchema s.schema cards
    ((Matcher.fresh (s.scope schema)).filter e cards).1.mapError .evaluation

/-- **Carries out a selection.** -/
def run (s : Selection) : Except CommandError Selected :=
  match parseQuery s.limit s.query with
  | .error e => .error (.query e)
  | .ok e => if s.queryOnly then .ok .queryIsValid else (s.select e).map .cards

end Selection

/-- The text of selected cards, on one line or on several. -/
def Selected.text (pretty : Bool) : Selected → String
  | queryIsValid => "Syntax is valid"
  | cards matching =>
    if pretty then (Json.array matching).pretty else (Json.array matching).compact

end CardQuery
