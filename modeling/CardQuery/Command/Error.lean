import CardQuery.Evaluation.Error
import CardQuery.Query.Source

/-!
# What can go wrong in a command
-/

namespace CardQuery

/-- **The causes for which a command fails.** -/
inductive CommandError where
  /-- The query cannot be read. -/
  | query (e : QueryError)
  /-- The query cannot be evaluated. -/
  | evaluation (e : EvalError)
  /-- A text is no JSON, or not the JSON it should be. -/
  | json
  /-- A file cannot be read. -/
  | io (reason : String)
  /-- There are no cards to read. -/
  | noInput
  /-- The input is neither a list of cards nor a card. -/
  | invalidCards
  /-- There is no such page. -/
  | unknownCategory (name : String)
deriving DecidableEq, Repr

/-- The wording of an error. -/
def CommandError.message : CommandError → String
  | .query e => e.message
  | .evaluation e => "Evaluation error: " ++ e.message
  | .json => "Invalid JSON: the text does not have the expected form"
  | .io reason => "IO error: " ++ reason
  | .noInput => "No input provided. Use --input or pipe JSON to stdin."
  | .invalidCards => "Input must be a JSON array of card objects or a single card object"
  | .unknownCategory name =>
    "Unknown category: '" ++ name ++ "'\nRun 'buildql docs' to see available categories."

end CardQuery
