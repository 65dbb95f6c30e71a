import CardQuery.Command.Error
import CardQuery.Query.Expr.Printer
import CardQuery.Text.Blank
import CardQuery.Text.Quoted

/-!
# Listings of queries

A query can be shown as its tokens, one on each line in four columns, or as
its tree.
-/

namespace CardQuery

namespace Listing

/-- A text in a column of a width, with blanks after it. -/
def column (width : Nat) (s : String) : String :=
  s ++ .ofList (List.replicate (width - s.length) ' ')

/-- The value of a token as listings show it. -/
def valueText : Literal → String
  | .null => ""
  | .boolean true => "true"
  | .boolean false => "false"
  | .number x => Number.plainText x
  | .string s => Text.quoted s
  | .regex source => "/" ++ source ++ "/"

/-- The line of a token: its kind, its text, its value and its place. -/
def tokenLine (t : Token) : String :=
  let line := column 20 t.kind.name ++ " " ++ column 16 t.lexeme ++ " " ++
    column 16 (valueText t.value) ++ " " ++ t.span.start.describe
  .ofList (Text.trimEnd line.toList)

/-- **The lines of the tokens of a query.** -/
def tokenLines (query : String) : Except CommandError (List String) :=
  match tokenize query with
  | .ok tokens => .ok (tokens.map tokenLine)
  | .error e => .error (.query (.lexing e))

/-- **A query written out**, as a query again or as an outline. -/
def render (query : String) (outline : Bool) (limit : Nat) : Except CommandError String :=
  match parseQuery limit query with
  | .ok e => .ok (if outline then e.toTree else e.toQuery)
  | .error e => .error (.query e)

end Listing

end CardQuery
