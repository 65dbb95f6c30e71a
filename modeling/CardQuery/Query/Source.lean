import CardQuery.Query.Expr.Parser
import CardQuery.Query.Token.Lexer

/-!
# Queries as text

A query comes as text and is read in two steps, first into tokens and then
into a tree. A filter query has to be a condition; any other use of the
language takes every expression, always with the default limit.
-/

namespace CardQuery

/-- A lexing error as messages show it. -/
def LexError.describe (e : LexError) : String :=
  e.fault.message ++ " at " ++ e.position.describe

/-- A parsing error as messages show it. -/
def ParseError.describe (e : ParseError) : String :=
  e.fault.message ++ " at " ++ e.position.describe

/-- **Why a text is no query.** -/
inductive QueryError where
  | lexing (e : LexError)
  | parsing (e : ParseError)
deriving DecidableEq, Repr

/-- The wording of an error, with the step that failed. -/
def QueryError.message : QueryError → String
  | .lexing e => "Lexer error: " ++ e.describe
  | .parsing e => "Parser error: " ++ e.describe

/-- The tree that one reading of the tokens of a text gives. -/
def parseWith (read : Parser → Except ParseError Expr × Parser) (limit : Nat)
    (source : String) : Except QueryError Expr :=
  match tokenize source with
  | .error e => .error (.lexing e)
  | .ok tokens => (read (.ofTokens limit tokens)).1.mapError .parsing

/-- **The tree of a filter query** that nests no deeper than a limit. -/
def parseQuery (limit : Nat) (source : String) : Except QueryError Expr :=
  parseWith Parser.parseQuery limit source

/-- **The tree of any expression.** -/
def parseExpression (source : String) : Except QueryError Expr :=
  parseWith Parser.parse Parser.defaultLimit source

end CardQuery
