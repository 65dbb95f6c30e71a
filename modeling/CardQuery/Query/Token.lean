import CardQuery.Query.Literal
import CardQuery.Query.Operator
import CardQuery.Query.Position

/-!
# Tokens

What a query is made of. A token keeps the text it was read from beside the
value that text stands for, so that nothing of the query is lost when it is
cut into tokens.
-/

namespace CardQuery

/-- **The kinds of token.** Every operator is a kind of its own. -/
inductive TokenKind where
  | trueWord
  | falseWord
  | nullWord
  | number
  | string
  | regex
  /-- The name of a field. -/
  | identifier
  | operator (op : Operator)
  | leftParen
  | rightParen
  | leftBracket
  | rightBracket
  | comma
  /-- The end of the query. -/
  | eof
deriving DecidableEq, Repr

namespace TokenKind

/-- The name of an operator's kind. -/
def operatorName : Operator → String
  | .equality .strict false => "STRICT_EQ"
  | .equality .loose false => "LOOSE_EQ"
  | .equality .loose true => "NOT_EQ"
  | .equality .strict true => "STRICT_NOT_EQ"
  | .membership .strict false => "STRICT_CONTAINS"
  | .membership .strict true => "STRICT_NOT_CONTAINS"
  | .membership .loose false => "LOOSE_CONTAINS"
  | .membership .loose true => "LOOSE_NOT_CONTAINS"
  | .relation .greater => "GT"
  | .relation .less => "LT"
  | .relation .greaterEq => "GTE"
  | .relation .lessEq => "LTE"
  | .and => "AND"
  | .or => "OR"
  | .arithmetic .add => "PLUS"
  | .arithmetic .subtract => "MINUS"
  | .arithmetic .multiply => "MULTIPLY"
  | .arithmetic .divide => "DIVIDE"
  | .arithmetic .modulo => "MODULO"

/-- The name of a kind in token listings. -/
def name : TokenKind → String
  | .trueWord => "TRUE"
  | .falseWord => "FALSE"
  | .nullWord => "NULL"
  | .number => "NUMBER"
  | .string => "STRING"
  | .regex => "REGEX"
  | .identifier => "IDENTIFIER"
  | .operator op => operatorName op
  | .leftParen => "LPAREN"
  | .rightParen => "RPAREN"
  | .leftBracket => "LBRACKET"
  | .rightBracket => "RBRACKET"
  | .comma => "COMMA"
  | .eof => "EOF"

/-- Every kind. -/
def all : List TokenKind :=
  [.trueWord, .falseWord, .nullWord, .number, .string, .regex, .identifier] ++
    Operator.all.map .operator ++
    [.leftParen, .rightParen, .leftBracket, .rightBracket, .comma, .eof]

/-- The kind of a name. -/
def ofName? (s : String) : Option TokenKind := all.find? (·.name == s)

/-- **Whether a slash after this kind opens a regular expression.** It does
where a value has to follow and a quotient could not: after an equality or
membership operator, after an opening bracket and after a comma. -/
def opensValue : TokenKind → Bool
  | .operator (.equality _ _) | .operator (.membership _ _) => true
  | .leftBracket | .comma => true
  | _ => false

/-- **The operator that a kind means at a level of the grammar**, if it means
one there. -/
def operatorAt (level : Level) : TokenKind → Option Operator
  | .operator op => if op.level = level then some op else none
  | _ => none

/-- Whether a token of this kind is a literal. -/
def isLiteral : TokenKind → Bool
  | .trueWord | .falseWord | .nullWord | .number | .string | .regex => true
  | _ => false

end TokenKind

/-- **A token**: its kind, the text it was read from, the value of that text,
and where the text stands. -/
structure Token where
  /-- What the token is. -/
  kind : TokenKind
  /-- The text as written. -/
  lexeme : String
  /-- What the text stands for: the literal, or the lowercase name of a
  field. -/
  value : Literal
  /-- Where the text stands. -/
  span : Span
deriving Repr

/-- The token at the end of a query, which has no text. -/
def Token.eofAt (p : Position) : Token := ⟨.eof, "", .null, .point p⟩

end CardQuery
