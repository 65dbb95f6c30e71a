import CardQuery.Query.Expr
import CardQuery.Query.Token
import CardQuery.Text.Lowercase

/-!
# Reading trees from tokens

The grammar has one rule for each level, and one for what no operator is
part of:

* at a level, operands of the next tighter level stand in a chain, joined
  from the left; comparisons do not chain, so there are at most two;
* an *atom* is a literal, the name of a field, an expression in parentheses,
  or expressions in brackets with commas between them.

How deeply a query nests is limited. Every bracket and every link of a chain
takes one place out of the *room* that is left for what follows inside it,
and a bracket or a link that finds no room is refused. Because the room is
handed down and never handed back, what a rule reads cannot change the room
of its neighbours.

A parser may be asked more than once. It then goes on where the last answer
left it; after a failure the room stays what it was at the place of the
failure.
-/

namespace CardQuery

/-! ## What can go wrong -/

/-- What can be wrong with a sequence of tokens. -/
inductive ParseFault where
  /-- A token that starts no expression. -/
  | expectedExpression (got : String)
  /-- Parentheses that are not closed where their expression ends. -/
  | expectedRightParen
  /-- Brackets that are not closed where their elements end. -/
  | expectedRightBracket
  /-- A token after the end of the expression. -/
  | unexpectedToken (lexeme : String)
  /-- More nesting than the limit admits. -/
  | tooDeep (limit : Nat)
  /-- An expression that is no condition. -/
  | notACondition
deriving DecidableEq, Repr

/-- The wording of a fault. -/
def ParseFault.message : ParseFault → String
  | .expectedExpression got => s!"Expected expression, got '{got}'"
  | .expectedRightParen => "Expected ')' after expression"
  | .expectedRightBracket => "Expected ']' after list elements"
  | .unexpectedToken lexeme => s!"Unexpected token: '{lexeme}'"
  | .tooDeep limit => s!"Maximum nesting depth of {limit} exceeded"
  | .notACondition => "Expression must be a binary operation or a group"

/-- A fault and the place of the token at which it shows. -/
structure ParseError where
  /-- What is wrong. -/
  fault : ParseFault
  /-- Where. -/
  position : Position
deriving DecidableEq, Repr

/-! ## The grammar -/

namespace Grammar

/-- **What reading gives**: a result and the tokens after it, or what is
wrong, with the tokens and the room at that place. -/
inductive Outcome (α : Type) where
  | ok (value : α) (after : List Token)
  | failed (error : ParseError) (after : List Token) (room : Nat)

/-- Whether an outcome leaves fewer tokens than a bound if it is a
success. -/
def Outcome.Within {α : Type} (bound : Nat) : Outcome α → Prop
  | .ok _ after => after.length < bound
  | .failed .. => True

theorem Outcome.Within.mono {α : Type} {m n : Nat} {o : Outcome α} (h : o.Within m)
    (hmn : m ≤ n) : o.Within n := by
  cases o with
  | ok v after => exact Nat.lt_of_lt_of_le h hmn
  | failed e after room => trivial

/-- An outcome that leaves fewer tokens than a bound. -/
abbrev Bounded (α : Type) (bound : Nat) := { o : Outcome α // o.Within bound }

/-- A failure leaves what it leaves. -/
def fail {α : Type} {bound : Nat} (fault : ParseFault) (position : Position)
    (after : List Token) (room : Nat) : Bounded α bound :=
  ⟨.failed ⟨fault, position⟩ after room, trivial⟩

/-- What does not change while a query is read. -/
structure Setting where
  /-- How deeply a query may nest. -/
  limit : Nat
  /-- The end token. -/
  stop : Token

/-- The token at the front, or the end token. -/
def Setting.front (g : Setting) (tokens : List Token) : Token := tokens.headD g.stop

/-- The place of the token at the front. -/
def Setting.place (g : Setting) (tokens : List Token) : Position := (g.front tokens).span.start

/-- The name that the token of a name carries. -/
def fieldName (t : Token) : String :=
  match t.value with
  | .string name => name
  | _ => Text.lowercase t.lexeme

/-- The number of rules between a rule and the atoms, so that every rule
stands above those that it starts with. -/
def height : Option Level → Nat
  | some level => level.rank
  | none => 0

theorem height_tighter (level : Level) : height level.tighter < level.rank := by
  cases level <;> decide

theorem height_le (r : Option Level) : height r ≤ 5 := by
  cases r with
  | none => decide
  | some level => cases level <;> decide

mutual

/-- **Reads an expression at a level, or an atom.** -/
def read (g : Setting) (room : Nat) (level : Option Level) (tokens : List Token) :
    Bounded Expr tokens.length :=
  match level with
  | some level =>
    match read g room level.tighter tokens with
    | ⟨.failed e after r, _⟩ => ⟨.failed e after r, trivial⟩
    | ⟨.ok left after, h⟩ =>
      let ⟨o, ho⟩ := chain g room level left after
      ⟨o, ho.mono h⟩
  | none =>
    match tokens with
    | [] => fail (.expectedExpression g.stop.lexeme) (g.place []) [] room
    | t :: rest =>
      if t.kind.isLiteral then ⟨.ok (.literal t.value t.span) rest, Nat.lt_succ_self _⟩
      else if t.kind = .identifier then
        ⟨.ok (.identifier (fieldName t) t.span) rest, Nat.lt_succ_self _⟩
      else if t.kind = .leftParen then
        match room with
        | 0 => fail (.tooDeep g.limit) (g.place rest) rest 0
        | room + 1 =>
          match read g room (some .or) rest with
          | ⟨.failed e after r, _⟩ => ⟨.failed e after r, trivial⟩
          | ⟨.ok body after, h⟩ =>
            match after, h with
            | close :: after, h =>
              if close.kind = .rightParen then
                ⟨.ok (.group body (t.span.through close.span)) after, by
                  simp only [Outcome.Within, List.length_cons] at h ⊢; omega⟩
              else fail .expectedRightParen (g.place (close :: after)) (close :: after) room
            | [], _ => fail .expectedRightParen (g.place []) [] room
      else if t.kind = .leftBracket then
        match room with
        | 0 => fail (.tooDeep g.limit) (g.place rest) rest 0
        | room + 1 =>
          match rest with
          | close :: after =>
            if close.kind = .rightBracket then
              ⟨.ok (.list [] (t.span.through close.span)) after, by
                simp only [Outcome.Within, List.length_cons]; omega⟩
            else
              match readElements g room (close :: after) with
              | ⟨.failed e after r, _⟩ => ⟨.failed e after r, trivial⟩
              | ⟨.ok elements after, h⟩ =>
                match after, h with
                | close :: after, h =>
                  if close.kind = .rightBracket then
                    ⟨.ok (.list elements (t.span.through close.span)) after, by
                      simp only [Outcome.Within, List.length_cons] at h ⊢; omega⟩
                  else
                    fail .expectedRightBracket (g.place (close :: after)) (close :: after) room
                | [], _ => fail .expectedRightBracket (g.place []) [] room
          | [] => fail (.expectedExpression g.stop.lexeme) (g.place []) [] room
      else fail (.expectedExpression t.lexeme) t.span.start (t :: rest) room
termination_by (room, height level, tokens.length)
decreasing_by
  · exact Prod.Lex.right _ (Prod.Lex.left _ _ (height_tighter level))
  · exact Prod.Lex.right _ (Prod.Lex.left _ _ (by cases level <;> decide))
  · decreasing_tactic
  · decreasing_tactic

/-- **Reads the links of a chain** whose part so far is `left`. -/
def chain (g : Setting) (room : Nat) (level : Level) (left : Expr) (tokens : List Token) :
    Bounded Expr (tokens.length + 1) :=
  match tokens with
  | [] => ⟨.ok left [], Nat.lt_succ_self _⟩
  | t :: rest =>
    match t.kind.operatorAt level with
    | none => ⟨.ok left (t :: rest), Nat.lt_succ_self _⟩
    | some op =>
      match room with
      | 0 => fail (.tooDeep g.limit) (g.place rest) rest 0
      | room + 1 =>
        match read g room level.tighter rest with
        | ⟨.failed e after r, _⟩ => ⟨.failed e after r, trivial⟩
        | ⟨.ok right after, h⟩ =>
          if level.chains then
            let ⟨o, ho⟩ := chain g room level (.join op left right) after
            ⟨o, ho.mono (by simp only [Outcome.Within, List.length_cons] at h ⊢; omega)⟩
          else
            ⟨.ok (.join op left right) after, by
              simp only [Outcome.Within, List.length_cons] at h ⊢; omega⟩
termination_by (room, 0, tokens.length)

/-- **Reads the elements of a list**, up to the first that no comma
follows. -/
def readElements (g : Setting) (room : Nat) (tokens : List Token) :
    Bounded (List Expr) tokens.length :=
  match read g room (some .or) tokens with
  | ⟨.failed e after r, _⟩ => ⟨.failed e after r, trivial⟩
  | ⟨.ok first after, h⟩ =>
    match after, h with
    | [], h => ⟨.ok [first] [], h⟩
    | t :: after, h =>
      if t.kind = .comma then
        match readElements g room after with
        | ⟨.failed e after r, _⟩ => ⟨.failed e after r, trivial⟩
        | ⟨.ok others after', h'⟩ => ⟨.ok (first :: others) after', by
            simp only [Outcome.Within, List.length_cons] at h h' ⊢; omega⟩
      else ⟨.ok [first] (t :: after), h⟩
termination_by (room, 6, tokens.length)
decreasing_by
  · exact Prod.Lex.right _ (Prod.Lex.left _ _ (by decide))
  · exact Prod.Lex.right _ (Prod.Lex.right _ (by
      simp only [Outcome.Within, List.length_cons] at h; omega))

end

end Grammar

/-! ## Parsers -/

/-- **A parser**: the tokens left before the end, the end token, the limit
for nesting, and how much of that is left. -/
structure Parser where
  /-- How deeply a query may nest. -/
  limit : Nat
  /-- How much deeper the next expression may nest. -/
  room : Nat
  /-- The tokens left before the end. -/
  rest : List Token
  /-- The end token. -/
  stop : Token

namespace Parser

/-- How deeply a query may nest unless something else is asked for. -/
def defaultLimit : Nat := 256

/-- Whether a token is no end token. -/
def isInner (t : Token) : Bool := t.kind != .eof

/-- **The parser of some tokens.** Nothing after the first end token counts;
without one, an end token is put where the last token ends. -/
def ofTokens (limit : Nat) (tokens : List Token) : Parser where
  limit := limit
  room := limit
  rest := tokens.takeWhile isInner
  stop := (tokens.find? (!isInner ·)).getD
    (.eofAt ((tokens.getLast?.map (·.span.stop)).getD .start))

/-- What stays the same while a parser reads. -/
def setting (p : Parser) : Grammar.Setting := ⟨p.limit, p.stop⟩

/-- **Reads one expression up to the end**, and gives the parser after
it. -/
def parse (p : Parser) : Except ParseError Expr × Parser :=
  match (Grammar.read p.setting p.room (some .or) p.rest).val with
  | .failed e after room => (.error e, { p with rest := after, room := room })
  | .ok e [] => (.ok e, { p with rest := [] })
  | .ok _ (t :: after) =>
    (.error ⟨.unexpectedToken t.lexeme, t.span.start⟩, { p with rest := t :: after })

/-- Reads one expression up to the end that must be a condition. -/
def parseQuery (p : Parser) : Except ParseError Expr × Parser :=
  match p.parse with
  | (.ok e, p) =>
    (if e.isCondition then .ok e else .error ⟨.notACondition, e.span.start⟩, p)
  | failure => failure

end Parser

end CardQuery
