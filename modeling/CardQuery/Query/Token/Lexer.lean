import CardQuery.Number.Reading
import CardQuery.Query.Token
import CardQuery.Text.Letter
import CardQuery.Text.Lowercase

/-!
# Cutting a query into tokens

A query is read from left to right, one *cut* at a time: a cut takes some
characters off the front of what is left and says what they are, or what is
wrong with them. Nothing else is ever lost, so the lexemes and the blanks
between them make up the query.

What a cut is depends on what is left and on one bit of history: whether a
value has to follow, in which case a slash opens a regular expression and is
no division. A lexer remembers the last kind it produced for that bit.
A failed cut changes nothing but the place in the text, so a lexer may be
asked to go on after a failure.
-/

namespace CardQuery

/-- What can be wrong with the text of a query. -/
inductive LexFault where
  /-- A quotation mark that nothing closes. -/
  | unterminatedString
  /-- A slash that opens a regular expression that nothing closes. -/
  | unterminatedRegex
  /-- A character that starts no token. -/
  | unexpected (c : Char)
deriving DecidableEq, Repr

/-- The wording of a fault. -/
def LexFault.message : LexFault → String
  | .unterminatedString => "Unterminated string literal"
  | .unterminatedRegex => "Unterminated regex literal"
  | .unexpected c => s!"Unexpected character: '{c}'"

/-- A fault and the place where the faulty token would start. -/
structure LexError where
  /-- What is wrong. -/
  fault : LexFault
  /-- Where. -/
  position : Position
deriving DecidableEq, Repr

namespace Lexer

/-! ## Single cuts -/

/-- What is taken off the front of a text. -/
structure Cut where
  /-- The characters taken. -/
  lexeme : List Char
  /-- What is left. -/
  rest : List Char
  /-- What the characters are, or what is wrong with them. -/
  outcome : Except LexFault (TokenKind × Literal)

/-- The blanks of a query, which part tokens and mean nothing. -/
def isGap (c : Char) : Bool := c == ' ' || c == '\t' || c == '\r' || c == '\n'

/-- What may start the name of a field. -/
def startsName (c : Char) : Bool := Text.isLetter c || c == '_'

/-- What may stand inside the name of a field. -/
def inName (c : Char) : Bool := startsName c || Number.isDigit c || c == ':'

/-- **Splits a text at the first delimiter that no backslash escapes**: what
stands before it, and what follows it. A backslash escapes whatever comes
next. -/
def splitAtDelimiter (close : Char) : List Char → Option (List Char × List Char)
  | [] => none
  | '\\' :: [] => none
  | '\\' :: c :: rest =>
    (splitAtDelimiter close rest).map fun (body, after) => ('\\' :: c :: body, after)
  | c :: rest =>
    if c = close then some ([], rest)
    else (splitAtDelimiter close rest).map fun (body, after) => (c :: body, after)

/-- The character that a backslash and a character stand for. Three letters
stand for control characters, everything else for itself. -/
def escaped : Char → Char
  | 'n' => '\n'
  | 't' => '\t'
  | 'r' => '\r'
  | c => c

/-- The text of a string literal, its escapes resolved. -/
def unescape : List Char → List Char
  | '\\' :: c :: rest => escaped c :: unescape rest
  | c :: rest => c :: unescape rest
  | [] => []

/-- Takes a literal that a delimiter opens and closes, or all that is left if
nothing closes it. -/
def cutDelimited (close : Char) (rest : List Char) (fault : LexFault)
    (token : List Char → TokenKind × Literal) : Cut :=
  match splitAtDelimiter close rest with
  | some (body, after) => ⟨close :: body ++ [close], after, .ok (token body)⟩
  | none => ⟨close :: rest, [], .error fault⟩

/-- The token of a string literal. -/
def stringToken (body : List Char) : TokenKind × Literal :=
  (.string, .string (.ofList (unescape body)))

/-- The token of a regular expression, its escapes kept. -/
def regexToken (body : List Char) : TokenKind × Literal := (.regex, .regex (.ofList body))

/-- The number that some digits with an optional minus write. -/
def numberValue : List Char → Float
  | '-' :: digits => -Number.nearest (Number.digitsValue digits) 0
  | digits => Number.nearest (Number.digitsValue digits) 0

/-- Takes a number: a first character, which may be a minus, and the digits
after it. -/
def cutNumber (first : Char) (rest : List Char) : Cut :=
  let lexeme := first :: rest.takeWhile Number.isDigit
  ⟨lexeme, rest.dropWhile Number.isDigit, .ok (.number, .number (numberValue lexeme))⟩

/-- The token of a word: one of the three named literals in any case, or the
name of a field in lowercase. -/
def wordToken (word : List Char) : TokenKind × Literal :=
  match Text.lowercase (.ofList word) with
  | "true" => (.trueWord, .boolean true)
  | "false" => (.falseWord, .boolean false)
  | "null" => (.nullWord, .null)
  | name => (.identifier, .string name)

/-- Takes a word. -/
def cutWord (first : Char) (rest : List Char) : Cut :=
  let lexeme := first :: rest.takeWhile inName
  ⟨lexeme, rest.dropWhile inName, .ok (wordToken lexeme)⟩

/-- **Operators and brackets, the longer ones first.** -/
def punctuation : List (List Char × TokenKind) := [
  (['!', '?', '?'], .operator (.membership .strict true)),
  (['!', '=', '='], .operator (.equality .strict true)),
  (['!', '?'], .operator (.membership .loose true)),
  (['!', '='], .operator (.equality .loose true)),
  (['=', '='], .operator (.equality .strict false)),
  (['?', '?'], .operator (.membership .strict false)),
  (['>', '='], .operator (.relation .greaterEq)),
  (['<', '='], .operator (.relation .lessEq)),
  (['='], .operator (.equality .loose false)),
  (['?'], .operator (.membership .loose false)),
  (['>'], .operator (.relation .greater)),
  (['<'], .operator (.relation .less)),
  (['&'], .operator .and),
  (['|'], .operator .or),
  (['+'], .operator (.arithmetic .add)),
  (['-'], .operator (.arithmetic .subtract)),
  (['*'], .operator (.arithmetic .multiply)),
  (['/'], .operator (.arithmetic .divide)),
  (['%'], .operator (.arithmetic .modulo)),
  (['('], .leftParen),
  ([')'], .rightParen),
  (['['], .leftBracket),
  ([']'], .rightBracket),
  ([','], .comma)]

/-- Takes the longest operator or bracket. A character that starts none is
taken alone, and is a fault. -/
def cutPunctuation (first : Char) (rest : List Char) : Cut :=
  match punctuation.find? fun entry => entry.1.isPrefixOf (first :: rest) with
  | some (symbol, kind) =>
    ⟨first :: rest.take (symbol.length - 1), rest.drop (symbol.length - 1), .ok (kind, .null)⟩
  | none => ⟨[first], rest, .error (.unexpected first)⟩

/-- **The cut at the front of a text that does not start with a blank.** -/
def cut (valueFollows : Bool) (first : Char) (rest : List Char) : Cut :=
  if first = '"' ∨ first = '\'' then
    cutDelimited first rest .unterminatedString stringToken
  else if first = '/' ∧ valueFollows = true then
    cutDelimited '/' rest .unterminatedRegex regexToken
  else if Number.isDigit first ∨ (first = '-' ∧ rest.head?.any Number.isDigit) then
    cutNumber first rest
  else if startsName first then cutWord first rest
  else cutPunctuation first rest

theorem splitAtDelimiter_append {close : Char} {cs body after : List Char}
    (h : splitAtDelimiter close cs = some (body, after)) : body ++ close :: after = cs := by
  fun_induction splitAtDelimiter close cs generalizing body after with
  | case1 => simp at h
  | case2 => simp at h
  | case3 c rest ih =>
    obtain ⟨⟨b, a⟩, hs, hp⟩ := Option.map_eq_some_iff.1 h
    cases hp
    simp [ih hs]
  | case4 rest _ =>
    cases h
    rfl
  | case5 c rest _ _ hne ih =>
    obtain ⟨⟨b, a⟩, hs, hp⟩ := Option.map_eq_some_iff.1 h
    cases hp
    simp [ih hs]

/-- **A cut loses nothing**: what it takes and what it leaves make up the
text. -/
theorem lexeme_append_rest (v : Bool) (c : Char) (cs : List Char) :
    (cut v c cs).lexeme ++ (cut v c cs).rest = c :: cs := by
  unfold cut
  split
  · unfold cutDelimited
    split
    · next h => simp [splitAtDelimiter_append h]
    · simp
  split
  · next h =>
    unfold cutDelimited
    split
    · next hs => simp [splitAtDelimiter_append hs, h.1]
    · simp [h.1]
  split
  · simp [cutNumber]
  split
  · simp [cutWord]
  · unfold cutPunctuation
    split <;> simp

/-- A cut takes at least one character. -/
theorem lexeme_ne_nil (v : Bool) (c : Char) (cs : List Char) : (cut v c cs).lexeme ≠ [] := by
  unfold cut
  split
  · unfold cutDelimited
    split <;> simp
  split
  · unfold cutDelimited
    split <;> simp
  split
  · simp [cutNumber]
  split
  · simp [cutWord]
  · unfold cutPunctuation
    split <;> simp

/-- What a cut leaves is shorter. -/
theorem length_rest_cut (v : Bool) (c : Char) (cs : List Char) :
    (cut v c cs).rest.length < (c :: cs).length := by
  have happ := congrArg List.length (lexeme_append_rest v c cs)
  have hne := List.length_pos_iff.2 (lexeme_ne_nil v c cs)
  rw [List.length_append] at happ
  omega

end Lexer

/-! ## The lexer -/

/-- **A lexer**: what is left of the query, where that starts, and the kind of
the last token produced. -/
structure Lexer where
  /-- What is left of the query. -/
  rest : List Char
  /-- The place of the first character left. -/
  position : Position
  /-- The kind of the last token, if there was one. -/
  previous : Option TokenKind

namespace Lexer

/-- The lexer at the start of a query. -/
def ofQuery (source : String) : Lexer := ⟨source.toList, .start, none⟩

/-- Whether a value has to follow: at the start, and after the kinds that
call for one. -/
def valueFollows (l : Lexer) : Bool := l.previous.all TokenKind.opensValue

/-- The lexer past the blanks in front of it. -/
def skipGaps (l : Lexer) : Lexer :=
  { l with
    rest := l.rest.dropWhile isGap
    position := l.position.after (l.rest.takeWhile isGap) }

/-- **The next token, or what is wrong at its place, and the lexer after
it.** At the end every further call gives the empty end token. -/
def next (l : Lexer) : Except LexError Token × Lexer :=
  let l := l.skipGaps
  match l.rest with
  | [] => (.ok (.eofAt l.position), { l with previous := some .eof })
  | first :: rest =>
    let c := cut l.valueFollows first rest
    let stop := l.position.after c.lexeme
    match c.outcome with
    | .ok (kind, value) =>
      (.ok ⟨kind, .ofList c.lexeme, value, ⟨l.position, stop⟩⟩, ⟨c.rest, stop, some kind⟩)
    | .error fault => (.error ⟨fault, l.position⟩, ⟨c.rest, stop, l.previous⟩)

/-- The results of a number of calls, failures among them, and the lexer
after them. -/
def nextMany : Nat → Lexer → List (Except LexError Token) × Lexer
  | 0, l => ([], l)
  | n + 1, l =>
    let (first, l) := l.next
    let (others, l) := l.nextMany n
    (first :: others, l)

/-- Every call short of the end leaves less of the query. -/
theorem length_rest_next {l : Lexer} {t : Token} (h : l.next.1 = .ok t) (hk : t.kind ≠ .eof) :
    l.next.2.rest.length < l.rest.length := by
  have hgap : l.skipGaps.rest.length ≤ l.rest.length :=
    (List.dropWhile_sublist _).length_le
  unfold next at h ⊢
  simp only at h ⊢
  split at h
  · cases h
    simp [Token.eofAt] at hk
  · next c cs hrest =>
    have hcut := length_rest_cut l.skipGaps.valueFollows c cs
    rw [hrest] at hgap
    split at h <;> simp_all
    omega

/-- The tokens from a lexer on, up to the end token. -/
def tokens (l : Lexer) : Except LexError (List Token) :=
  match h : l.next.1 with
  | .error e => .error e
  | .ok t =>
    if hk : t.kind = .eof then .ok [t]
    else
      have := length_rest_next h hk
      match l.next.2.tokens with
      | .error e => .error e
      | .ok ts => .ok (t :: ts)
termination_by l.rest.length

end Lexer

/-- **The tokens of a query**, ending with the end token, or the first
fault. -/
def tokenize (source : String) : Except LexError (List Token) := (Lexer.ofQuery source).tokens

end CardQuery
