import CardQuery.Json.Basic
import CardQuery.Number.Shortest

/-!
# Writing JSON

A value is written on one line without blanks, or over several lines with an
indentation of two. Members stand in the order of their names. A string
escapes what it has to and nothing else.

A double has the fewest digits that read back. It is written in full from
`1e-5` up to `1e16`, with at least one place, and with an exponent beyond.
-/

namespace CardQuery

/-! ## Numbers -/

/-- The least and the greatest exponent of a number that is written in
full. -/
def JsonNumber.inFull (e : Int) : Bool := -5 ≤ e && e < 16

/-- The text of a decimal. -/
def JsonNumber.decimalText (d : Number.Decimal) : List Char :=
  let digits := Number.digitChars d.digits
  let e := d.exponent + digits.length - 1
  if JsonNumber.inFull e then
    if d.exponent ≥ 0 then d.plain ++ ['.', '0'] else d.plain
  else
    let fraction := if digits.tail.isEmpty then [] else '.' :: digits.tail
    let sign := if e < 0 then '-' else '+'
    digits.take 1 ++ fraction ++ 'e' :: sign :: Number.digitChars e.natAbs

/-- **The text of a number.** What no JSON text can hold is written as
`null`. -/
def JsonNumber.text : JsonNumber → String
  | .integer n => toString n
  | .float x =>
    if !x.isFinite then "null"
    else
      let body := JsonNumber.decimalText ((Number.magnitude x).shortest .toEven)
      .ofList (if Number.isNegative x then '-' :: body else body)

/-! ## Strings -/

/-- A control character in hexadecimal. -/
def JsonWriter.hexEscape (n : Nat) : List Char :=
  ['\\', 'u', '0', '0', Nat.digitChar (n / 16), Nat.digitChar (n % 16)]

/-- A character as it is written between quotation marks. -/
def JsonWriter.escape (c : Char) : List Char :=
  match c with
  | '"' => ['\\', '"']
  | '\\' => ['\\', '\\']
  | '\x08' => ['\\', 'b']
  | '\x0c' => ['\\', 'f']
  | '\n' => ['\\', 'n']
  | '\r' => ['\\', 'r']
  | '\t' => ['\\', 't']
  | c => if c.toNat < 0x20 then JsonWriter.hexEscape c.toNat else [c]

/-- **A text between quotation marks.** -/
def JsonWriter.quote (s : String) : String :=
  .ofList ('"' :: s.toList.flatMap JsonWriter.escape ++ ['"'])

/-! ## Values -/

namespace Json

mutual

/-- **The text of a value on one line.** -/
def compact : Json → String
  | null => "null"
  | boolean true => "true"
  | boolean false => "false"
  | number n => n.text
  | string s => JsonWriter.quote s
  | array items => "[" ++ ",".intercalate (compactItems items) ++ "]"
  | object members => "\x7b" ++ ",".intercalate (compactMembers members) ++ "\x7d"

/-- The texts of some values. -/
def compactItems : List Json → List String
  | [] => []
  | v :: rest => v.compact :: compactItems rest

/-- The texts of some members. -/
def compactMembers : List (String × Json) → List String
  | [] => []
  | (name, v) :: rest => (JsonWriter.quote name ++ ":" ++ v.compact) :: compactMembers rest

end

/-- The start of a line at a depth. -/
def newline (depth : Nat) : String := .ofList ('\n' :: List.replicate (2 * depth) ' ')

/-- Some texts between brackets, each on a line of its own. -/
def bracketed (opening closing : String) (depth : Nat) (texts : List String) : String :=
  if texts.isEmpty then opening ++ closing
  else
    opening ++ newline (depth + 1) ++ ("," ++ newline (depth + 1)).intercalate texts ++
      newline depth ++ closing

mutual

/-- The text of a value at a depth, over several lines. -/
def prettyAt (depth : Nat) : Json → String
  | null => "null"
  | boolean true => "true"
  | boolean false => "false"
  | number n => n.text
  | string s => JsonWriter.quote s
  | array items => bracketed "[" "]" depth (prettyItems (depth + 1) items)
  | object members => bracketed "\x7b" "\x7d" depth (prettyMembers (depth + 1) members)

/-- The texts of some values at a depth. -/
def prettyItems (depth : Nat) : List Json → List String
  | [] => []
  | v :: rest => v.prettyAt depth :: prettyItems depth rest

/-- The texts of some members at a depth. -/
def prettyMembers (depth : Nat) : List (String × Json) → List String
  | [] => []
  | (name, v) :: rest =>
    (JsonWriter.quote name ++ ": " ++ v.prettyAt depth) :: prettyMembers depth rest

end

/-- **The text of a value over several lines.** -/
def pretty (v : Json) : String := v.prettyAt 0

end Json

end CardQuery
