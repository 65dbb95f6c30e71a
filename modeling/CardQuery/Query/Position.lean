/-!
# Places in a query

A position counts characters, and a span is the stretch of text between two
positions. Positions are never computed from an index: a position moves
along the characters that are read, one `step` each, so a line ends exactly
where a newline was read.
-/

namespace CardQuery

/-- A place in the text of a query. -/
structure Position where
  /-- How many characters stand before it. -/
  offset : Nat
  /-- The line, counted from one. -/
  line : Nat
  /-- The column in the line, counted from one. -/
  column : Nat
deriving DecidableEq, Repr

namespace Position

/-- The place of the first character. -/
def start : Position := ⟨0, 1, 1⟩

/-- The place after one more character. Only a newline ends a line. -/
def step (p : Position) (c : Char) : Position :=
  if c = '\n' then ⟨p.offset + 1, p.line + 1, 1⟩ else ⟨p.offset + 1, p.line, p.column + 1⟩

/-- **The place after some more characters.** -/
def after (p : Position) (cs : List Char) : Position := cs.foldl step p

/-- A position as messages name it. -/
def describe (p : Position) : String := s!"line {p.line}, column {p.column}"

@[simp] theorem after_nil (p : Position) : p.after [] = p := rfl

@[simp] theorem after_cons (p : Position) (c : Char) (cs : List Char) :
    p.after (c :: cs) = (p.step c).after cs := rfl

theorem after_append (p : Position) (cs ds : List Char) :
    p.after (cs ++ ds) = (p.after cs).after ds := by
  simp [after, List.foldl_append]

@[simp] theorem offset_step (p : Position) (c : Char) : (p.step c).offset = p.offset + 1 := by
  unfold step
  split <;> rfl

@[simp] theorem offset_after (p : Position) (cs : List Char) :
    (p.after cs).offset = p.offset + cs.length := by
  induction cs generalizing p with
  | nil => rfl
  | cons c cs ih => simp [ih]; omega

end Position

/-- The text from one position up to another. -/
structure Span where
  /-- The place of the first character. -/
  start : Position
  /-- The place after the last one. -/
  stop : Position
deriving DecidableEq, Repr

namespace Span

/-- The empty span at a position. -/
def point (p : Position) : Span := ⟨p, p⟩

/-- **The span from the start of one span to the end of another.** -/
def through (a b : Span) : Span := ⟨a.start, b.stop⟩

/-- How many characters a span holds. -/
def length (s : Span) : Nat := s.stop.offset - s.start.offset

/-- Whether a span holds nothing. -/
def isEmpty (s : Span) : Bool := s.length == 0

end Span

end CardQuery
