/-!
# Operators

The binary operators of the query language, grouped by what they do, and the
five levels at which the grammar reads them. An operator is exactly one
token, and its level alone decides how tightly it binds.
-/

namespace CardQuery

/-- **The two kinds of equality.** Strict equality compares exactly, or by
containment on text fields. Loose equality looks for the words of the shorter
side in the longer one. -/
inductive EqualityMode where
  | strict
  | loose
deriving DecidableEq, Repr

/-- Comparisons by size. -/
inductive Relation where
  | greater
  | less
  | greaterEq
  | lessEq
deriving DecidableEq, Repr

/-- The operations on numbers. -/
inductive Arithmetic where
  | add
  | subtract
  | multiply
  | divide
  | modulo
deriving DecidableEq, Repr

/-- **The binary operators.** A negated operator is the denial of the plain
one of the same mode. -/
inductive Operator where
  /-- Equality of two operands. -/
  | equality (mode : EqualityMode) (negated : Bool)
  /-- Equality with some element of a list. -/
  | membership (mode : EqualityMode) (negated : Bool)
  /-- Comparison of two numbers by size. -/
  | relation (r : Relation)
  /-- Both sides hold. -/
  | and
  /-- At least one side holds. -/
  | or
  /-- Arithmetic on two numbers. -/
  | arithmetic (op : Arithmetic)
deriving DecidableEq, Repr

/-- **The levels of the grammar**, from the loosest to the tightest. -/
inductive Level where
  | or
  | and
  | comparison
  | additive
  | multiplicative
deriving DecidableEq, Repr

namespace Level

/-- The next tighter level, or nothing past the tightest: what is left then
are literals, names and brackets. -/
def tighter : Level → Option Level
  | .or => some .and
  | .and => some .comparison
  | .comparison => some .additive
  | .additive => some .multiplicative
  | .multiplicative => none

/-- Whether operators of the level may follow one another without brackets.
Comparisons may not. -/
def chains : Level → Bool
  | .comparison => false
  | _ => true

/-- How many levels are at least as tight. -/
def rank : Level → Nat
  | .or => 5
  | .and => 4
  | .comparison => 3
  | .additive => 2
  | .multiplicative => 1

end Level

namespace Operator

/-- How an operator is written. -/
def symbol : Operator → String
  | .equality .strict false => "=="
  | .equality .loose false => "="
  | .equality .loose true => "!="
  | .equality .strict true => "!=="
  | .membership .strict false => "??"
  | .membership .strict true => "!??"
  | .membership .loose false => "?"
  | .membership .loose true => "!?"
  | .relation .greater => ">"
  | .relation .less => "<"
  | .relation .greaterEq => ">="
  | .relation .lessEq => "<="
  | .and => "&"
  | .or => "|"
  | .arithmetic .add => "+"
  | .arithmetic .subtract => "-"
  | .arithmetic .multiply => "*"
  | .arithmetic .divide => "/"
  | .arithmetic .modulo => "%"

/-- **The level at which the grammar reads an operator.** -/
def level : Operator → Level
  | .or => .or
  | .and => .and
  | .equality _ _ | .membership _ _ | .relation _ => .comparison
  | .arithmetic .add | .arithmetic .subtract => .additive
  | .arithmetic _ => .multiplicative

/-- Whether an operator computes a number. -/
def isArithmetic : Operator → Bool
  | .arithmetic _ => true
  | _ => false

/-- Whether an operator joins conditions. -/
def isLogical : Operator → Bool
  | .and | .or => true
  | _ => false

/-- Whether an operator takes a list on its right. -/
def isMembership : Operator → Bool
  | .membership _ _ => true
  | _ => false

/-- Every operator. -/
def all : List Operator := [
  .equality .strict false, .equality .loose false, .equality .loose true,
  .equality .strict true, .membership .strict false, .membership .strict true,
  .membership .loose false, .membership .loose true, .relation .greater, .relation .less,
  .relation .greaterEq, .relation .lessEq, .and, .or, .arithmetic .add,
  .arithmetic .subtract, .arithmetic .multiply, .arithmetic .divide, .arithmetic .modulo]

theorem mem_all (op : Operator) : op ∈ all := by
  match op with
  | .equality m n | .membership m n => cases m <;> cases n <;> decide
  | .relation r => cases r <;> decide
  | .and | .or => decide
  | .arithmetic a => cases a <;> decide

/-- The operator of a symbol. -/
def ofSymbol? (s : String) : Option Operator := all.find? (·.symbol == s)

end Operator

end CardQuery
