import CardQuery.Pattern.Reader

/-!
# The compiler of patterns

A pattern is compiled into an automaton before anything is searched with it,
and an automaton that would become too large is refused. How large it becomes
is for the compiler to say. A compiler is therefore an argument of all that
searches, and what is proved of searching is proved for every compiler.

A compiler sees the sets of characters in a pattern and not how they were
written, so it does not tell two needles apart that differ in case only.

The standard compiler, with which programs run, reads regular expressions as
`Pattern.ofRegex?` does, and refuses what it estimates to take more than ten
mebibytes. Two words are accepted by it up to a gap of about ten thousand.
-/

namespace CardQuery

/-! ## Sizes -/

namespace Pattern

/-- The size of the automaton of a set of characters. One that reaches the last
of all characters has to take apart what is written in one to four bytes, and
any other is counted as a letter in both cases. -/
def setSize (accepts : Char → Bool) : Nat := if accepts (Char.ofNat 0x10ffff) then 1000 else 80

/-- **An estimate of the size of the automaton of a pattern**, in bytes. What may
be repeated is there as often as it may be repeated, with a fork each time. -/
def size : Pattern → Nat
  | .empty => 32
  | .char accepts => setSize accepts
  | .look _ => 32
  | .seq p q => p.size + q.size
  | .alt p q => 40 + p.size + q.size
  | .iterate p min none => (min + 1) * (40 + p.size)
  | .iterate p _ (some max) => 32 + max * (40 + p.size)

/-- The greatest size of an automaton, which is ten mebibytes. -/
def sizeLimit : Nat := 10 * Nat.pow 2 20

end Pattern

/-! ## Compilers -/

/-- **A compiler of patterns.** -/
class PatternCompiler where
  /-- Whether a pattern that was put together from words is compiled. -/
  accepts : Pattern → Bool
  /-- The pattern that a regular expression is compiled to, unless it is
  refused. -/
  compile? : List Char → Option Pattern

/-- **The standard compiler.** -/
instance PatternCompiler.standard : PatternCompiler where
  accepts p := p.size ≤ Pattern.sizeLimit
  compile? source := (Pattern.ofRegex? source).filter (·.size ≤ Pattern.sizeLimit)

end CardQuery
