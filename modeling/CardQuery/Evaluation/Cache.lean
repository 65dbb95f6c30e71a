import CardQuery.Catalog
import CardQuery.Pattern.Needle

/-!
# Remembered patterns

To search many cards for the same words is to make the same pattern many
times, so patterns are remembered under the text they were made from. What
is remembered is what would be made again, so remembering changes no
answer. A store that has grown beyond its capacity is emptied before the
next pattern is put in.
-/

namespace CardQuery

/-- Patterns under the texts they were made from. -/
abbrev PatternStore := Catalog Pattern

/-- Puts a pattern into a store, which is emptied first if it holds more than
its capacity. -/
def PatternStore.put (store : PatternStore) (capacity : Nat) (text : String)
    (p : Pattern) : PatternStore :=
  Catalog.insert text p (if store.length > capacity then [] else store)

/-- **The patterns that are remembered.** -/
structure Cache where
  /-- The patterns of needles. -/
  needles : PatternStore
  /-- The patterns of regular expressions, under their text as written. -/
  literals : PatternStore

namespace Cache

/-- Nothing remembered. -/
def empty : Cache := ⟨[], []⟩

/-- How many patterns are remembered. -/
def size (c : Cache) : Nat := c.needles.length + c.literals.length

section Compiler

variable [PatternCompiler]

/-- **The pattern that finds a needle**, if its text makes one. -/
def needle? (gap capacity : Nat) (text : String) (c : Cache) : Option Pattern × Cache :=
  match c.needles.get? text with
  | some p => (some p, c)
  | none =>
    match (Needle.ofText? text gap).map Needle.pattern with
    | none => (none, c)
    | some p => (some p, { c with needles := c.needles.put capacity text p })

/-- The pattern of a regular expression as it is written between slashes. -/
def compile? (source : String) : Option Pattern :=
  PatternCompiler.compile? (Pattern.unescapeSlashes source.toList)

/-- **The pattern of a regular expression**, if it is one. -/
def literal? (capacity : Nat) (source : String) (c : Cache) : Option Pattern × Cache :=
  match c.literals.get? source with
  | some p => (some p, c)
  | none =>
    match compile? source with
    | none => (none, c)
    | some p => (some p, { c with literals := c.literals.put capacity source p })

end Compiler

end Cache

end CardQuery
