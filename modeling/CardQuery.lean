import CardQuery.Main
import CardQuery.Evaluation.Matcher
import CardQuery.Card.Schema
import CardQuery.Query.Expr.Printer
import CardQuery.Query.Source
import CardQuery.Text.Folding
import CardQuery.Text.Property
import CardQuery.Text.Unmarked
import CardQuery.Proofs.Query.Tree
import CardQuery.Proofs.Query.Reading
import CardQuery.Proofs.Query.Grammar
import CardQuery.Proofs.Query.Nesting
import CardQuery.Proofs.Query.Viability
import CardQuery.Proofs.Evaluation.Remembering
import CardQuery.Proofs.Number.Bits
import CardQuery.Proofs.Number.Rounding
import CardQuery.Proofs.Number.Printing
import CardQuery.Proofs.Query.Writing
import CardQuery.Proofs.Text.Lowercase
import CardQuery.Proofs.Query.Lexing
import CardQuery.Proofs.Query.Relexing
import CardQuery.Proofs.Query.RoundTrip
import CardQuery.Proofs.Query.Slicing
import CardQuery.Proofs.Evaluation.Answer
import CardQuery.Proofs.Evaluation.Backs
import CardQuery.Proofs.Pattern.Search
import CardQuery.Proofs.Pattern.Language
import CardQuery.Proofs.Text.Folding
import CardQuery.Proofs.Pattern.Escaping
import CardQuery.Proofs.Pattern.Needle
import CardQuery.Proofs.Query.Depth
import CardQuery.Proofs.Query.Room
import CardQuery.Proofs.Query.Positions
import CardQuery.Proofs.Text.Words
import CardQuery.Proofs.Evaluation.Leaves
import CardQuery.Proofs.Evaluation.Symmetry
import CardQuery.Proofs.Pattern.Findable
import CardQuery.Proofs.Evaluation.Permissiveness
import CardQuery.Proofs.Evaluation.Sense
import CardQuery.Proofs.Evaluation.Filtering
import CardQuery.Proofs.Evaluation.Gaps
import CardQuery.Proofs.Evaluation.Junctions
import CardQuery.Proofs.Evaluation.Names
import CardQuery.Proofs.Query.Layout
import CardQuery.Proofs.Query.Resuming
import CardQuery.Proofs.Number.Leading
import CardQuery.Proofs.Number.Difference
import CardQuery.Proofs.Evaluation.Subtraction
import CardQuery.Proofs.Evaluation.Membership
import CardQuery.Proofs.Evaluation.Parentheses
import CardQuery.Proofs.Evaluation.Culprits
import CardQuery.Proofs.Evaluation.Blanks
import CardQuery.Proofs.Evaluation.Several
import CardQuery.Proofs.Number.Nearest
import CardQuery.Proofs.Number.Integers
import CardQuery.Proofs.Number.Numerals
import CardQuery.Proofs.Text.Unmarking
import CardQuery.Proofs.Evaluation.Accents
import CardQuery.Proofs.Text.Normalizing
import CardQuery.Proofs.Evaluation.Casing
import CardQuery.Proofs.Catalog
import CardQuery.Proofs.Card.Lookup
import CardQuery.Proofs.Card.Inferring
import CardQuery.Proofs.Query.Faults
import CardQuery.Proofs.Evaluation.Capacity
import CardQuery.Proofs.Query.Outline
import CardQuery.Proofs.Number.Commuting
import CardQuery.Proofs.Json.RoundTrip
import CardQuery.Proofs.Card.RoundTrip
import CardQuery.Proofs.Query.Slashes
import CardQuery.Proofs.Card.Conversion
