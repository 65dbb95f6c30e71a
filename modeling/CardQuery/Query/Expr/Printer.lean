import CardQuery.Number.Shortest
import CardQuery.Query.Expr

/-!
# Writing query trees

A tree has two written forms. As a query it is one line that reads back as
the same tree: blanks are normalised, strings stand in double quotes, and
groups keep their parentheses, so no parentheses ever have to be added. As
an outline every node has a line of its own, indented by its depth.
-/

namespace CardQuery

/-- A character of a string literal as it is written between double
quotes. -/
def Literal.escape : Char → List Char
  | '"' => ['\\', '"']
  | '\\' => ['\\', '\\']
  | '\n' => ['\\', 'n']
  | '\r' => ['\\', 'r']
  | '\t' => ['\\', 't']
  | c => [c]

/-- **The text of a literal in a query.** -/
def Literal.toQuery : Literal → String
  | .null => "null"
  | .boolean true => "true"
  | .boolean false => "false"
  | .number x => Number.plainText x
  | .string s => .ofList ('"' :: s.toList.flatMap Literal.escape ++ ['"'])
  | .regex source => "/" ++ source ++ "/"

namespace Expr

mutual

/-- **The text of a tree as a query.** -/
def toQuery : Expr → String
  | literal v _ => v.toQuery
  | identifier name _ => name
  | binary op a b _ => a.toQuery ++ " " ++ op.symbol ++ " " ++ b.toQuery
  | group a _ => "(" ++ a.toQuery ++ ")"
  | list as _ => "[" ++ ", ".intercalate (toQueries as) ++ "]"

/-- The texts of several trees. -/
def toQueries : List Expr → List String
  | [] => []
  | a :: as => a.toQuery :: toQueries as

end

/-- What the line of a node says about it. -/
def label : Expr → String
  | literal v _ => "Literal " ++ v.toQuery
  | identifier name _ => "Identifier " ++ name
  | binary op _ _ _ => "Binary " ++ op.symbol
  | group _ _ => "Group"
  | list _ _ => "List"

/-- The indentation of a depth. -/
def indent (depth : Nat) : String := .ofList (List.replicate (2 * depth) ' ')

/-- The lines of the outline of a tree, one for every node. -/
def treeLines (e : Expr) : List String :=
  e.nodes.map fun (depth, node) => indent depth ++ node.label

/-- **The outline of a tree.** -/
def toTree (e : Expr) : String := "\n".intercalate e.treeLines

end Expr

end CardQuery
