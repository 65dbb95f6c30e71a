import CardQuery.Query.Literal
import CardQuery.Query.Operator
import CardQuery.Query.Position

/-!
# Query trees

The tree of a query. Every node knows the span it was read from: a binary
node spans both operands, a group and a list include their brackets.

Two trees have the same shape if they differ in spans only. Literals are
compared as values there, so a tree that holds something that is not a
number does not even have its own shape.
-/

namespace CardQuery

/-- **The tree of a query.** -/
inductive Expr where
  /-- A literal value. -/
  | literal (value : Literal) (span : Span)
  /-- The value of a field, under its lowercase name. -/
  | identifier (name : String) (span : Span)
  /-- An operator between two operands. -/
  | binary (op : Operator) (left right : Expr) (span : Span)
  /-- An expression in parentheses. -/
  | group (body : Expr) (span : Span)
  /-- Expressions in brackets. -/
  | list (elements : List Expr) (span : Span)
deriving Repr

namespace Expr

/-- Where a node stands. -/
def span : Expr → Span
  | literal _ s | identifier _ s | binary _ _ _ s | group _ s | list _ s => s

/-- **Two operands joined by an operator.** The new node spans both. -/
def join (op : Operator) (left right : Expr) : Expr :=
  binary op left right (left.span.through right.span)

/-- Whether a node may stand at the top of a query that filters cards: only
an operator or a group makes a condition. -/
def isCondition : Expr → Bool
  | binary .. | group .. => true
  | _ => false

/-! ## Comparing trees -/

mutual

/-- **Whether two trees differ in spans only.** -/
def sameShape : Expr → Expr → Bool
  | literal a _, literal b _ => a.eq b
  | identifier a _, identifier b _ => a == b
  | binary f a b _, binary g c d _ => f == g && a.sameShape c && b.sameShape d
  | group a _, group b _ => a.sameShape b
  | list as _, list bs _ => sameShapes as bs
  | _, _ => false

/-- Whether two lists of trees are as long as one another and agree in
shape. -/
def sameShapes : List Expr → List Expr → Bool
  | [], [] => true
  | a :: as, b :: bs => a.sameShape b && sameShapes as bs
  | _, _ => false

end

mutual

/-- The nodes of a tree with their depth, each before its children, the
children in order. -/
def nodesFrom (depth : Nat) : Expr → List (Nat × Expr)
  | literal v s => [(depth, literal v s)]
  | identifier n s => [(depth, identifier n s)]
  | binary op a b s =>
    (depth, binary op a b s) :: (a.nodesFrom (depth + 1) ++ b.nodesFrom (depth + 1))
  | group a s => (depth, group a s) :: a.nodesFrom (depth + 1)
  | list as s => (depth, list as s) :: listNodesFrom (depth + 1) as

/-- The nodes of several trees that stand at one depth. -/
def listNodesFrom (depth : Nat) : List Expr → List (Nat × Expr)
  | [] => []
  | a :: as => a.nodesFrom depth ++ listNodesFrom depth as

end

/-- **The nodes of a tree**, parents first, each with its depth. -/
def nodes (e : Expr) : List (Nat × Expr) := e.nodesFrom 0

/-- The spans of the nodes of a tree, parents first. -/
def spans (e : Expr) : List Span := e.nodes.map fun node => node.2.span

/-- **Equality of trees**: the same shape, and every node in the same
place. -/
def eq (a b : Expr) : Bool := a.sameShape b && a.spans == b.spans

end Expr

end CardQuery
