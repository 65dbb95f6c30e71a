import CardQuery.Proofs.Evaluation.Membership

/-!
# Parentheses that change nothing

Whatever stands in parentheses is evaluated as if they were not there, as a condition,
as a value and as an operand. Two places look at a node without looking into a group:
the check of types, which asks whether an operand is a bare name, and a membership,
which asks whether a list is on its right. So parentheses around a name or a list do
change what a query says, and all others may be deleted, one by one or together
(`Matcher.matchCard_ungrouped`).

Deleting a group brings its content to the top, and that content may be a group which
is deleted too. What comes to the top in the end is still neither a name nor a list,
because the innermost group around a name or a list stays.
-/

namespace CardQuery

namespace Expr

/-! ## Deleting groups -/

/-- Whether a node is a list. -/
def isList : Expr → Bool
  | list _ _ => true
  | _ => false

/-- **Whether a node is a redundant group**: its content is neither a bare name nor a
list. -/
def isRedundant : Expr → Bool
  | group body _ => !body.isName && !body.isList
  | _ => false

/-- A place in a tree: the number of the child to go to, at every node on the way
down. -/
abbrev Place := List Nat

mutual

/-- **A tree without the redundant groups at some places.** What else stands at these
places stays. -/
def ungrouped (chosen : Place → Bool) : Expr → Expr
  | literal v s => literal v s
  | identifier name s => identifier name s
  | binary op l r s =>
    binary op (l.ungrouped fun place => chosen (0 :: place))
      (r.ungrouped fun place => chosen (1 :: place)) s
  | group body s =>
    let content := body.ungrouped fun place => chosen (0 :: place)
    if chosen [] && (group body s).isRedundant then content else group content s
  | list es s => list (ungroupedElements chosen 0 es) s

/-- The elements of a list from the `i`-th on, without the redundant groups at some
places. -/
def ungroupedElements (chosen : Place → Bool) (i : Nat) : List Expr → List Expr
  | [] => []
  | e :: es =>
    (e.ungrouped fun place => chosen (i :: place)) :: ungroupedElements chosen (i + 1) es

end

/-- What looks through groups sees the content of a group, deleted or not. -/
theorem apply_ungrouped_group {α : Sort*} {f : Expr → α} (hf : ∀ b s, f (group b s) = f b)
    (chosen : Place → Bool) (body : Expr) (s : Span) :
    f ((group body s).ungrouped chosen)
      = f (body.ungrouped fun place => chosen (0 :: place)) := by
  rw [ungrouped]
  split
  · rfl
  · exact hf _ s

/-- What is neither a name nor a list does not become one. -/
theorem shape_ungrouped (e : Expr) (chosen : Place → Bool) :
    (e.ungrouped chosen).isName = e.isName ∧ (e.ungrouped chosen).isList = e.isList := by
  induction e generalizing chosen with
  | group body s ih =>
    rw [ungrouped]
    split
    · next hdeleted =>
      obtain ⟨-, hredundant⟩ := Bool.and_eq_true_iff.mp hdeleted
      obtain ⟨hname, hlist⟩ := Bool.and_eq_true_iff.mp hredundant
      obtain ⟨hname', hlist'⟩ := ih fun place => chosen (0 :: place)
      rw [Bool.not_eq_true'] at hname hlist
      exact ⟨hname'.trans hname, hlist'.trans hlist⟩
    · exact ⟨rfl, rfl⟩
  | _ => exact ⟨rfl, rfl⟩

end Expr

/-! ## Evaluating without them -/

namespace Scope

variable {Card Context : Type} (s : Scope Card Context) (card : Card)

theorem typeOf_ungrouped (e : Expr) (chosen : Expr.Place → Bool) :
    s.typeOf (e.ungrouped chosen) = s.typeOf e := by
  obtain ⟨hname, -⟩ := e.shape_ungrouped chosen
  cases e with
  | identifier name span => rfl
  | _ => rw [typeOf_of_not_isName hname]; rfl

theorem commonType_ungrouped (left right : Expr) (chosen chosen' : Expr.Place → Bool) :
    s.commonType (left.ungrouped chosen) (right.ungrouped chosen')
      = s.commonType left right := by
  rw [commonType, commonType, typeOf_ungrouped, typeOf_ungrouped]

theorem value_ungrouped (e : Expr) (chosen : Expr.Place → Bool) :
    s.value card (e.ungrouped chosen) = s.value card e := by
  induction e generalizing chosen with
  | literal v span => rfl
  | identifier name span => rfl
  | binary op l r span ihl ihr =>
    rw [Expr.ungrouped]
    cases op with
    | arithmetic op => rw [value, value, ihl, ihr]
    | _ => rw [value, value] <;> exact fun _ h => by cases h
  | group body span ih =>
    have hgroup : ∀ b span, s.value card (.group b span) = s.value card b := fun b span => by
      rw [value]
    rw [Expr.apply_ungrouped_group hgroup, ih, hgroup]
  | list es span ih => rw [Expr.ungrouped, value, value]

theorem numbers_ungrouped (left right : Expr) (chosen chosen' : Expr.Place → Bool) :
    s.numbers card (left.ungrouped chosen) (right.ungrouped chosen')
      = s.numbers card left right := by
  rw [numbers, numbers, value_ungrouped, value_ungrouped]

variable [PatternCompiler]

theorem operand_ungrouped (e : Expr) (chosen : Expr.Place → Bool) :
    s.operand card (e.ungrouped chosen) = s.operand card e := by
  induction e generalizing chosen with
  | literal v span => rfl
  | identifier name span => rfl
  | binary op l r span ihl ihr =>
    have hvalue := s.value_ungrouped card (.binary op l r span) chosen
    rw [Expr.ungrouped] at hvalue ⊢
    rw [operand, operand, hvalue] <;> simp
  | group body span ih =>
    have hgroup : ∀ b span, s.operand card (.group b span) = s.operand card b := fun b span => by
      rw [operand]
    rw [Expr.apply_ungrouped_group hgroup, ih, hgroup]
  | list es span ih =>
    rw [Expr.ungrouped, operand, operand, value, value] <;> simp

theorem operands_ungrouped (es : List Expr) (chosen : Expr.Place → Bool) (i : Nat) :
    s.operands card (Expr.ungroupedElements chosen i es) = s.operands card es := by
  induction es generalizing i with
  | nil => rfl
  | cons e es ih => rw [Expr.ungroupedElements, operands, operands, operand_ungrouped, ih]

theorem compares_ungrouped (mode : EqualityMode) (negated : Bool) (type : Option FieldType)
    (left right : Expr) (chosen chosen' : Expr.Place → Bool) :
    s.compares card mode negated type (left.ungrouped chosen) (right.ungrouped chosen')
      = s.compares card mode negated type left right := by
  rw [compares, compares, operand_ungrouped, operand_ungrouped]

/-- A membership in anything but a list fails behind its left side. -/
theorem isMember_of_not_isList {mode : EqualityMode} {negated : Bool} {type : Option FieldType}
    {right : Expr} (h : right.isList = false) (left : Expr) :
    s.isMember card mode negated type left right
      = s.operand card left >>= fun _ => throw .expectedList := by
  cases right with
  | list es span => cases h
  | _ => rfl

theorem isMember_ungrouped (mode : EqualityMode) (negated : Bool) (type : Option FieldType)
    (left right : Expr) (chosen chosen' : Expr.Place → Bool) :
    s.isMember card mode negated type (left.ungrouped chosen) (right.ungrouped chosen')
      = s.isMember card mode negated type left right := by
  cases hlist : right.isList with
  | false =>
    obtain ⟨-, hlist'⟩ := right.shape_ungrouped chosen'
    rw [s.isMember_of_not_isList card hlist, s.isMember_of_not_isList card (hlist'.trans hlist),
      operand_ungrouped]
  | true =>
    cases right with
    | list es span =>
      rw [Expr.ungrouped, isMember, isMember, operand_ungrouped]
      dsimp only
      rw [operands_ungrouped]
    | _ => cases hlist

/-- **A condition is evaluated alike** without any of its redundant groups. -/
theorem holds_ungrouped (e : Expr) (chosen : Expr.Place → Bool) :
    s.holds card (e.ungrouped chosen) = s.holds card e := by
  induction e generalizing chosen with
  | literal v span => rfl
  | identifier name span => rfl
  | group body span ih =>
    have hgroup : ∀ b span, s.holds card (.group b span) = s.holds card b := fun b span => by
      rw [holds]
    rw [Expr.apply_ungrouped_group hgroup, ih, hgroup]
  | list es span ih => rw [Expr.ungrouped, holds, holds]
  | binary op l r span ihl ihr =>
    rw [Expr.ungrouped, holds, holds, commonType_ungrouped]
    refine bind_congr fun type => ?_
    cases op with
    | and => simp only [ihl, ihr]
    | or => simp only [ihl, ihr]
    | equality mode negated => exact s.compares_ungrouped card mode negated type l r _ _
    | membership mode negated => exact s.isMember_ungrouped card mode negated type l r _ _
    | relation r => simp only [related, numbers_ungrouped]
    | arithmetic op => simp only [computesTruth, numbers_ungrouped]

end Scope

/-- **Redundant parentheses are transparent.** Any redundant groups of a query may be
deleted, wherever they stand and however deep: every matcher gives the same answer or
the same error on every card, and remembers the same patterns afterwards. -/
theorem Matcher.matchCard_ungrouped [PatternCompiler] {Card Context : Type}
    (m : Matcher Card Context) (query : Expr) (chosen : Expr.Place → Bool) (card : Card) :
    m.matchCard (query.ungrouped chosen) card = m.matchCard query card := by
  rw [matchCard, matchCard, Scope.holds_ungrouped]

/-- In `(((xp)) + (1))` all groups may be deleted but the one right around the name. -/
example (p : Span) :
    let name : Expr := .group (.identifier "xp" p) p
    let one : Expr := .literal (.number 1) p
    (Expr.group (.binary (.arithmetic .add) (.group name p) (.group one p) p) p).ungrouped
        (fun _ => true)
      = .binary (.arithmetic .add) name one p := rfl

end CardQuery
