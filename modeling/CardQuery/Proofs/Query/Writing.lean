import CardQuery.Proofs.Query.Tree
import CardQuery.Query.Expr.Printer

/-!
# The written form of a tree, token by token

A tree is written by writing what it reads back as: every token in its own
way (`Content.mark`), a blank around operators, a blank after commas, and
nothing between all others (`toList_toQuery`). So the written form depends
on the tokens alone, and on their spans not at all.

Only some tokens ever stand side by side. Where an operand ends, an
operator, a comma or a closing bracket comes next, and operators stand
nowhere else (`Expr.run_contents`).
-/

namespace CardQuery

/-- **How a token is written**, without the blanks around it. -/
def Content.mark (c : Content) : List Char :=
  match c.1 with
  | .identifier => (c.2.text?.getD "").toList
  | .operator op => op.symbol.toList
  | .leftParen => ['(']
  | .rightParen => [')']
  | .leftBracket => ['[']
  | .rightBracket => [']']
  | .comma => [',']
  | .eof => []
  | _ => c.2.toQuery.toList

/-- The blank behind a token in a tree. -/
def Content.gap (c : Content) : List Char :=
  match c.1 with
  | .operator _ | .comma => [' ']
  | _ => []

/-- **How a token is written in a tree**, with the blanks around it. -/
def Content.piece (c : Content) : List Char :=
  match c.1 with
  | .operator _ => ' ' :: (c.mark ++ c.gap)
  | _ => c.mark ++ c.gap

/-- How some tokens are written in a tree. -/
def Content.text (cs : List Content) : List Char := cs.flatMap Content.piece

theorem Content.text_append (cs ds : List Content) : text (cs ++ ds) = text cs ++ text ds :=
  List.flatMap_append

theorem Content.text_cons (c : Content) (cs : List Content) : text (c :: cs) = c.piece ++ text cs :=
  rfl

theorem Content.piece_literal (v : Literal) : Content.piece (v.kind, v) = v.toQuery.toList := by
  cases v with
  | boolean b => cases b <;> exact List.append_nil _
  | _ => exact List.append_nil _

namespace Expr

theorem toQueries_ne_nil {es : List Expr} (h : es ≠ []) : toQueries es ≠ [] := by
  cases es with
  | nil => exact absurd rfl h
  | cons e es => exact List.cons_ne_nil _ _

/-- The elements of a list are written token by token if each of them is. -/
theorem toList_intercalate_toQueries {es : List Expr}
    (h : ∀ e ∈ es, e.toQuery.toList = Content.text e.contents) :
    (", ".intercalate (toQueries es)).toList = Content.text (elementContents es) := by
  induction es with
  | nil => rfl
  | cons e es ih =>
    obtain ⟨hfirst, hothers⟩ := List.forall_mem_cons.mp h
    by_cases hne : es = []
    · subst hne
      rw [toQueries, toQueries, String.intercalate_singleton]
      exact hfirst
    · rw [toQueries, String.intercalate_cons_of_ne_nil (toQueries_ne_nil hne), String.toList_append,
        String.toList_append, ih hothers, hfirst, elementContents_cons e hne, Content.text_append,
        Content.text_cons, List.append_assoc]
      rfl

/-- **A tree is written token by token.** -/
theorem toList_toQuery (e : Expr) : e.toQuery.toList = Content.text e.contents := by
  induction e with
  | literal v s =>
    rw [toQuery, contents, Content.text, List.flatMap_singleton, Content.piece_literal]
  | identifier n s =>
    rw [toQuery, contents, Content.text, List.flatMap_singleton]
    exact (List.append_nil _).symm
  | binary op l r s ihl ihr =>
    rw [toQuery, contents, Content.text_append, Content.text_cons, ← ihl, ← ihr]
    simp only [String.toList_append, List.append_assoc]
    show _ = l.toQuery.toList ++ (' ' :: (op.symbol.toList ++ [' ']) ++ r.toQuery.toList)
    rw [List.cons_append, List.append_assoc]
    rfl
  | group b s ih =>
    rw [toQuery, contents, Content.text_cons, Content.text_append, ← ih, String.toList_append,
      String.toList_append, List.append_assoc]
    rfl
  | list es s ih =>
    rw [toQuery, contents, Content.text_cons, Content.text_append,
      ← toList_intercalate_toQueries ih, String.toList_append, String.toList_append,
      List.append_assoc]
    rfl

/-- Trees that differ in spans only are written alike. -/
theorem toQuery_eq_of_bare_eq {a b : Expr} (h : a.bare = b.bare) : a.toQuery = b.toQuery := by
  apply String.toList_inj.mp
  rw [toList_toQuery, toList_toQuery, ← contents_bare a, h, contents_bare]

end Expr

/-! ## What stands side by side -/

namespace TokenKind

/-- **Whether every kind stands well behind the one before it.** Before the
first one stands what is given, or nothing. -/
def Run (R : Option TokenKind → TokenKind → Prop) : Option TokenKind → List TokenKind → Prop
  | _, [] => True
  | before, k :: ks => R before k ∧ Run R (some k) ks

/-- Whether an operand may end with a kind. -/
def endsOperand : TokenKind → Bool
  | .identifier | .rightParen | .rightBracket => true
  | k => k.isLiteral

/-- Whether a kind may come where an operand has ended. -/
def continues : TokenKind → Bool
  | .operator _ | .comma | .rightParen | .rightBracket => true
  | _ => false

/-- **The places of the kinds in a query.** Where an operand has ended, the
query is continued, and an operator stands only there. -/
def Placed (before : Option TokenKind) (k : TokenKind) : Prop :=
  (before.any endsOperand = true → k.continues = true) ∧
    ∀ op, k = .operator op → before.any endsOperand = true

theorem endsOperand_of_isLiteral {k : TokenKind} (h : k.isLiteral = true) :
    k.endsOperand = true := by
  cases k <;> first | rfl | cases h

/-- What is no operator may stand where no operand has ended. -/
theorem Placed.of_start {before : Option TokenKind} {k : TokenKind}
    (hbefore : before.any endsOperand = false) (hk : ∀ op, k ≠ .operator op) : Placed before k :=
  ⟨fun h => Bool.noConfusion (hbefore.symm.trans h), fun op h => absurd h (hk op)⟩

/-- What continues a query may stand where an operand has ended. -/
theorem Placed.of_end {before k : TokenKind} (hbefore : before.endsOperand = true)
    (hk : k.continues = true) : Placed (some before) k :=
  ⟨fun _ => hk, fun _ _ => hbefore⟩

end TokenKind

namespace Expr

open TokenKind

/-- The kinds of the tokens that a tree is made of. -/
def kinds (e : Expr) : List TokenKind := e.contents.map Prod.fst

/-- The kinds of the elements of a list stand well if those of each element
do. -/
theorem run_elementContents {es : List Expr} (hne : es ≠ [])
    (h : ∀ e ∈ es, ∀ before ks, before.any endsOperand = false →
      (∀ k, k.endsOperand = true → Run Placed (some k) ks) → Run Placed before (e.kinds ++ ks))
    {before : Option TokenKind} {ks : List TokenKind} (hbefore : before.any endsOperand = false)
    (hks : ∀ k, k.endsOperand = true → Run Placed (some k) ks) :
    Run Placed before ((elementContents es).map Prod.fst ++ ks) := by
  induction es generalizing before with
  | nil => exact absurd rfl hne
  | cons e es ih =>
    obtain ⟨hfirst, hothers⟩ := List.forall_mem_cons.mp h
    by_cases hlast : es = []
    · subst hlast
      exact hfirst before ks hbefore hks
    · rw [elementContents_cons e hlast, List.map_append, List.map_cons, List.append_assoc]
      exact hfirst before _ hbefore fun k hk => ⟨.of_end hk rfl, ih hlast hothers rfl⟩

/-- **The kinds of a tree stand well** where an operand may start, in front
of what may stand where an operand has ended. -/
theorem run_kinds (e : Expr) (before : Option TokenKind) (ks : List TokenKind)
    (hbefore : before.any endsOperand = false)
    (hks : ∀ k, k.endsOperand = true → Run Placed (some k) ks) :
    Run Placed before (e.kinds ++ ks) := by
  -- what follows a part of a tree is an operator, a comma, a bracket or what follows the tree
  induction e generalizing before ks with
  | literal v s =>
    refine ⟨.of_start hbefore ?_, hks _ (endsOperand_of_isLiteral (Literal.isLiteral_kind v))⟩
    intro op h
    have hl := Literal.isLiteral_kind v
    rw [show v.kind = .operator op from h] at hl
    cases hl
  | identifier n s => exact ⟨.of_start hbefore (by rintro op ⟨⟩), hks _ rfl⟩
  | binary op l r s ihl ihr =>
    rw [kinds, contents, List.map_append, List.map_cons, List.append_assoc]
    exact ihl before _ hbefore fun k hk => ⟨.of_end hk rfl, ihr _ ks rfl hks⟩
  | group b s ih =>
    rw [kinds, contents, List.map_cons, List.map_append, List.cons_append, List.append_assoc]
    exact ⟨.of_start hbefore (by rintro op ⟨⟩),
      ih _ _ rfl fun k hk => ⟨.of_end hk rfl, hks _ rfl⟩⟩
  | list es s ih =>
    rw [kinds, contents, List.map_cons, List.map_append, List.cons_append, List.append_assoc]
    refine ⟨.of_start hbefore (by rintro op ⟨⟩), ?_⟩
    by_cases hne : es = []
    · subst hne
      exact ⟨.of_start rfl (by rintro op ⟨⟩), hks _ rfl⟩
    · exact run_elementContents hne (fun e he => ih e he) rfl
        fun k hk => ⟨.of_end hk rfl, hks _ rfl⟩

/-- **The kinds of a tree stand well.** -/
theorem run_contents (e : Expr) : Run Placed none (e.contents.map Prod.fst) := by
  have h := run_kinds e none [] rfl fun _ _ => trivial
  rwa [List.append_nil] at h

end Expr

end CardQuery
