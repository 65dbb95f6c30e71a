import CardQuery.Proofs.Query.Grammar
import CardQuery.Proofs.Query.Relexing

/-!
# Written queries read back

A tree that was read from a text is written as a query again and read a
second time. The lexer cuts the tokens of the tree out of the new text if
all of them are clean, the tree lies over them as it lay over the old ones,
and it needs no more room; so the second tree differs from the first in
spans only, and is written the same.

That fails for two kinds of trees, and for no others
(`parseExpression_toQuery_iff`). An infinite number, which comes from too
many digits, is written as the word that is the name of a field. A name may
hold a combining dot that stands in no word: the lowercase of the capital I
with a dot leaves it behind.
-/

namespace CardQuery

/-- The value of a clean token is equal to itself. -/
theorem Content.Clean.eq_self {c : Content} (h : c.Clean) : c.2.eq c.2 = true := by
  obtain ⟨kind, value⟩ := c
  cases value with
  | null => rfl
  | boolean b => exact beq_self_eq_true b
  | number x => exact Number.beq_self_of_isFinite h
  | string s => exact beq_self_eq_true s
  | regex s => exact beq_self_eq_true s

namespace Expr

/-! ## The leaves of a tree -/

/-- **Whether a node is written as it can be read**: a number is finite, and a
name holds no dot. -/
def IsPlain : Expr → Prop
  | literal (.number x) _ => x.isFinite = true
  | identifier name _ => '\u0307' ∉ name.toList
  | _ => True

theorem clean_iff_isPlain (v : Literal) (s : Span) :
    Content.Clean (v.kind, v) ↔ (literal v s).IsPlain := by
  cases v with
  | boolean b => cases b <;> exact Iff.rfl
  | _ => exact Iff.rfl

/-- The tokens of the elements of a list are clean if the nodes of each
element are plain. -/
theorem forall_clean_elements_iff {es : List Expr} (depth : Nat)
    (h : ∀ e ∈ es, (∀ c ∈ e.contents, Content.Clean c) ↔
      ∀ node ∈ e.nodesFrom depth, node.2.IsPlain) :
    (∀ c ∈ elementContents es, Content.Clean c) ↔
      ∀ node ∈ listNodesFrom depth es, node.2.IsPlain := by
  induction es with
  | nil => exact ⟨fun _ => List.forall_mem_nil _, fun _ => List.forall_mem_nil _⟩
  | cons e es ih =>
    obtain ⟨hfirst, hothers⟩ := List.forall_mem_cons.mp h
    rw [listNodesFrom, List.forall_mem_append, ← hfirst, ← ih hothers]
    by_cases hne : es = []
    · subst hne
      exact ⟨fun h => ⟨h, List.forall_mem_nil _⟩, fun h => h.1⟩
    · -- the comma between them is clean
      rw [elementContents_cons e hne, List.forall_mem_append, List.forall_mem_cons]
      constructor
      · rintro ⟨he, -, hes⟩
        exact ⟨he, hes⟩
      · rintro ⟨he, hes⟩
        exact ⟨he, trivial, hes⟩

/-- **The tokens of a tree are clean if its nodes are plain.** -/
theorem forall_clean_iff (e : Expr) (depth : Nat) :
    (∀ c ∈ e.contents, Content.Clean c) ↔ ∀ node ∈ e.nodesFrom depth, node.2.IsPlain := by
  induction e generalizing depth with
  | literal v s =>
    rw [contents, nodesFrom, List.forall_mem_singleton, List.forall_mem_singleton]
    exact clean_iff_isPlain v s
  | identifier n s =>
    rw [contents, nodesFrom, List.forall_mem_singleton, List.forall_mem_singleton]
    exact Iff.rfl
  | binary op l r s ihl ihr =>
    rw [contents, nodesFrom, List.forall_mem_append, List.forall_mem_cons, List.forall_mem_cons,
      List.forall_mem_append, ihl (depth + 1), ihr (depth + 1)]
    constructor
    · rintro ⟨hl, -, hr⟩
      exact ⟨trivial, hl, hr⟩
    · rintro ⟨-, hl, hr⟩
      exact ⟨hl, trivial, hr⟩
  | group b s ih =>
    rw [contents, nodesFrom, List.forall_mem_cons, List.forall_mem_append,
      List.forall_mem_singleton, List.forall_mem_cons, ih (depth + 1)]
    constructor
    · rintro ⟨-, hb, -⟩
      exact ⟨trivial, hb⟩
    · rintro ⟨-, hb⟩
      exact ⟨trivial, hb, trivial⟩
  | list es s ih =>
    rw [contents, nodesFrom, List.forall_mem_cons, List.forall_mem_append,
      List.forall_mem_singleton, List.forall_mem_cons,
      forall_clean_elements_iff (depth + 1) fun e he => ih e he (depth + 1)]
    constructor
    · rintro ⟨-, hes, -⟩
      exact ⟨trivial, hes⟩
    · rintro ⟨-, hes⟩
      exact ⟨trivial, hes, trivial⟩

/-- The plain nodes of a tree, number by number and name by name. -/
theorem forall_isPlain_iff (e : Expr) :
    (∀ node ∈ e.nodes, node.2.IsPlain) ↔
      (∀ depth x s, (depth, literal (.number x) s) ∈ e.nodes → x.isFinite = true) ∧
        ∀ depth name s, (depth, identifier name s) ∈ e.nodes → '\u0307' ∉ name.toList := by
  constructor
  · intro h
    exact ⟨fun _ _ _ hmem => h _ hmem, fun _ _ _ hmem => h _ hmem⟩
  · rintro ⟨hnumbers, hnames⟩ ⟨depth, node⟩ hmem
    cases node with
    | literal v s =>
      cases v with
      | number x => exact hnumbers depth x s hmem
      | _ => trivial
    | identifier name s => exact hnames depth name s hmem
    | _ => trivial

/-! ## Trees of one shape -/

/-- Lists of elements that differ in spans only have the same shape if each
element has. -/
theorem sameShapes_of_bare_eq {es fs : List Expr} (h : bareElements fs = bareElements es)
    (hsame : ∀ e ∈ es, ∀ f : Expr, f.bare = e.bare → e.sameShape f = true) :
    sameShapes es fs = true := by
  induction es generalizing fs with
  | nil =>
    cases fs with
    | nil => rfl
    | cons f fs => cases h
  | cons e es ih =>
    cases fs with
    | nil => cases h
    | cons f fs =>
      obtain ⟨hfirst, hothers⟩ := List.cons.inj h
      obtain ⟨hsamee, hsamees⟩ := List.forall_mem_cons.mp hsame
      rw [sameShapes, hsamee f hfirst, ih hothers hsamees]
      rfl

/-- What an element reads back as is part of what its list does. -/
theorem mem_elementContents {es : List Expr} {e : Expr} (he : e ∈ es) {c : Content}
    (hc : c ∈ e.contents) : c ∈ elementContents es := by
  induction es with
  | nil => cases he
  | cons f es ih =>
    by_cases hne : es = []
    · subst hne
      rwa [List.mem_singleton.mp he] at hc
    · rw [elementContents_cons f hne]
      rcases List.mem_cons.mp he with rfl | he
      · exact List.mem_append_left _ hc
      · exact List.mem_append_right _ (List.mem_cons_of_mem _ (ih he))

/-- **Trees that differ in spans only have the same shape** if the values in
them are equal to themselves. -/
theorem sameShape_of_forall_eq {a b : Expr} (h : b.bare = a.bare)
    (hself : ∀ c ∈ a.contents, c.2.eq c.2 = true) : a.sameShape b = true := by
  induction a generalizing b with
  | literal v s =>
    cases b with
    | literal w s' =>
      obtain ⟨rfl, -⟩ := literal.inj h
      exact hself _ List.mem_cons_self
    | _ => cases h
  | identifier n s =>
    cases b with
    | identifier n' s' =>
      obtain ⟨rfl, -⟩ := identifier.inj h
      exact beq_self_eq_true n'
    | _ => cases h
  | binary op l r s ihl ihr =>
    cases b with
    | binary op' l' r' s' =>
      obtain ⟨rfl, hl, hr, -⟩ := binary.inj h
      obtain ⟨hselfl, hothers⟩ := List.forall_mem_append.mp hself
      obtain ⟨-, hselfr⟩ := List.forall_mem_cons.mp hothers
      rw [sameShape, ihl hl hselfl, ihr hr hselfr, beq_self_eq_true]
      rfl
    | _ => cases h
  | group body s ih =>
    cases b with
    | group body' s' =>
      obtain ⟨-, hothers⟩ := List.forall_mem_cons.mp hself
      exact ih (group.inj h).1 (List.forall_mem_append.mp hothers).1
    | _ => cases h
  | list es s ih =>
    cases b with
    | list fs s' =>
      obtain ⟨-, hothers⟩ := List.forall_mem_cons.mp hself
      obtain ⟨hselfs, -⟩ := List.forall_mem_append.mp hothers
      exact sameShapes_of_bare_eq (list.inj h).1 fun e he f hf =>
        ih e he hf fun c hc => hselfs c (mem_elementContents he hc)
    | _ => cases h

/-- **Trees with plain nodes that differ in spans only have the same
shape.** -/
theorem sameShape_of_bare_eq {a b : Expr} (h : b.bare = a.bare) (depth : Nat)
    (hplain : ∀ node ∈ a.nodesFrom depth, node.2.IsPlain) : a.sameShape b = true :=
  sameShape_of_forall_eq h fun c hc => ((a.forall_clean_iff depth).mpr hplain c hc).eq_self

end Expr

/-! ## Reading twice -/

/-- **The trees of a text**: canonical trees of its tokens that find enough
room. -/
theorem parseExpression_eq_ok_iff (source : String) (e : Expr) :
    parseExpression source = .ok e ↔
      ∃ ts stop, tokenize source = .ok (ts ++ [stop]) ∧ (∀ t ∈ ts, t.kind ≠ .eof) ∧
        stop.kind = .eof ∧ e.SpelledBy ts ∧ e.Canonical ∧ e.need ≤ Parser.defaultLimit := by
  rw [parseExpression, parseWith_eq_ok_iff]
  constructor
  · rintro ⟨tokens, htokens, hparse⟩
    obtain ⟨ts, m, stop, rfl, hyields, -, hstop⟩ := (Lexer.tokens_eq_ok_iff _ _).mp htokens
    have hinner := Lexer.kind_ne_of_yields hyields
    rw [Parser.parse_eq_ok_iff, Parser.rest_ofTokens _ hinner hstop] at hparse
    exact ⟨ts, stop, htokens, hinner, hstop, hparse⟩
  · rintro ⟨ts, stop, htokens, hinner, hstop, hparse⟩
    refine ⟨ts ++ [stop], htokens, ?_⟩
    rw [Parser.parse_eq_ok_iff, Parser.rest_ofTokens _ hinner hstop]
    exact hparse

/-- **What a tree of a text reads back as** can be cut from a text, with its
regular expressions where values follow. -/
theorem contents_of_tokenize {source : String} {e : Expr} {ts : List Token} {stop : Token}
    (h : tokenize source = .ok (ts ++ [stop])) (hspell : e.SpelledBy ts) :
    ∃ m, (Lexer.ofQuery source).Yields ts m ∧ e.contents = ts.map Token.content ∧
      (∀ c ∈ e.contents, Content.Lexed c) ∧
      TokenKind.Run TokenKind.OpenedIfRegex none (e.contents.map Prod.fst) := by
  obtain ⟨us, m, stop', heq, hyields, -, -⟩ := (Lexer.tokens_eq_ok_iff _ _).mp h
  obtain ⟨rfl, -⟩ := List.append_inj' heq rfl
  obtain ⟨hlexed, hregex⟩ := Lexer.lexed_of_yields hyields
  have hcontents := hspell.contents_eq fun t ht => (hlexed t ht).fits
  refine ⟨m, hyields, hcontents, ?_, ?_⟩
  · rw [hcontents]
    exact List.forall_mem_map.mpr hlexed
  · rw [hcontents, List.map_map]
    exact hregex

/-- **A tree that was read is read again from its own text, the same but for
its spans and with the same text, exactly if all its numbers are finite and
no name holds the dot** that the dotted capital leaves behind. -/
theorem parseExpression_toQuery_iff {source : String} {e : Expr}
    (h : parseExpression source = .ok e) :
    (∃ e', parseExpression e.toQuery = .ok e' ∧ e'.bare = e.bare ∧ e.sameShape e' = true ∧
        e'.toQuery = e.toQuery) ↔
      (∀ depth x s, (depth, Expr.literal (.number x) s) ∈ e.nodes → x.isFinite = true) ∧
        ∀ depth name s, (depth, Expr.identifier name s) ∈ e.nodes → '\u0307' ∉ name.toList := by
  obtain ⟨ts, stop, htokens, -, -, hspell, hcan, hneed⟩ := (parseExpression_eq_ok_iff _ _).mp h
  obtain ⟨-, -, -, hlexed, hregex⟩ := contents_of_tokenize htokens hspell
  rw [← e.forall_isPlain_iff]
  constructor
  · rintro ⟨e', hparse, hbare, -, -⟩
    -- the second reading gave the tokens back, so they were clean
    obtain ⟨us, stop', htokens', -, -, hspell', -, -⟩ := (parseExpression_eq_ok_iff _ _).mp hparse
    obtain ⟨m, hyields, hcontents, -, -⟩ := contents_of_tokenize htokens' hspell'
    rw [← e'.contents_bare, hbare, e.contents_bare] at hcontents
    have hkinds : e.contents.map Prod.fst = us.map Token.kind := by
      rw [hcontents, List.map_map]
      rfl
    have htext : (Lexer.ofQuery e.toQuery).rest = Content.text (us.map Token.content) := by
      rw [← hcontents]
      exact e.toList_toQuery
    have hclean := Lexer.clean_of_yields hyields (List.forall_mem_map.mp (hcontents ▸ hlexed))
      (hkinds ▸ e.run_contents) (hkinds ▸ hregex) (by rw [htext])
    refine (e.forall_clean_iff 0).mp ?_
    rw [hcontents]
    exact List.forall_mem_map.mpr hclean
  · intro hplain
    -- clean tokens are given back, and the same tree over them is the one that is read
    obtain ⟨us, stop', e', htokens', hinner, hstop, hspell', hbare⟩ :=
      Expr.Legible.exists_tokens ⟨hlexed, (e.forall_clean_iff 0).mpr hplain, hregex⟩
    refine ⟨e', ?_, hbare, Expr.sameShape_of_bare_eq hbare 0 hplain,
      Expr.toQuery_eq_of_bare_eq hbare⟩
    refine (parseExpression_eq_ok_iff _ _).mpr
      ⟨us, stop', htokens', hinner, hstop, hspell', .of_bare_eq hbare hcan, ?_⟩
    rw [Expr.need_eq_of_bare_eq hbare]
    exact hneed

/-- A quotient of strings, the first of them a slash, is read again. The
dotted capital is read as a name that is not. -/
theorem parseExpression_toQuery_iff_quotient_dotted :
    (∃ e e', parseExpression "\"/\"/'\"'" = .ok e ∧ parseExpression e.toQuery = .ok e' ∧
      e'.bare = e.bare ∧ e.sameShape e' = true ∧ e'.toQuery = e.toQuery) ∧
    ∃ e, parseExpression "İ" = .ok e ∧
      ¬ ∃ e', parseExpression e.toQuery = .ok e' ∧ e'.bare = e.bare ∧ e.sameShape e' = true ∧
        e'.toQuery = e.toQuery := by
  constructor
  · let quotient : Expr := .binary (.arithmetic .divide)
      (.literal (.string "/") ⟨⟨0, 1, 1⟩, ⟨3, 1, 4⟩⟩)
      (.literal (.string "\"") ⟨⟨4, 1, 5⟩, ⟨7, 1, 8⟩⟩) ⟨⟨0, 1, 1⟩, ⟨7, 1, 8⟩⟩
    have hread : parseExpression "\"/\"/'\"'" = .ok quotient := by cbv
    have hplain : ∀ node ∈ quotient.nodes, node.2.IsPlain :=
      List.forall_mem_cons.mpr ⟨trivial, List.forall_mem_cons.mpr
        ⟨trivial, List.forall_mem_singleton.mpr trivial⟩⟩
    obtain ⟨e', hagain⟩ :=
      (parseExpression_toQuery_iff hread).mpr (quotient.forall_isPlain_iff.mp hplain)
    exact ⟨quotient, e', hread, hagain⟩
  · let dotted : Expr := .identifier (.ofList ['i', '\u0307']) ⟨⟨0, 1, 1⟩, ⟨1, 1, 2⟩⟩
    have hread : parseExpression "İ" = .ok dotted := by cbv
    refine ⟨dotted, hread, fun hagain => ?_⟩
    obtain ⟨-, hnames⟩ := (parseExpression_toQuery_iff hread).mp hagain
    refine hnames 0 _ _ List.mem_cons_self ?_
    rw [String.toList_ofList]
    exact List.mem_cons_of_mem _ List.mem_cons_self

end CardQuery
