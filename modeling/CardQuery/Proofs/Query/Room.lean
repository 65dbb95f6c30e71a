import CardQuery.Proofs.Query.Depth

/-!
# Exactly enough room

A tree is read under a limit exactly if it needs no more room, and what it
needs can be told node by node (`Expr.need_eq_chainNeed`): nothing for a
literal or a name, one place for a bracket besides what is in it, and for a
chain the most that any of its operands needs, the one behind the `i`-th link
`i` places more.

Under a smaller limit the same tokens are refused for want of room, and for
nothing else: whatever else is wrong with tokens is wrong under every limit.
The refusal names the limit that was asked for (`namesLimit`).
-/

namespace CardQuery

namespace Expr

/-! ## The operands of a chain -/

/-- **The operands of the chain of a level** at the top of a tree, from left to
right. A tree without such a chain is its own and only operand. -/
def operands (level : Level) : Expr → List Expr
  | .binary op l r s =>
    if op.level = level then l.operands level ++ [r] else [.binary op l r s]
  | e => [e]

/-- What the operands of a chain need: the first one what it needs itself, and
each other one a place more for every link up to it. -/
def chainNeed (es : List Expr) : Nat := (es.mapIdx fun i e => i + e.need).foldr max 0

section Operands

variable {level : Level}

theorem operands_binary (op : Operator) (l r : Expr) (s : Span) :
    (binary op l r s).operands op.level = l.operands op.level ++ [r] :=
  if_pos rfl

theorem operands_of_binding_lt {e : Expr} (h : e.binding < level.rank) :
    e.operands level = [e] := by
  cases e with
  | binary op l r s =>
    refine if_neg ?_
    rintro rfl
    exact Nat.lt_irrefl _ h
  | _ => rfl

theorem length_operands (e : Expr) : (e.operands level).length = e.links level + 1 := by
  induction e with
  | binary op l r s ihl ihr =>
    by_cases h : op.level = level
    · rw [operands, links, if_pos h, if_pos h, List.length_append, ihl, List.length_singleton]
    · rw [operands, links, if_neg h, if_neg h, List.length_singleton]
  | _ => rfl

/-- No operand of a chain is itself a chain of the level, or of a looser one:
the chain goes as far as it can. -/
theorem binding_lt_of_mem_operands {e : Expr} (hcan : e.Canonical)
    (hbind : e.binding ≤ level.rank) : ∀ x ∈ e.operands level, x.binding < level.rank := by
  induction e with
  | binary op l r s ihl ihr =>
    obtain ⟨hl, -, hfit, hlow⟩ := hcan
    by_cases h : op.level = level
    · subst h
      rw [operands_binary]
      exact List.forall_mem_append.mpr ⟨ihl hl hfit.binding_le, List.forall_mem_singleton.mpr hlow⟩
    · have hlt : (binary op l r s).binding < level.rank :=
        Nat.lt_of_le_of_ne hbind fun heq => h (Grammar.rank_injective heq)
      rw [operands_of_binding_lt hlt]
      exact List.forall_mem_singleton.mpr hlt
  | _ => exact List.forall_mem_singleton.mpr (Grammar.rank_pos level)

/-- A comparison has two operands. -/
theorem operands_of_not_chains {op : Operator} {l r : Expr} {s : Span}
    (hcan : (binary op l r s).Canonical) (hc : ¬ op.level.chains = true) :
    (binary op l r s).operands op.level = [l, r] := by
  obtain ⟨-, -, hfit, -⟩ := hcan
  rw [FitsLeftOf, if_neg hc] at hfit
  rw [operands_binary, operands_of_binding_lt hfit]
  rfl

theorem chainNeed_concat (es : List Expr) (e : Expr) :
    chainNeed (es ++ [e]) = max (chainNeed es) (es.length + e.need) := by
  have hfold : ∀ ns : List Nat, ∀ n, (ns ++ [n]).foldr max 0 = max (ns.foldr max 0) n := by
    intro ns n
    induction ns with
    | nil => exact Nat.max_comm n 0
    | cons m ns ih => rw [List.cons_append, List.foldr_cons, List.foldr_cons, ih, Nat.max_assoc]
  rw [chainNeed, List.mapIdx_concat, hfold]
  rfl

/-- **A tree needs what the operands of its chain need**, at every level. -/
theorem need_eq_chainNeed (level : Level) (e : Expr) : e.need = chainNeed (e.operands level) := by
  have hsingle : ∀ e : Expr, e.need = chainNeed [e] := fun e => by
    show e.need = max (0 + e.need) 0
    omega
  induction e with
  | binary op l r s ihl ihr =>
    by_cases h : op.level = level
    · subst h
      rw [operands_binary, chainNeed_concat, ← ihl, length_operands, need]
    · rw [operands, if_neg h, ← hsingle]
  | _ => exact hsingle _

theorem maxNeed_eq_foldr (es : List Expr) : maxNeed es = (es.map need).foldr max 0 := by
  induction es with
  | nil => rfl
  | cons e es ih => rw [maxNeed, ih, List.map_cons, List.foldr_cons]

end Operands

end Expr

/-! ## The limit in a refusal -/

namespace Grammar

/-- **Whether a refusal for want of room names the limit.** -/
def Outcome.NamesLimit {α : Type} (g : Setting) (o : Outcome α) : Prop :=
  ∀ e after room limit, o = .failed e after room → e.fault = .tooDeep limit → limit = g.limit

section NamesLimit

variable {α β : Type} {g : Setting}

theorem Outcome.NamesLimit.ok (v : α) (after : List Token) : NamesLimit g (.ok v after) := by
  rintro _ _ _ _ ⟨⟩

/-- A failure for another reason names no limit. -/
theorem Outcome.NamesLimit.failed {e : ParseError} (h : ¬ e.IsDepth) (after : List Token)
    (room : Nat) : NamesLimit g (.failed e after room : Outcome α) := by
  rintro _ _ _ limit ⟨⟩ hfault
  exact absurd ⟨limit, hfault⟩ h

theorem Outcome.NamesLimit.tooDeep (place : Position) (after : List Token) (room : Nat) :
    NamesLimit g (.failed ⟨.tooDeep g.limit, place⟩ after room : Outcome α) := by
  rintro _ _ _ _ ⟨⟩ ⟨⟩
  rfl

theorem Outcome.NamesLimit.andThen {o : Outcome α} {f : α → List Token → Outcome β}
    (ho : NamesLimit g o) (hf : ∀ v after, o = .ok v after → NamesLimit g (f v after)) :
    NamesLimit g (o.andThen f) := by
  intro e after room limit h hfault
  rcases Outcome.andThen_eq_failed h with h | ⟨v, mid, hok, h⟩
  · exact ho e after room limit h hfault
  · exact hf v mid hok e after room limit h hfault

open Outcome

theorem namesLimit_close (room : Nat) (kind : TokenKind) {fault : ParseFault}
    (hfault : ∀ limit, fault ≠ .tooDeep limit) (node : Token → Expr) (tokens : List Token) :
    NamesLimit g (close g room kind fault node tokens) := by
  have hdepth : ∀ place, ¬ (ParseError.mk fault place).IsDepth := fun _ ⟨limit, h⟩ => hfault limit h
  cases tokens with
  | nil => exact .failed (hdepth _) [] room
  | cons c after =>
    by_cases hc : c.kind = kind
    · rw [close_of_eq hc]
      exact .ok (node c) after
    · rw [close_of_ne hc]
      exact .failed (hdepth _) (c :: after) room

theorem namesLimit_nextLink {room : Nat} {op : Operator} {left right : Expr} {after : List Token}
    (h : NamesLimit g (chain g room op.level (.join op left right) after).val) :
    NamesLimit g (nextLink g room op left right after) := by
  by_cases hc : op.level.chains = true
  · rwa [nextLink_of_chains g room hc]
  · rw [nextLink_of_not_chains g room hc]
    exact .ok _ after

theorem namesLimit_moreElements {room : Nat} {after : List Token} (e : Expr)
    (h : ∀ t rest, after = t :: rest → NamesLimit g (readElements g room rest).val) :
    NamesLimit g (moreElements g room e after) := by
  cases after with
  | nil => exact .ok [e] []
  | cons t rest =>
    by_cases hk : t.kind = .comma
    · rw [moreElements_of_comma g room e rest hk]
      exact (h t rest rfl).andThen fun others after _ => .ok _ after
    · rw [moreElements_of_stop g room e (by rintro _ ⟨⟩; exact hk)]
      exact .ok [e] _

/-- **Every refusal for want of room names the limit.** -/
theorem namesLimit (g : Setting) :
    Rules g (fun _ _ _ o => NamesLimit g o) (fun _ _ _ _ o => NamesLimit g o)
      (fun _ _ o => NamesLimit g o) where
  level _ operand links := operand.andThen links
  nil room := .failed (by rintro ⟨_, ⟨⟩⟩) [] room
  literal _ _ rest _ := .ok _ rest
  name _ _ rest _ := .ok _ rest
  bracketZero rest _ := .tooDeep _ rest 0
  group _ _ body := body.andThen fun _ _ _ => namesLimit_close _ _ (by rintro _ ⟨⟩) _ _
  emptyList _ _ _ rest _ _ := .ok _ rest
  list _ _ _ elements := elements.andThen fun _ _ _ => namesLimit_close _ _ (by rintro _ ⟨⟩) _ _
  other room _ rest _ _ _ _ := .failed (by rintro ⟨_, ⟨⟩⟩) (_ :: rest) room
  chainNil _ _ left := .ok left []
  chainStop _ _ _ left rest _ := .ok left (_ :: rest)
  chainZero _ rest _ := .tooDeep _ rest 0
  link _ _ operand links :=
    operand.andThen fun right after ho => namesLimit_nextLink (links right after ho)
  elements _ first others := first.andThen fun e _ ho =>
    namesLimit_moreElements e fun t rest heq => others e t rest (heq ▸ ho)

end NamesLimit

end Grammar

/-! ## Under every limit -/

namespace Parser

open Grammar

/-- What a parser says for want of room names its limit. -/
theorem eq_limit_of_parse_eq_error {p : Parser} {e : ParseError} (h : p.parse.1 = .error e)
    {limit : Nat} (hfault : e.fault = .tooDeep limit) : limit = p.limit := by
  revert h
  unfold parse
  split
  · next err after room hread =>
    rintro ⟨⟩
    exact (namesLimit p.setting).read p.room (some .or) p.rest _ _ _ _ hread hfault
  · rintro ⟨⟩
  · rintro ⟨⟩
    cases hfault

/-- Tokens that have a tree are refused for want of room only. -/
theorem isDepth_of_parse_eq_error {p q : Parser} {e : Expr} {err : ParseError}
    (hq : q.parse.1 = .ok e) (hp : p.parse.1 = .error err) (hrest : q.rest = p.rest)
    (hroom : p.room ≤ q.room) : err.IsDepth := by
  refine Classical.byContradiction fun hdepth => ?_
  obtain ⟨pre, cut, hcut, -, -, -, hnone⟩ := exists_cut_of_parse_eq_error hp hdepth
  exact hnone q cut (hrest.trans hcut) rfl hroom e hq

/-- The tokens that a parser reads hold no end token. -/
theorem rest_ofTokens_ne_eof (limit : Nat) (tokens : List Token) :
    ∀ t ∈ (ofTokens limit tokens).rest, t.kind ≠ .eof := by
  intro t ht
  have hinner : isInner t = true := List.all_eq_true.mp List.all_takeWhile t ht
  exact bne_iff_ne.mp hinner

theorem kind_stop_ofTokens (limit : Nat) (tokens : List Token) :
    (ofTokens limit tokens).stop.kind = .eof := by
  show ((tokens.find? (!isInner ·)).getD _).kind = .eof
  match h : tokens.find? (!isInner ·) with
  | none => rfl
  | some stop => simpa [isInner] using List.find?_some h

/-- **A tree is read under every limit that it needs.** -/
theorem parse_eq_ok_of_need_le {known limit : Nat} {tokens : List Token} {e : Expr}
    (h : (ofTokens known tokens).parse.1 = .ok e) (hneed : e.need ≤ limit) :
    (ofTokens limit tokens).parse.1 = .ok e := by
  obtain ⟨hspell, hcan, -⟩ := (parse_eq_ok_iff _ e).mp h
  exact (parse_eq_ok_iff _ e).mpr ⟨hspell, hcan, hneed⟩

/-- **Under a smaller limit it is refused**, for want of room under that
limit. -/
theorem parse_eq_tooDeep_of_lt_need {known limit : Nat} {tokens : List Token} {e : Expr}
    (h : (ofTokens known tokens).parse.1 = .ok e) (hneed : limit < e.need) :
    ∃ place, (ofTokens limit tokens).parse.1 = .error ⟨.tooDeep limit, place⟩ := by
  have hknown : limit ≤ known :=
    Nat.le_of_lt (Nat.lt_of_lt_of_le hneed ((parse_eq_ok_iff _ e).mp h).2.2)
  match hp : (ofTokens limit tokens).parse.1 with
  | .ok e' =>
    -- under the known limit that tree would be read as well, but it is another one
    obtain ⟨-, -, hneed'⟩ := (parse_eq_ok_iff _ e').mp hp
    have hsame := parse_eq_ok_mono hp (q := ofTokens known tokens) rfl hknown
    obtain rfl : e = e' := Except.ok.inj (h.symm.trans hsame)
    exact absurd hneed' (Nat.not_le_of_lt hneed)
  | .error ⟨fault, place⟩ =>
    obtain ⟨limit', rfl⟩ := isDepth_of_parse_eq_error h hp rfl hknown
    rw [eq_limit_of_parse_eq_error hp rfl]
    exact ⟨place, rfl⟩

/-- **What is read under a limit.** Tokens that have a tree under some limit,
however large, have that tree under every limit that the tree needs, and are
refused under all others for exceeding them. What a tree needs is told node
by node, for a chain from its operands, none of which could have been read as
a part of the chain. The rules that count leave the counter as it was where
they succeed. They are the rules of the grammar: with enough calls left they
track what is read, and up to the end they give the answer of the parser. -/
theorem parse_eq_of_need {known : Nat} {tokens : List Token} {e : Expr}
    (h : (ofTokens known tokens).parse.1 = .ok e) :
    (∀ limit, e.need ≤ limit → (ofTokens limit tokens).parse.1 = .ok e) ∧
      (∀ limit, limit < e.need → ∃ err, (ofTokens limit tokens).parse.1 = .error err ∧
        err.fault.message = s!"Maximum nesting depth of {limit} exceeded") ∧
      ((∀ v s, (Expr.literal v s).need = 0) ∧ (∀ n s, (Expr.identifier n s).need = 0) ∧
        (∀ b s, (Expr.group b s).need = 1 + b.need) ∧
        (∀ es s, (Expr.list es s).need = 1 + (es.map Expr.need).foldr max 0) ∧
        ∀ op l r s, (Expr.binary op l r s).need
          = (((Expr.binary op l r s).operands op.level).mapIdx fun i x => i + x.need).foldr max 0) ∧
      e.Canonical ∧
      (∀ op l r s, (Expr.binary op l r s).Canonical →
        (∀ x ∈ (Expr.binary op l r s).operands op.level, x.binding < op.level.rank) ∧
          (¬ op.level.chains = true → (Expr.binary op l r s).operands op.level = [l, r])) ∧
      ∀ limit others, let p := ofTokens limit others
        (∀ calls level, Counting.Balanced (Counting.expression p.setting calls level)) ∧
          (∀ calls opening, Counting.Balanced (Counting.group p.setting opening
            (Counting.expression p.setting calls (some .or)))) ∧
          (∀ calls opening, Counting.Balanced (Counting.list p.setting opening
            (Counting.elements p.setting calls))) ∧
          (∀ calls, Counting.Balanced (Counting.whole p.setting calls)) ∧
          (∀ calls, Counting.Balanced (Counting.condition p.setting calls)) ∧
          (∀ calls level c, 7 * c.rest.length + 7 ≤ calls →
            Counting.Tracks p.setting (Counting.expression p.setting calls level) c c.depth
              (read p.setting (limit - c.depth) level c.rest).val) ∧
          ∀ calls, 7 * p.rest.length + 7 ≤ calls →
            ∃ c, (Counting.whole p.setting calls).run ⟨p.rest, 0⟩ = some (p.parse.1, c) ∧
              c.rest = p.parse.2.rest ∧ limit - c.depth = p.parse.2.room := by
  refine ⟨fun limit => parse_eq_ok_of_need_le h, fun limit hneed => ?_,
    ⟨fun _ _ => rfl, fun _ _ => rfl, fun b _ => Nat.add_comm b.need 1, fun es s => ?_,
      fun op l r s => Expr.need_eq_chainNeed op.level _⟩,
    ((parse_eq_ok_iff _ e).mp h).2.1, fun op l r s hcan => ⟨?_, Expr.operands_of_not_chains hcan⟩,
    fun limit others => ?_⟩
  · obtain ⟨place, hplace⟩ := parse_eq_tooDeep_of_lt_need h hneed
    exact ⟨_, hplace, rfl⟩
  · rw [Expr.need, Expr.maxNeed_eq_foldr, Nat.add_comm]
  · exact Expr.binding_lt_of_mem_operands hcan (Nat.le_refl op.level.rank)
  · have hstop := kind_stop_ofTokens limit others
    have hbalanced := Counting.balanced (ofTokens limit others).setting
    exact ⟨fun calls => (hbalanced calls).1,
      fun calls => Counting.balanced_group ((hbalanced calls).1 (some .or)),
      fun calls => Counting.balanced_list (hbalanced calls).2.2,
      Counting.balanced_whole _, Counting.balanced_condition _,
      fun calls level c => Counting.tracks_expression hstop level c,
      fun calls => Counting.run_whole hstop (rest_ofTokens_ne_eof limit others) rfl⟩

/-- A name in parentheses is read under the limit `1`, and under the limit
`0` it is refused. -/
theorem parse_eq_of_need_group :
    let place (k : Nat) : Position := ⟨k, 1, k + 1⟩
    let name : Token := ⟨.identifier, "a", .string "a", ⟨place 1, place 2⟩⟩
    let tokens : List Token := [⟨.leftParen, "(", .null, ⟨place 0, place 1⟩⟩, name,
      ⟨.rightParen, ")", .null, ⟨place 2, place 3⟩⟩]
    let e : Expr := .group (.identifier "a" name.span) ⟨place 0, place 3⟩
    (ofTokens 7 tokens).parse.1 = .ok e ∧ (ofTokens 1 tokens).parse.1 = .ok e ∧
      ∃ err, (ofTokens 0 tokens).parse.1 = .error err ∧
        err.fault.message = "Maximum nesting depth of 0 exceeded" := by
  intro place name tokens e
  have h : (ofTokens 7 tokens).parse.1 = .ok e :=
    (parse_eq_ok_iff _ e).mpr ⟨⟨_, [name], _, rfl, rfl, rfl, ⟨name, rfl, rfl, rfl, rfl⟩, rfl⟩,
      trivial, by decide⟩
  obtain ⟨henough, hsmall, -⟩ := parse_eq_of_need h
  exact ⟨h, henough 1 (Nat.le_refl 1), hsmall 0 Nat.one_pos⟩

end Parser

end CardQuery
