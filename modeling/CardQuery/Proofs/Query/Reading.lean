import CardQuery.Proofs.Query.Tree
import CardQuery.Query.Source

/-!
# The trees that are read

Reading finds the one canonical tree of some tokens, if there is one and it
fits the room. `Parser.parse_eq_ok_iff` says so for all tokens up to the end:
a tree is read exactly if it is spelled by them, is canonical, and needs no
more room than there is.

The rules of the grammar give a tree together with the proof that fewer
tokens are left. The first section states each rule without that proof, as
an equation between outcomes; everything after it uses these equations only.
Both halves of the main statement follow the rules: what is read is spelled
by the tokens taken (`read_sound`), and a tree is read back from the tokens
that spell it, whatever follows, as long as that does not go on with the tree
(`read_complete`).
-/

namespace CardQuery.Grammar

/-! ## The rules, one by one -/

namespace Outcome

variable {α β : Type}

/-- What comes after a success. A failure stays what it is. -/
def andThen (o : Outcome α) (f : α → List Token → Outcome β) : Outcome β :=
  match o with
  | .ok v after => f v after
  | .failed e after room => .failed e after room

@[simp] theorem ok_andThen (v : α) (after : List Token) (f : α → List Token → Outcome β) :
    (Outcome.ok v after).andThen f = f v after := rfl

@[simp] theorem failed_andThen (e : ParseError) (after : List Token) (room : Nat)
    (f : α → List Token → Outcome β) :
    (Outcome.failed e after room).andThen f = .failed e after room := rfl

/-- Two steps succeed if the first does and then the second. -/
theorem andThen_eq_ok {o : Outcome α} {f : α → List Token → Outcome β} {v : β}
    {after : List Token} :
    o.andThen f = .ok v after ↔ ∃ u mid, o = .ok u mid ∧ f u mid = .ok v after := by
  constructor
  · intro h
    cases o with
    | ok u mid => exact ⟨u, mid, rfl, h⟩
    | failed e mid room => cases h
  · rintro ⟨u, mid, rfl, h⟩
    exact h

end Outcome

section Rules

variable (g : Setting) (room : Nat)

/-- Closes a bracket around what was read in it. -/
def close (kind : TokenKind) (fault : ParseFault) (node : Token → Expr)
    (tokens : List Token) : Outcome Expr :=
  match tokens with
  | [] => .failed ⟨fault, g.place []⟩ [] room
  | c :: after =>
    if c.kind = kind then .ok (node c) after
    else .failed ⟨fault, g.place (c :: after)⟩ (c :: after) room

variable {g room} in
theorem close_of_eq {kind : TokenKind} {c : Token} (h : c.kind = kind) (fault : ParseFault)
    (node : Token → Expr) (after : List Token) :
    close g room kind fault node (c :: after) = .ok (node c) after :=
  if_pos h

variable {g room} in
theorem close_of_ne {kind : TokenKind} {c : Token} (h : c.kind ≠ kind) (fault : ParseFault)
    (node : Token → Expr) (after : List Token) :
    close g room kind fault node (c :: after)
      = .failed ⟨fault, g.place (c :: after)⟩ (c :: after) room :=
  if_neg h

theorem close_eq_ok {kind : TokenKind} {fault : ParseFault} {node : Token → Expr}
    {tokens after : List Token} {e : Expr} :
    close g room kind fault node tokens = .ok e after ↔
      ∃ c, tokens = c :: after ∧ c.kind = kind ∧ node c = e := by
  unfold close
  constructor
  · intro h
    split at h
    · cases h
    · next c rest =>
      split at h
      · next hc =>
        cases h
        exact ⟨c, rfl, hc, rfl⟩
      · cases h
  · rintro ⟨c, rfl, hc, rfl⟩
    exact if_pos hc

/-- **A level** is an operand of the next tighter one and the links after
it. -/
theorem val_read_level (level : Level) (tokens : List Token) :
    (read g room (some level) tokens).val
      = (read g room level.tighter tokens).val.andThen
        fun left after => (chain g room level left after).val := by
  rw [read]
  split
  · next h => rw [h, Outcome.failed_andThen]
  · next h => rw [h, Outcome.ok_andThen]

/-- At the end nothing starts an expression. -/
theorem val_read_nil (level : Option Level) :
    (read g room level []).val
      = .failed ⟨.expectedExpression g.stop.lexeme, g.place []⟩ [] room := by
  -- the atoms refuse, and each level passes on what the tighter one says
  have hatom : (read g room none []).val
      = .failed ⟨.expectedExpression g.stop.lexeme, g.place []⟩ [] room := by
    rw [read]
    rfl
  have hlevel : ∀ level : Level, (read g room level.tighter []).val
        = .failed ⟨.expectedExpression g.stop.lexeme, g.place []⟩ [] room →
      (read g room (some level) []).val
        = .failed ⟨.expectedExpression g.stop.lexeme, g.place []⟩ [] room := by
    intro level h
    rw [val_read_level, h, Outcome.failed_andThen]
  have hmul := hlevel .multiplicative hatom
  have hadd := hlevel .additive hmul
  have hcmp := hlevel .comparison hadd
  have hand := hlevel .and hcmp
  cases level with
  | none => exact hatom
  | some level =>
    cases level with
    | multiplicative => exact hmul
    | additive => exact hadd
    | comparison => exact hcmp
    | and => exact hand
    | or => exact hlevel .or hand

theorem val_read_literal {t : Token} (rest : List Token) (h : t.kind.isLiteral = true) :
    (read g room none (t :: rest)).val = .ok (.literal t.value t.span) rest := by
  rw [read.eq_def]
  dsimp only
  rw [if_pos h]

theorem val_read_name {t : Token} (rest : List Token) (h : t.kind = .identifier) :
    (read g room none (t :: rest)).val = .ok (.identifier (fieldName t) t.span) rest := by
  rw [read.eq_def]
  dsimp only
  rw [if_neg (by rw [h]; decide), if_pos h]

/-- A bracket that finds no room is refused. -/
theorem val_read_bracket_zero {t : Token} (rest : List Token)
    (h : t.kind = .leftParen ∨ t.kind = .leftBracket) :
    (read g 0 none (t :: rest)).val = .failed ⟨.tooDeep g.limit, g.place rest⟩ rest 0 := by
  rw [read.eq_def]
  dsimp only
  rcases h with h | h
  · rw [if_neg (by rw [h]; decide), if_neg (by rw [h]; decide), if_pos h]
    rfl
  · rw [if_neg (by rw [h]; decide), if_neg (by rw [h]; decide), if_neg (by rw [h]; decide),
      if_pos h]
    rfl

theorem val_read_group {t : Token} (rest : List Token) (h : t.kind = .leftParen) :
    (read g (room + 1) none (t :: rest)).val
      = (read g room (some .or) rest).val.andThen fun body =>
        close g room .rightParen .expectedRightParen
          fun c => .group body (t.span.through c.span) := by
  rw [read.eq_def]
  dsimp only
  rw [if_neg (by rw [h]; decide), if_neg (by rw [h]; decide), if_pos h]
  split
  · next hr => rw [hr, Outcome.failed_andThen]
  · next hr =>
    rw [hr, Outcome.ok_andThen]
    split
    · split
      · next hc => rw [close_of_eq hc]
      · next hc => rw [close_of_ne hc]; rfl
    · rfl

theorem val_read_emptyList {t c : Token} (rest : List Token) (h : t.kind = .leftBracket)
    (hc : c.kind = .rightBracket) :
    (read g (room + 1) none (t :: c :: rest)).val
      = .ok (.list [] (t.span.through c.span)) rest := by
  rw [read.eq_def]
  dsimp only
  rw [if_neg (by rw [h]; decide), if_neg (by rw [h]; decide), if_neg (by rw [h]; decide),
    if_pos h, if_pos hc]

/-- Elements are one expression and the others after a comma. -/
theorem val_readElements (tokens : List Token) :
    (readElements g room tokens).val
      = (read g room (some .or) tokens).val.andThen fun first after =>
        match after with
        | [] => .ok [first] []
        | t :: rest =>
          if t.kind = .comma then
            (readElements g room rest).val.andThen fun others => .ok (first :: others)
          else .ok [first] (t :: rest) := by
  rw [readElements]
  split
  · next h => rw [h, Outcome.failed_andThen]
  · next h =>
    rw [h, Outcome.ok_andThen]
    split
    · rfl
    · dsimp only
      split
      · split
        · next h => rw [h, Outcome.failed_andThen]
        · next h => rw [h, Outcome.ok_andThen]
      · rfl

theorem val_read_list {t : Token} (rest : List Token) (h : t.kind = .leftBracket)
    (hr : ∀ c ∈ rest.head?, c.kind ≠ .rightBracket) :
    (read g (room + 1) none (t :: rest)).val
      = (readElements g room rest).val.andThen fun elements =>
        close g room .rightBracket .expectedRightBracket
          fun c => .list elements (t.span.through c.span) := by
  rw [read.eq_def]
  dsimp only
  rw [if_neg (by rw [h]; decide), if_neg (by rw [h]; decide), if_neg (by rw [h]; decide),
    if_pos h]
  cases rest with
  | nil =>
    rw [val_readElements, val_read_nil]
    rfl
  | cons c rest =>
    dsimp only
    rw [if_neg (hr c rfl)]
    split
    · next hs => rw [hs, Outcome.failed_andThen]
    · next hs =>
      rw [hs, Outcome.ok_andThen]
      split
      · split
        · next hc => rw [close_of_eq hc]
        · next hc => rw [close_of_ne hc]; rfl
      · rfl

/-- No other token starts an expression. -/
theorem val_read_other {t : Token} (rest : List Token) (hl : t.kind.isLiteral = false)
    (hi : t.kind ≠ .identifier) (hp : t.kind ≠ .leftParen) (hb : t.kind ≠ .leftBracket) :
    (read g room none (t :: rest)).val
      = .failed ⟨.expectedExpression t.lexeme, t.span.start⟩ (t :: rest) room := by
  rw [read.eq_def]
  dsimp only
  rw [if_neg (by rw [hl]; decide), if_neg hi, if_neg hp, if_neg hb]
  rfl

theorem val_chain_nil (level : Level) (left : Expr) :
    (chain g room level left []).val = .ok left [] := by
  rw [chain]

/-- A chain ends before a token that is no operator of its level. -/
theorem val_chain_stop {level : Level} {t : Token} (left : Expr) (rest : List Token)
    (h : t.kind.operatorAt level = none) :
    (chain g room level left (t :: rest)).val = .ok left (t :: rest) := by
  rw [chain]
  dsimp only
  split
  · rfl
  · next hs => rw [h] at hs; cases hs

/-- A link that finds no room is refused. -/
theorem val_chain_zero {level : Level} {t : Token} {op : Operator} (left : Expr)
    (rest : List Token) (h : t.kind.operatorAt level = some op) :
    (chain g 0 level left (t :: rest)).val = .failed ⟨.tooDeep g.limit, g.place rest⟩ rest 0 := by
  rw [chain]
  dsimp only
  split
  · next hs => rw [h] at hs; cases hs
  · rfl

/-- **A link** joins what stands before the operator with the operand after
it. Where operators chain, the next link may follow. -/
theorem val_chain_link {level : Level} {t : Token} {op : Operator} (left : Expr)
    (rest : List Token) (h : t.kind.operatorAt level = some op) :
    (chain g (room + 1) level left (t :: rest)).val
      = (read g room level.tighter rest).val.andThen fun right after =>
        if level.chains then (chain g room level (.join op left right) after).val
        else .ok (.join op left right) after := by
  rw [chain]
  dsimp only
  split
  · next hs => rw [h] at hs; cases hs
  · next op' hs =>
    rw [h] at hs
    cases hs
    split
    · next hr => rw [hr, Outcome.failed_andThen]
    · next hr =>
      rw [hr, Outcome.ok_andThen]
      split <;> rfl

end Rules

/-! ## What is read is spelled by the tokens taken -/

section Sound

variable {g : Setting} {room : Nat}

theorem length_lt_of_read {level : Option Level} {tokens after : List Token} {e : Expr}
    (h : (read g room level tokens).val = .ok e after) : after.length < tokens.length := by
  have hw := (read g room level tokens).property
  rw [h] at hw
  exact hw

theorem operatorAt_eq_some {level : Level} {k : TokenKind} {op : Operator}
    (h : k.operatorAt level = some op) : k = .operator op ∧ op.level = level := by
  unfold TokenKind.operatorAt at h
  split at h
  · split at h
    · next hl => cases h; exact ⟨rfl, hl⟩
    · cases h
  · cases h

mutual

/-- **What is read is a canonical tree of the tokens taken** that binds as
tightly as the level and needs no more room than there was. -/
theorem read_sound {room : Nat} {level : Option Level} {tokens after : List Token} {e : Expr}
    (h : (read g room level tokens).val = .ok e after) :
    ∃ used, tokens = used ++ after ∧ e.SpelledBy used ∧ e.Canonical ∧
      e.binding ≤ height level ∧ e.need ≤ room := by
  -- by the number of tokens, then by the height of the level: a level hands all its
  -- tokens to the tighter one, every other rule takes one first
  match level, tokens with
  | some level, tokens =>
    rw [val_read_level, Outcome.andThen_eq_ok] at h
    obtain ⟨left, mid, hleft, hchain⟩ := h
    have hlt := length_lt_of_read hleft
    obtain ⟨us, hus, hspell, hcan, hbind, hneed⟩ := read_sound hleft
    have hlow := Nat.lt_of_le_of_lt hbind (height_tighter level)
    obtain ⟨vs, hvs, hspell', hcan', hbind', hneed'⟩ :=
      chain_sound hspell hcan (.of_lt hlow) (Nat.le_add_right_of_le hneed) hchain
    rw [Expr.links_eq_zero hlow, Nat.add_zero] at hneed'
    exact ⟨us ++ vs, by rw [hus, hvs, List.append_assoc], hspell', hcan', hbind', hneed'⟩
  | none, [] =>
    rw [val_read_nil] at h
    cases h
  | none, t :: rest =>
    -- in the order in which the rule for atoms tries them
    by_cases hl : t.kind.isLiteral = true
    · rw [val_read_literal g room rest hl] at h
      cases h
      exact ⟨[t], rfl, ⟨t, rfl, hl, rfl, rfl⟩, trivial, Nat.le_refl _, Nat.zero_le _⟩
    by_cases hi : t.kind = .identifier
    · rw [val_read_name g room rest hi] at h
      cases h
      exact ⟨[t], rfl, ⟨t, rfl, hi, rfl, rfl⟩, trivial, Nat.le_refl _, Nat.zero_le _⟩
    by_cases hp : t.kind = .leftParen
    · match room with
      | 0 =>
        rw [val_read_bracket_zero g rest (.inl hp)] at h
        cases h
      | room + 1 =>
        rw [val_read_group g room rest hp, Outcome.andThen_eq_ok] at h
        obtain ⟨body, mid, hbody, hclose⟩ := h
        obtain ⟨c, rfl, hc, rfl⟩ := (close_eq_ok ..).mp hclose
        obtain ⟨us, rfl, hspell, hcan, -, hneed⟩ := read_sound hbody
        exact ⟨t :: (us ++ [c]), by simp, ⟨t, us, c, rfl, hp, hc, hspell, rfl⟩, hcan,
          Nat.le_refl _, Nat.succ_le_succ hneed⟩
    by_cases hb : t.kind = .leftBracket
    · match room with
      | 0 =>
        rw [val_read_bracket_zero g rest (.inr hb)] at h
        cases h
      | room + 1 =>
        by_cases hempty : ∀ c ∈ rest.head?, c.kind ≠ .rightBracket
        · rw [val_read_list g room rest hb hempty, Outcome.andThen_eq_ok] at h
          obtain ⟨es, mid, hes, hclose⟩ := h
          obtain ⟨c, rfl, hc, rfl⟩ := (close_eq_ok ..).mp hclose
          obtain ⟨-, us, rfl, hspell, hcan, hneed⟩ := readElements_sound hes
          exact ⟨t :: (us ++ [c]), by simp, ⟨t, us, c, rfl, hb, hc, hspell, rfl⟩, hcan,
            Nat.le_refl _, Nat.succ_le_succ hneed⟩
        · match rest with
          | [] => exact absurd (fun c hc => by cases hc) hempty
          | c :: rest =>
            have hc : c.kind = .rightBracket := by simpa using hempty
            rw [val_read_emptyList g room rest hb hc] at h
            cases h
            exact ⟨[t, c], rfl, ⟨t, [], c, rfl, hb, hc, rfl, rfl⟩, trivial, Nat.le_refl _,
              Nat.succ_le_succ (Nat.zero_le _)⟩
    · rw [val_read_other g room rest (by simpa using hl) hi hp hb] at h
      cases h
termination_by (tokens.length, height level)
decreasing_by
  · exact Prod.Lex.right _ (height_tighter level)
  · exact Prod.Lex.left _ _ hlt
  · exact Prod.Lex.left _ _ (Nat.lt_succ_self _)
  · exact Prod.Lex.left _ _ (Nat.lt_succ_self _)

/-- What a chain adds to a tree is again such a tree. -/
theorem chain_sound {room : Nat} {level : Level} {left e : Expr}
    {before tokens after : List Token} (hspell : left.SpelledBy before) (hcan : left.Canonical)
    (hfit : left.FitsLeftOf level) (hneed : left.need ≤ room + left.links level)
    (h : (chain g room level left tokens).val = .ok e after) :
    ∃ used, tokens = used ++ after ∧ e.SpelledBy (before ++ used) ∧ e.Canonical ∧
      e.binding ≤ level.rank ∧ e.need ≤ room + left.links level := by
  match tokens with
  | [] =>
    rw [val_chain_nil] at h
    cases h
    exact ⟨[], rfl, by rwa [List.append_nil], hcan, hfit.binding_le, hneed⟩
  | t :: rest =>
    match ht : t.kind.operatorAt level with
    | none =>
      rw [val_chain_stop g room left rest ht] at h
      cases h
      exact ⟨[], rfl, by rwa [List.append_nil], hcan, hfit.binding_le, hneed⟩
    | some op =>
      match room with
      | 0 =>
        rw [val_chain_zero g left rest ht] at h
        cases h
      | room + 1 =>
        rw [val_chain_link g room left rest ht, Outcome.andThen_eq_ok] at h
        obtain ⟨right, mid, hright, hrest⟩ := h
        have hlt := length_lt_of_read hright
        obtain ⟨us, hus, hspell', hcan', hbind', hneed'⟩ := read_sound hright
        obtain ⟨hop, rfl⟩ := operatorAt_eq_some ht
        have hlow := Nat.lt_of_le_of_lt hbind' (height_tighter op.level)
        -- the tree with the link is one link longer, and one place of room is gone
        have hjoin : (Expr.join op left right).SpelledBy (before ++ t :: us) :=
          ⟨before, t, us, rfl, hop, hspell, hspell', rfl⟩
        have hjcan : (Expr.join op left right).Canonical := ⟨hcan, hcan', hfit, hlow⟩
        have hlinks : (Expr.join op left right).links op.level = left.links op.level + 1 :=
          if_pos rfl
        have hjneed : (Expr.join op left right).need ≤ room + (left.links op.level + 1) := by
          show max left.need (left.links op.level + 1 + right.need) ≤ _
          omega
        -- only a level that chains goes on with the tree it has made
        split at hrest
        · next hchains =>
          obtain ⟨vs, hvs, hspell'', hcan'', hbind'', hneed''⟩ :=
            chain_sound hjoin hjcan (.of_chains hchains (Nat.le_refl _)) (hlinks ▸ hjneed) hrest
          refine ⟨t :: (us ++ vs), by rw [hus, hvs]; simp, ?_, hcan'', hbind'', by omega⟩
          simpa using hspell''
        · cases hrest
          exact ⟨t :: us, by rw [hus]; rfl, hjoin, hjcan, Nat.le_refl _, by omega⟩
termination_by (tokens.length, 0)
decreasing_by
  · exact Prod.Lex.left _ _ (Nat.lt_succ_self _)
  · exact Prod.Lex.left _ _ (Nat.lt_succ_of_lt hlt)

/-- What is read as the elements of a list are canonical trees of the tokens
taken that need no more room than there was. -/
theorem readElements_sound {room : Nat} {tokens after : List Token} {es : List Expr}
    (h : (readElements g room tokens).val = .ok es after) :
    es ≠ [] ∧ ∃ used, tokens = used ++ after ∧ Expr.ElementsSpelledBy es used ∧
      Expr.AllCanonical es ∧ Expr.maxNeed es ≤ room := by
  rw [val_readElements, Outcome.andThen_eq_ok] at h
  obtain ⟨first, mid, hfirst, hrest⟩ := h
  have hlt := length_lt_of_read hfirst
  obtain ⟨us, hus, hspell, hcan, -, hneed⟩ := read_sound hfirst
  have hone : Expr.maxNeed [first] ≤ room := Nat.max_le.mpr ⟨hneed, Nat.zero_le _⟩
  match mid with
  | [] =>
    cases hrest
    exact ⟨List.cons_ne_nil _ _, us, hus, hspell, ⟨hcan, trivial⟩, hone⟩
  | t :: rest =>
    dsimp only at hrest
    split at hrest
    · next hcomma =>
      obtain ⟨others, mid, hothers, hok⟩ := Outcome.andThen_eq_ok.mp hrest
      cases hok
      obtain ⟨hne, vs, hvs, hspell', hcan', hneed'⟩ := readElements_sound hothers
      refine ⟨List.cons_ne_nil _ _, us ++ t :: vs, by rw [hus, hvs]; simp, ?_, ⟨hcan, hcan'⟩,
        Nat.max_le.mpr ⟨hneed, hneed'⟩⟩
      exact (Expr.elementsSpelledBy_cons first hne _).mpr ⟨us, t, vs, rfl, hcomma, hspell, hspell'⟩
    · cases hrest
      exact ⟨List.cons_ne_nil _ _, us, hus, hspell, ⟨hcan, trivial⟩, hone⟩
termination_by (tokens.length, 6)
decreasing_by
  · exact Prod.Lex.right _ (by decide)
  · exact Prod.Lex.left _ _ (Nat.lt_of_succ_lt hlt)

end

end Sound

/-! ## A tree is read back from the tokens that spell it -/

/-- Tokens before which a level ends: they do not start with an operator of
the level or of a tighter one. -/
def Stops (level : Option Level) (tokens : List Token) : Prop :=
  ∀ t ∈ tokens.head?, ∀ op, t.kind = .operator op → height level < op.level.rank

theorem Stops.nil (level : Option Level) : Stops level [] := by
  intro t ht
  cases ht

theorem Stops.of_kind {level : Option Level} {t : Token} (tokens : List Token)
    (h : ∀ op, t.kind ≠ .operator op) : Stops level (t :: tokens) := by
  intro u hu op hop
  cases hu
  exact absurd hop (h op)

/-- Before an operator every tighter level ends. -/
theorem Stops.of_operator {level : Level} {t : Token} {op : Operator} (tokens : List Token)
    (h : t.kind = .operator op) (hl : level.rank ≤ op.level.rank) :
    Stops level.tighter (t :: tokens) := by
  intro u hu op' hop
  cases hu
  rw [h] at hop
  cases hop
  exact Nat.lt_of_lt_of_le (height_tighter level) hl

theorem Stops.tighter {level : Level} {tokens : List Token} (h : Stops (some level) tokens) :
    Stops level.tighter tokens :=
  fun t ht op hop => Nat.lt_trans (height_tighter level) (h t ht op hop)

theorem rank_injective {a b : Level} (h : a.rank = b.rank) : a = b := by
  cases a <;> cases b <;> first | rfl | cases h

theorem rank_pos (level : Level) : 0 < level.rank := by
  cases level <;> decide

theorem le_height_tighter {level : Level} {n : Nat} (h : n < level.rank) :
    n ≤ height level.tighter := by
  cases level <;> exact Nat.le_of_lt_succ h

section Complete

variable (g : Setting)

theorem val_chain_of_stops {level : Level} {tokens : List Token} (room : Nat) (left : Expr)
    (h : Stops (some level) tokens) :
    (chain g room level left tokens).val = .ok left tokens := by
  cases tokens with
  | nil => exact val_chain_nil g room level left
  | cons t rest =>
    refine val_chain_stop g room left rest (Option.eq_none_iff_forall_ne_some.mpr ?_)
    intro op hop
    obtain ⟨hk, rfl⟩ := operatorAt_eq_some hop
    exact Nat.lt_irrefl _ (h t rfl op hk)

/-- A tree is read at every level it fits, from the tokens that spell it. -/
def ReadBack (e : Expr) : Prop :=
  ∀ room level used rest, e.SpelledBy used → e.need ≤ room → e.binding ≤ height level →
    Stops level rest → (read g room level (used ++ rest)).val = .ok e rest

/-- A tree with an operator after it is read as the left part of a chain. -/
def ChainsBack (e : Expr) : Prop :=
  ∀ room level used rest, e.SpelledBy used → e.need ≤ room → level.chains = true →
    e.binding ≤ level.rank → Stops level.tighter rest →
    (read g room (some level) (used ++ rest)).val
      = (chain g (room - e.links level) level e rest).val

variable {g}

/-- What is read at the tightest level that a tree fits is read at all looser
ones, which only pass it on. -/
theorem ReadBack.of_level {e : Expr}
    (h : ∀ room level used rest, e.SpelledBy used → e.need ≤ room → e.binding = height level →
      Stops level rest → (read g room level (used ++ rest)).val = .ok e rest) :
    ReadBack g e := by
  intro room level used rest hspell hneed hbind hstop
  -- by the levels between the tree's own and the one that is asked
  induction hn : height level generalizing level with
  | zero => exact h room level used rest hspell hneed (by omega) hstop
  | succ n ih =>
    by_cases heq : e.binding = height level
    · exact h room level used rest hspell hneed heq hstop
    · match level with
      | some level =>
        have hlt : e.binding < level.rank := Nat.lt_of_le_of_ne hbind heq
        have hlow : height level.tighter = n := by
          cases level <;> exact Nat.succ.inj hn
        rw [val_read_level, ih level.tighter (le_height_tighter hlt) hstop.tighter hlow,
          Outcome.ok_andThen, val_chain_of_stops g room e hstop]

/-- A tree that binds more tightly than a level is a chain without links. -/
theorem ReadBack.val_read_level {e : Expr} (h : ReadBack g e) {room : Nat} {level : Level}
    {used rest : List Token} (hspell : e.SpelledBy used) (hneed : e.need ≤ room)
    (hlt : e.binding < level.rank) (hstop : Stops level.tighter rest) :
    (read g room (some level) (used ++ rest)).val = (chain g room level e rest).val := by
  rw [Grammar.val_read_level, h room level.tighter used rest hspell hneed
    (le_height_tighter hlt) hstop, Outcome.ok_andThen]

theorem ReadBack.read_or {e : Expr} (h : ReadBack g e) {room : Nat} {used rest : List Token}
    (hspell : e.SpelledBy used) (hneed : e.need ≤ room) (hstop : Stops (some .or) rest) :
    (read g room (some .or) (used ++ rest)).val = .ok e rest :=
  h room (some .or) used rest hspell hneed e.binding_le hstop

/-- The tokens of a tree do not start with a bracket that closes a list. -/
theorem exists_cons_of_spelledBy {e : Expr} {used : List Token} (h : e.SpelledBy used) :
    ∃ t us, used = t :: us ∧ t.kind ≠ .rightBracket := by
  induction e generalizing used with
  | literal v s =>
    obtain ⟨t, rfl, hl, -⟩ := h
    exact ⟨t, [], rfl, fun hk => by rw [hk] at hl; cases hl⟩
  | identifier name s =>
    obtain ⟨t, rfl, hi, -⟩ := h
    exact ⟨t, [], rfl, fun hk => by rw [hk] at hi; cases hi⟩
  | binary op l r s ihl ihr =>
    obtain ⟨us, t, vs, rfl, -, hl, -⟩ := h
    obtain ⟨u, ws, rfl, hu⟩ := ihl hl
    exact ⟨u, ws ++ t :: vs, rfl, hu⟩
  | group b s ih =>
    obtain ⟨o, us, c, rfl, ho, -⟩ := h
    exact ⟨o, us ++ [c], rfl, fun hk => by rw [hk] at ho; cases ho⟩
  | list es s ih =>
    obtain ⟨o, us, c, rfl, ho, -⟩ := h
    exact ⟨o, us ++ [c], rfl, fun hk => by rw [hk] at ho; cases ho⟩

theorem head?_ne_rightBracket {es : List Expr} (hne : es ≠ []) {used : List Token}
    (h : Expr.ElementsSpelledBy es used) (rest : List Token) :
    ∀ k ∈ (used ++ rest).head?, k.kind ≠ .rightBracket := by
  obtain ⟨t, us, rfl, ht⟩ : ∃ t us, used = t :: us ∧ t.kind ≠ .rightBracket := by
    match es, h with
    | [e], h => exact exists_cons_of_spelledBy h
    | e :: f :: fs, h =>
      obtain ⟨us, c, vs, rfl, -, hus, -⟩ := h
      obtain ⟨t, ws, rfl, ht⟩ := exists_cons_of_spelledBy hus
      exact ⟨t, ws ++ c :: vs, rfl, ht⟩
  intro k hk
  cases hk
  exact ht

/-- The elements of a list are read back up to the bracket that closes it. -/
theorem val_readElements_of_readBack {es : List Expr} (hne : es ≠ [])
    (h : ∀ e ∈ es, ReadBack g e) {room : Nat} {used : List Token} {c : Token}
    (rest : List Token) (hspell : Expr.ElementsSpelledBy es used)
    (hneed : Expr.maxNeed es ≤ room) (hc : c.kind = .rightBracket) :
    (readElements g room (used ++ c :: rest)).val = .ok es (c :: rest) := by
  induction es generalizing used with
  | nil => exact absurd rfl hne
  | cons e es ih =>
    obtain ⟨hfirst, hothers⟩ := Nat.max_le.mp hneed
    rw [val_readElements]
    by_cases hes : es = []
    · subst hes
      have hstop : Stops (some .or) (c :: rest) :=
        .of_kind rest (by rw [hc]; exact fun op h => by cases h)
      rw [(h e List.mem_cons_self).read_or hspell hfirst hstop, Outcome.ok_andThen]
      exact if_neg (by rw [hc]; decide)
    · obtain ⟨us, k, vs, rfl, hk, hus, hvs⟩ := (Expr.elementsSpelledBy_cons e hes used).mp hspell
      have hstop : Stops (some .or) (k :: (vs ++ c :: rest)) :=
        .of_kind _ (by rw [hk]; exact fun op h => by cases h)
      rw [List.append_assoc, List.cons_append,
        (h e List.mem_cons_self).read_or hus hfirst hstop, Outcome.ok_andThen]
      dsimp only
      rw [if_pos hk, ih hes (fun f hf => h f (List.mem_cons_of_mem _ hf)) hvs hothers,
        Outcome.ok_andThen]

/-- An atom is read back if the atoms' rule reads it back. -/
theorem readBack_atom {e : Expr} (hb : e.binding = 0)
    (h : ∀ room used rest, e.SpelledBy used → e.need ≤ room →
      (read g room none (used ++ rest)).val = .ok e rest) : ReadBack g e ∧ ChainsBack g e := by
  have hread : ReadBack g e := by
    refine .of_level fun room level used rest hspell hneed hbind hstop => ?_
    cases level with
    | none => exact h room used rest hspell hneed
    | some level => exact absurd (hb.symm.trans hbind) (Nat.ne_of_lt (rank_pos level))
  refine ⟨hread, fun room level used rest hspell hneed hchains hbind hstop => ?_⟩
  have hlt : e.binding < level.rank := by
    rw [hb]
    exact rank_pos level
  rw [Expr.links_eq_zero hlt]
  exact hread.val_read_level hspell hneed hlt hstop

/-- A chain with one more link is read once the chain without it is. -/
theorem val_read_link {op : Operator} {l r : Expr} {s : Span} (hl : ChainsBack g l)
    (hr : ReadBack g r) (hfit : l.FitsLeftOf op.level) (hlow : r.binding < op.level.rank)
    (hchains : op.level.chains = true) {room : Nat} {used rest : List Token}
    (hspell : (Expr.binary op l r s).SpelledBy used)
    (hneed : (Expr.binary op l r s).need ≤ room) (hstop : Stops op.level.tighter rest) :
    (read g room (some op.level) (used ++ rest)).val
      = (chain g (room - (Expr.binary op l r s).links op.level) op.level
          (.binary op l r s) rest).val := by
  obtain ⟨us, t, vs, rfl, ht, hus, hvs, rfl⟩ := hspell
  obtain ⟨hneedl, hneedr⟩ := Nat.max_le.mp hneed
  have hlinks : (Expr.join op l r).links op.level = l.links op.level + 1 := if_pos rfl
  -- past the links of the left operand, one place is for this link, the others for what follows
  obtain ⟨k, hk⟩ : ∃ k, room = l.links op.level + 1 + k := Nat.exists_eq_add_of_le (by omega)
  have hroom : room - l.links op.level = k + 1 := by omega
  have hop : t.kind.operatorAt op.level = some op := by
    rw [ht]
    exact if_pos rfl
  rw [List.append_assoc, List.cons_append,
    hl room op.level us _ hus hneedl hchains hfit.binding_le (.of_operator _ ht (Nat.le_refl _)),
    hroom, val_chain_link g k l _ hop,
    hr k op.level.tighter vs rest hvs (by omega) (le_height_tighter hlow) hstop,
    Outcome.ok_andThen, if_pos hchains]
  show _ = (chain g (room - (Expr.join op l r).links op.level) op.level (.join op l r) rest).val
  rw [hlinks, Nat.sub_add_eq, hroom, Nat.add_sub_cancel]

/-- Two operands of an operator that does not chain are read back. -/
theorem val_read_pair {op : Operator} {l r : Expr} {s : Span} (hl : ReadBack g l)
    (hr : ReadBack g r) (hfit : l.FitsLeftOf op.level) (hlow : r.binding < op.level.rank)
    (hchains : ¬ op.level.chains = true) {room : Nat} {used rest : List Token}
    (hspell : (Expr.binary op l r s).SpelledBy used)
    (hneed : (Expr.binary op l r s).need ≤ room) (hstop : Stops op.level.tighter rest) :
    (read g room (some op.level) (used ++ rest)).val = .ok (.binary op l r s) rest := by
  obtain ⟨us, t, vs, rfl, ht, hus, hvs, rfl⟩ := hspell
  obtain ⟨hneedl, hneedr⟩ := Nat.max_le.mp hneed
  have hleft : l.binding < op.level.rank := by
    unfold Expr.FitsLeftOf at hfit
    rwa [if_neg hchains] at hfit
  have hop : t.kind.operatorAt op.level = some op := by
    rw [ht]
    exact if_pos rfl
  obtain ⟨k, rfl⟩ : ∃ k, room = k + 1 := Nat.exists_eq_add_of_le' (by omega)
  rw [List.append_assoc, List.cons_append,
    hl.val_read_level hus hneedl hleft (.of_operator _ ht (Nat.le_refl _)),
    val_chain_link g k l _ hop,
    hr k op.level.tighter vs rest hvs (by omega) (le_height_tighter hlow) hstop,
    Outcome.ok_andThen, if_neg hchains]
  rfl

/-- **A canonical tree is read back**, and with an operator after it a chain
starts with it. -/
theorem readBack (e : Expr) (hcan : e.Canonical) : ReadBack g e ∧ ChainsBack g e := by
  -- both at once: the left operand of a chain is needed as a chain, the right one and
  -- what stands in brackets as a tree on its own
  induction e with
  | literal v s =>
    refine readBack_atom rfl fun room used rest hspell _ => ?_
    obtain ⟨t, rfl, hl, rfl, rfl⟩ := hspell
    exact val_read_literal g room rest hl
  | identifier name s =>
    refine readBack_atom rfl fun room used rest hspell _ => ?_
    obtain ⟨t, rfl, hi, rfl, rfl⟩ := hspell
    exact val_read_name g room rest hi
  | group b s ih =>
    refine readBack_atom rfl fun room used rest hspell hneed => ?_
    obtain ⟨o, us, c, rfl, ho, hc, hb, rfl⟩ := hspell
    match room with
    | room + 1 =>
      have hstop : Stops (some .or) (c :: rest) :=
        .of_kind rest (by rw [hc]; exact fun op h => by cases h)
      rw [List.cons_append, List.append_assoc, List.singleton_append, val_read_group g room _ ho,
        (ih hcan).1.read_or hb (Nat.le_of_succ_le_succ hneed) hstop, Outcome.ok_andThen]
      exact close_of_eq hc _ _ _
  | list es s ih =>
    refine readBack_atom rfl fun room used rest hspell hneed => ?_
    obtain ⟨o, us, c, rfl, ho, hc, hes, rfl⟩ := hspell
    have hcan := (Expr.allCanonical_iff es).mp hcan
    match room with
    | room + 1 =>
      by_cases hne : es = []
      · subst hne
        cases hes
        exact val_read_emptyList g room rest ho hc
      · rw [List.cons_append, List.append_assoc, List.singleton_append,
          val_read_list g room _ ho (head?_ne_rightBracket hne hes _),
          val_readElements_of_readBack hne (fun e he => (ih e he (hcan e he)).1) rest hes
            (Nat.le_of_succ_le_succ hneed) hc, Outcome.ok_andThen]
        exact close_of_eq hc _ _ _
  | binary op l r s ihl ihr =>
    obtain ⟨hl, hr, hfit, hlow⟩ := hcan
    obtain ⟨hreadl, hchainl⟩ := ihl hl
    obtain ⟨hreadr, -⟩ := ihr hr
    have hread : ReadBack g (.binary op l r s) := by
      refine .of_level fun room level used rest hspell hneed hbind hstop => ?_
      match level with
      | none => exact absurd hbind (Nat.ne_of_gt (rank_pos op.level))
      | some level =>
        obtain rfl : op.level = level := rank_injective hbind
        by_cases hchains : op.level.chains = true
        · rw [val_read_link hchainl hreadr hfit hlow hchains hspell hneed hstop.tighter,
            val_chain_of_stops g _ _ hstop]
        · exact val_read_pair hreadl hreadr hfit hlow hchains hspell hneed hstop.tighter
    refine ⟨hread, fun room level used rest hspell hneed hchains hbind hstop => ?_⟩
    -- a looser level finds the tree as its first operand, without links of its own
    by_cases heq : op.level = level
    · subst heq
      exact val_read_link hchainl hreadr hfit hlow hchains hspell hneed hstop
    · have hlt : (Expr.binary op l r s).binding < level.rank :=
        Nat.lt_of_le_of_ne hbind fun h => heq (rank_injective h)
      rw [Expr.links_eq_zero hlt]
      exact hread.val_read_level hspell hneed hlt hstop

end Complete

end CardQuery.Grammar

namespace CardQuery.Parser

open Grammar

/-- A tree is given if reading leaves nothing up to the end. -/
theorem parse_eq_ok_iff_read (p : Parser) (e : Expr) :
    p.parse.1 = .ok e ↔ (read p.setting p.room (some .or) p.rest).val = .ok e [] := by
  unfold parse
  split
  · next h => rw [h]; simp
  · next h => rw [h]; simp
  · next h => rw [h]; simp

/-- **The trees that are read.** Reading gives a tree exactly if it is a
canonical tree of all tokens that finds enough room. -/
theorem parse_eq_ok_iff (p : Parser) (e : Expr) :
    p.parse.1 = .ok e ↔ e.SpelledBy p.rest ∧ e.Canonical ∧ e.need ≤ p.room := by
  rw [parse_eq_ok_iff_read]
  constructor
  · intro h
    obtain ⟨used, hused, hspell, hcan, -, hneed⟩ := read_sound h
    rw [List.append_nil] at hused
    exact ⟨hused ▸ hspell, hcan, hneed⟩
  · rintro ⟨hspell, hcan, hneed⟩
    have h := (readBack (g := p.setting) e hcan).1.read_or hspell hneed (.nil _)
    rwa [List.append_nil] at h

/-- A condition is read as one, and nothing else is. -/
theorem parseQuery_eq_ok_iff (p : Parser) (e : Expr) :
    p.parseQuery.1 = .ok e ↔ p.parse.1 = .ok e ∧ e.isCondition = true := by
  unfold parseQuery
  match h : p.parse with
  | (.error fault, q) => simp
  | (.ok e', q) =>
    show (if e'.isCondition then Except.ok e' else .error _) = Except.ok e ↔
      (Except.ok e' : Except ParseError Expr) = .ok e ∧ _
    by_cases hc : e'.isCondition = true
    · rw [if_pos hc]
      constructor
      · intro h
        cases h
        exact ⟨rfl, hc⟩
      · rintro ⟨h, -⟩
        exact h
    · rw [if_neg hc]
      constructor
      · intro h
        cases h
      · rintro ⟨h, hc'⟩
        cases h
        exact absurd hc' hc

end CardQuery.Parser

namespace CardQuery

/-- A text is read if it is cut into tokens and these are read. -/
theorem parseWith_eq_ok_iff (read : Parser → Except ParseError Expr × Parser) (limit : Nat)
    (source : String) (e : Expr) :
    parseWith read limit source = .ok e ↔
      ∃ tokens, tokenize source = .ok tokens ∧ (read (.ofTokens limit tokens)).1 = .ok e := by
  unfold parseWith
  cases tokenize source with
  | error fault => simp
  | ok tokens =>
    have hmap : ∀ o : Except ParseError Expr,
        o.mapError QueryError.parsing = .ok e ↔ o = .ok e := by
      intro o
      cases o with
      | error fault =>
        constructor
        · intro h
          have herror : Except.error (QueryError.parsing fault) = Except.ok e := h
          cases herror
        · intro h
          cases h
      | ok e' => exact ⟨fun h => congrArg Except.ok (Except.ok.inj h), fun h => h ▸ rfl⟩
    show (read (.ofTokens limit tokens)).1.mapError QueryError.parsing = .ok e ↔ _
    rw [hmap]
    constructor
    · intro h
      exact ⟨tokens, rfl, h⟩
    · rintro ⟨_, ⟨⟩, h⟩
      exact h

end CardQuery
