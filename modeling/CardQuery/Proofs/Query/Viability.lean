import CardQuery.Proofs.Query.Grammar

/-!
# Where reading fails

A failure is reported at the first token that cannot go on with the tokens
before it (`parse_error_first_offending`). Those before it can be completed
under the same limit: what is open is closed, after a literal if an
expression is missing. The token itself cannot be mended: whatever is put
behind it, and however much room there is, nothing is read.

Both halves rest on how little a rule looks at. It takes tokens off the
front and looks at one more at most, so what follows that one may be
exchanged, and more room changes nothing but failures for want of room
(`carried`). A failure for want of room is the one that says nothing about
its token. What is open where reading fails is completed rule by rule
(`completable`).

All of this goes along the rules of the grammar. `Rules` lists them once, as
the steps of an induction over what is read, over the links of a chain and
over the elements of a list.
-/

namespace CardQuery

/-- **Whether a failure is one for want of room**, which says nothing about the
token at which it shows. -/
def ParseError.IsDepth (e : ParseError) : Prop := ∃ limit, e.fault = .tooDeep limit

/-- A token of which only the kind matters. -/
def Token.filler (kind : TokenKind) : Token := ⟨kind, "", .null, .point .start⟩

namespace Grammar

/-! ## Induction along the rules -/

section Steps

variable (g : Setting) (room : Nat)

/-- What stands behind the operand of a link: the next link, where operators
chain. -/
def nextLink (op : Operator) (left right : Expr) (after : List Token) : Outcome Expr :=
  if op.level.chains then (chain g room op.level (.join op left right) after).val
  else .ok (.join op left right) after

theorem val_chain_eq {t : Token} {op : Operator} (left : Expr) (rest : List Token)
    (h : t.kind = .operator op) :
    (chain g (room + 1) op.level left (t :: rest)).val
      = (read g room op.level.tighter rest).val.andThen (nextLink g room op left) := by
  have hop : t.kind.operatorAt op.level = some op := by
    rw [h]
    exact if_pos rfl
  exact val_chain_link g room left rest hop

theorem nextLink_of_chains {op : Operator} (h : op.level.chains = true) (left right : Expr)
    (after : List Token) :
    nextLink g room op left right after
      = (chain g room op.level (.join op left right) after).val :=
  if_pos h

theorem nextLink_of_not_chains {op : Operator} (h : ¬ op.level.chains = true) (left right : Expr)
    (after : List Token) :
    nextLink g room op left right after = .ok (.join op left right) after :=
  if_neg h

/-- No link comes where the level ends. -/
theorem nextLink_of_stops {op : Operator} (left right : Expr) {after : List Token}
    (h : Stops (some op.level) after) :
    nextLink g room op left right after = .ok (.join op left right) after := by
  by_cases hc : op.level.chains = true
  · rw [nextLink_of_chains g room hc, val_chain_of_stops g room _ h]
  · exact nextLink_of_not_chains g room hc left right after

variable (first : Expr)

/-- What stands behind the first element of a list: the others, if there is a
comma. -/
def moreElements (after : List Token) : Outcome (List Expr) :=
  match after with
  | [] => .ok [first] []
  | t :: rest =>
    if t.kind = .comma then
      (readElements g room rest).val.andThen fun others => .ok (first :: others)
    else .ok [first] (t :: rest)

theorem val_readElements_eq (tokens : List Token) :
    (readElements g room tokens).val
      = (read g room (some .or) tokens).val.andThen (moreElements g room) :=
  val_readElements g room tokens

theorem moreElements_of_comma {t : Token} (rest : List Token) (h : t.kind = .comma) :
    moreElements g room first (t :: rest)
      = (readElements g room rest).val.andThen fun others => .ok (first :: others) :=
  if_pos h

theorem moreElements_of_stop {after : List Token} (h : ∀ t ∈ after.head?, t.kind ≠ .comma) :
    moreElements g room first after = .ok [first] after := by
  cases after with
  | nil => rfl
  | cons t rest => exact if_neg (h t rfl)

end Steps

/-- **The rules of the grammar as steps of an induction.** `Read`, `Chain` and
`Elements` are what is claimed of an outcome of each kind; a rule that goes
on with what another one leaves has that as its hypothesis. -/
structure Rules (g : Setting) (Read : Nat → Option Level → List Token → Outcome Expr → Prop)
    (Chain : Nat → Level → Expr → List Token → Outcome Expr → Prop)
    (Elements : Nat → List Token → Outcome (List Expr) → Prop) : Prop where
  level {room : Nat} {level : Level} {tokens : List Token} {o : Outcome Expr}
    (ho : (read g room level.tighter tokens).val = o) (operand : Read room level.tighter tokens o)
    (links : ∀ left after, o = .ok left after →
      Chain room level left after (chain g room level left after).val) :
    Read room (some level) tokens
      (o.andThen fun left after => (chain g room level left after).val)
  nil (room : Nat) :
    Read room none [] (.failed ⟨.expectedExpression g.stop.lexeme, g.place []⟩ [] room)
  literal (room : Nat) {t : Token} (rest : List Token) (h : t.kind.isLiteral = true) :
    Read room none (t :: rest) (.ok (.literal t.value t.span) rest)
  name (room : Nat) {t : Token} (rest : List Token) (h : t.kind = .identifier) :
    Read room none (t :: rest) (.ok (.identifier (fieldName t) t.span) rest)
  bracketZero {t : Token} (rest : List Token) (h : t.kind = .leftParen ∨ t.kind = .leftBracket) :
    Read 0 none (t :: rest) (.failed ⟨.tooDeep g.limit, g.place rest⟩ rest 0)
  group {room : Nat} {t : Token} {rest : List Token} {o : Outcome Expr} (h : t.kind = .leftParen)
    (ho : (read g room (some .or) rest).val = o) (body : Read room (some .or) rest o) :
    Read (room + 1) none (t :: rest)
      (o.andThen fun body => close g room .rightParen .expectedRightParen
        fun c => .group body (t.span.through c.span))
  emptyList (room : Nat) {t c : Token} (rest : List Token) (h : t.kind = .leftBracket)
    (hc : c.kind = .rightBracket) :
    Read (room + 1) none (t :: c :: rest) (.ok (.list [] (t.span.through c.span)) rest)
  list {room : Nat} {t : Token} {rest : List Token} {o : Outcome (List Expr)}
    (h : t.kind = .leftBracket) (hrest : ∀ c ∈ rest.head?, c.kind ≠ .rightBracket)
    (ho : (readElements g room rest).val = o) (elements : Elements room rest o) :
    Read (room + 1) none (t :: rest)
      (o.andThen fun elements => close g room .rightBracket .expectedRightBracket
        fun c => .list elements (t.span.through c.span))
  other (room : Nat) {t : Token} (rest : List Token) (hl : t.kind.isLiteral = false)
    (hi : t.kind ≠ .identifier) (hp : t.kind ≠ .leftParen) (hb : t.kind ≠ .leftBracket) :
    Read room none (t :: rest)
      (.failed ⟨.expectedExpression t.lexeme, t.span.start⟩ (t :: rest) room)
  chainNil (room : Nat) (level : Level) (left : Expr) : Chain room level left [] (.ok left [])
  chainStop (room : Nat) {level : Level} {t : Token} (left : Expr) (rest : List Token)
    (h : t.kind.operatorAt level = none) :
    Chain room level left (t :: rest) (.ok left (t :: rest))
  chainZero {level : Level} {t : Token} {op : Operator} (left : Expr) (rest : List Token)
    (h : t.kind.operatorAt level = some op) :
    Chain 0 level left (t :: rest) (.failed ⟨.tooDeep g.limit, g.place rest⟩ rest 0)
  link {room : Nat} {op : Operator} {t : Token} {left : Expr} {rest : List Token}
    {o : Outcome Expr} (h : t.kind = .operator op)
    (ho : (read g room op.level.tighter rest).val = o)
    (operand : Read room op.level.tighter rest o)
    (links : ∀ right after, o = .ok right after →
      Chain room op.level (.join op left right) after
        (chain g room op.level (.join op left right) after).val) :
    Chain (room + 1) op.level left (t :: rest) (o.andThen (nextLink g room op left))
  elements {room : Nat} {tokens : List Token} {o : Outcome Expr}
    (ho : (read g room (some .or) tokens).val = o) (first : Read room (some .or) tokens o)
    (others : ∀ e t rest, o = .ok e (t :: rest) →
      Elements room rest (readElements g room rest).val) :
    Elements room tokens (o.andThen (moreElements g room))

section Induction

variable {g : Setting} {Read : Nat → Option Level → List Token → Outcome Expr → Prop}
  {Chain : Nat → Level → Expr → List Token → Outcome Expr → Prop}
  {Elements : Nat → List Token → Outcome (List Expr) → Prop}

mutual

/-- **What the rules keep holds of everything that is read.** -/
theorem Rules.read (h : Rules g Read Chain Elements) (room : Nat) (level : Option Level)
    (tokens : List Token) : Read room level tokens (Grammar.read g room level tokens).val := by
  match level, tokens with
  | some level, tokens =>
    rw [val_read_level]
    refine h.level rfl (h.read room level.tighter tokens) fun left after ho => ?_
    have hlt := length_lt_of_read ho
    exact h.chain room level left after
  | none, [] =>
    rw [val_read_nil]
    exact h.nil room
  | none, t :: rest =>
    by_cases hl : t.kind.isLiteral = true
    · rw [val_read_literal g room rest hl]
      exact h.literal room rest hl
    by_cases hi : t.kind = .identifier
    · rw [val_read_name g room rest hi]
      exact h.name room rest hi
    by_cases hp : t.kind = .leftParen
    · match room with
      | 0 =>
        rw [val_read_bracket_zero g rest (.inl hp)]
        exact h.bracketZero rest (.inl hp)
      | room + 1 =>
        rw [val_read_group g room rest hp]
        exact h.group hp rfl (h.read room (some .or) rest)
    by_cases hb : t.kind = .leftBracket
    · match room with
      | 0 =>
        rw [val_read_bracket_zero g rest (.inr hb)]
        exact h.bracketZero rest (.inr hb)
      | room + 1 =>
        by_cases hempty : ∀ c ∈ rest.head?, c.kind ≠ .rightBracket
        · rw [val_read_list g room rest hb hempty]
          exact h.list hb hempty rfl (h.readElements room rest)
        · match rest with
          | [] => exact absurd (fun c hc => by cases hc) hempty
          | c :: rest =>
            have hc : c.kind = .rightBracket := by simpa using hempty
            rw [val_read_emptyList g room rest hb hc]
            exact h.emptyList room rest hb hc
    · rw [val_read_other g room rest (by simpa using hl) hi hp hb]
      exact h.other room rest (by simpa using hl) hi hp hb
termination_by (tokens.length, height level)
decreasing_by
  · exact Prod.Lex.right _ (height_tighter level)
  · exact Prod.Lex.left _ _ hlt
  · exact Prod.Lex.left _ _ (Nat.lt_succ_self _)
  · exact Prod.Lex.left _ _ (Nat.lt_succ_self _)

/-- What the rules keep holds of every chain. -/
theorem Rules.chain (h : Rules g Read Chain Elements) (room : Nat) (level : Level) (left : Expr)
    (tokens : List Token) :
    Chain room level left tokens (Grammar.chain g room level left tokens).val := by
  match tokens with
  | [] =>
    rw [val_chain_nil]
    exact h.chainNil room level left
  | t :: rest =>
    match ht : t.kind.operatorAt level with
    | none =>
      rw [val_chain_stop g room left rest ht]
      exact h.chainStop room left rest ht
    | some op =>
      match room with
      | 0 =>
        rw [val_chain_zero g left rest ht]
        exact h.chainZero left rest ht
      | room + 1 =>
        obtain ⟨hop, rfl⟩ := operatorAt_eq_some ht
        rw [val_chain_eq g room left rest hop]
        refine h.link hop rfl (h.read room op.level.tighter rest) fun right after ho => ?_
        have hlt := length_lt_of_read ho
        exact h.chain room op.level (.join op left right) after
termination_by (tokens.length, 0)
decreasing_by
  · exact Prod.Lex.left _ _ (Nat.lt_succ_self _)
  · exact Prod.Lex.left _ _ (Nat.lt_succ_of_lt hlt)

/-- What the rules keep holds of the elements of every list. -/
theorem Rules.readElements (h : Rules g Read Chain Elements) (room : Nat) (tokens : List Token) :
    Elements room tokens (Grammar.readElements g room tokens).val := by
  rw [val_readElements_eq]
  refine h.elements rfl (h.read room (some .or) tokens) fun e t rest ho => ?_
  have hlt := length_lt_of_read ho
  exact h.readElements room rest
termination_by (tokens.length, 6)
decreasing_by
  · exact Prod.Lex.right _ (by decide)
  · exact Prod.Lex.left _ _ (Nat.lt_of_succ_lt hlt)

end

end Induction

/-! ## What a failure leaves -/

namespace Outcome

variable {α β : Type} {g : Setting} {tokens : List Token}

/-- Two steps fail if the first does, or the second after it. -/
theorem andThen_eq_failed {o : Outcome α} {f : α → List Token → Outcome β} {e : ParseError}
    {after : List Token} {room : Nat} (h : o.andThen f = .failed e after room) :
    o = .failed e after room ∨ ∃ v mid, o = .ok v mid ∧ f v mid = .failed e after room := by
  cases o with
  | ok v mid => exact .inr ⟨v, mid, rfl, h⟩
  | failed e' mid room' =>
    cases h
    exact .inl rfl

/-- The tokens that an outcome leaves. -/
def left : Outcome α → List Token
  | .ok _ after | .failed _ after _ => after

/-- **What every rule keeps to**: it takes tokens off the front only, and a
failure is reported at the first one that it leaves. -/
structure Keeps (g : Setting) (tokens : List Token) (o : Outcome α) : Prop where
  suffix : o.left <:+ tokens
  place : ∀ {e after room}, o = .failed e after room → e.position = g.place after

theorem Keeps.ok {after : List Token} (h : after <:+ tokens) (v : α) :
    Keeps g tokens (.ok v after) :=
  ⟨h, fun h => by cases h⟩

theorem Keeps.failed {after : List Token} (h : after <:+ tokens) (fault : ParseFault)
    (room : Nat) : Keeps g tokens (.failed ⟨fault, g.place after⟩ after room : Outcome α) :=
  ⟨h, fun h => by cases h; rfl⟩

/-- A rule that takes a token and then keeps to the others. -/
theorem Keeps.cons {o : Outcome α} (h : Keeps g tokens o) (t : Token) : Keeps g (t :: tokens) o :=
  ⟨h.suffix.trans (List.suffix_cons t tokens), h.place⟩

theorem Keeps.andThen {o : Outcome α} {f : α → List Token → Outcome β} (h : Keeps g tokens o)
    (hf : ∀ v after, o = .ok v after → Keeps g after (f v after)) :
    Keeps g tokens (o.andThen f) := by
  cases o with
  | ok v after =>
    have hafter := hf v after rfl
    exact ⟨hafter.suffix.trans h.suffix, hafter.place⟩
  | failed e after room => exact ⟨h.suffix, fun he => by cases he; exact h.place rfl⟩

theorem keeps_close (room : Nat) (kind : TokenKind) (fault : ParseFault) (node : Token → Expr)
    (tokens : List Token) : Keeps g tokens (close g room kind fault node tokens) := by
  cases tokens with
  | nil => exact .failed (List.suffix_refl []) fault room
  | cons c after =>
    by_cases hc : c.kind = kind
    · rw [close_of_eq hc]
      exact .ok (List.suffix_cons c after) (node c)
    · rw [close_of_ne hc]
      exact .failed (List.suffix_refl _) fault room

theorem keeps_nextLink {room : Nat} {op : Operator} {left right : Expr} {after : List Token}
    (h : Keeps g after (chain g room op.level (.join op left right) after).val) :
    Keeps g after (nextLink g room op left right after) := by
  by_cases hc : op.level.chains = true
  · rwa [nextLink_of_chains g room hc]
  · rw [nextLink_of_not_chains g room hc]
    exact .ok (List.suffix_refl after) _

theorem keeps_moreElements {room : Nat} {after : List Token} (e : Expr)
    (h : ∀ t rest, after = t :: rest → Keeps g rest (readElements g room rest).val) :
    Keeps g after (moreElements g room e after) := by
  by_cases hcomma : ∀ t ∈ after.head?, t.kind ≠ .comma
  · rw [moreElements_of_stop g room e hcomma]
    exact .ok (List.suffix_refl after) [e]
  · cases after with
    | nil => exact absurd (fun t ht => by cases ht) hcomma
    | cons t rest =>
      rw [moreElements_of_comma g room e rest (by simpa using hcomma)]
      exact ((h t rest rfl).andThen fun es after _ => .ok (List.suffix_refl after) (e :: es)).cons t

end Outcome

open Outcome

/-- The rules take tokens off the front only. -/
theorem keeps (g : Setting) :
    Rules g (fun _ _ tokens o => Keeps g tokens o) (fun _ _ _ tokens o => Keeps g tokens o)
      (fun _ tokens o => Keeps g tokens o) where
  level _ operand links := operand.andThen links
  nil room := .failed (List.suffix_refl []) _ room
  literal _ _ rest _ := .ok (List.suffix_cons _ rest) _
  name _ _ rest _ := .ok (List.suffix_cons _ rest) _
  bracketZero rest _ := .failed (List.suffix_cons _ rest) _ 0
  group _ _ body := (body.andThen fun _ _ _ => keeps_close ..).cons _
  emptyList _ _ c rest _ _ := .ok ((List.suffix_cons c rest).trans (List.suffix_cons _ _)) _
  list _ _ _ elements := (elements.andThen fun _ _ _ => keeps_close ..).cons _
  other room _ rest _ _ _ _ := .failed (List.suffix_refl (_ :: rest)) _ room
  chainNil _ _ left := .ok (List.suffix_refl []) left
  chainStop _ _ _ left rest _ := .ok (List.suffix_refl (_ :: rest)) left
  chainZero _ rest _ := .failed (List.suffix_cons _ rest) _ 0
  link _ _ operand links :=
    (operand.andThen fun right after ho => keeps_nextLink (links right after ho)).cons _
  elements _ first others := first.andThen fun e _ ho =>
    keeps_moreElements e fun t rest heq => others e t rest (heq ▸ ho)

/-! ## What is not looked at -/

/-- **An outcome carried over** to tokens that go on in another way from some
place on. A success that stops short of that place stays the same, and a
failure short of it or at it stays one, unless it was for want of room. -/
structure Outcome.Carried {α : Type} (cut cut' : List Token) (o o' : Outcome α) : Prop where
  ok : ∀ {v p}, o = .ok v (p ++ cut) → o' = .ok v (p ++ cut')
  failed : ∀ {e p room}, o = .failed e (p ++ cut) room → ¬ e.IsDepth →
    ∃ e' room', o' = .failed e' (p ++ cut') room'

namespace Outcome

variable {α β : Type} {cut cut' : List Token}

theorem Carried.refl_ok (v : α) (p : List Token) :
    Carried cut cut' (.ok v (p ++ cut)) (.ok v (p ++ cut')) where
  ok h := by
    obtain ⟨rfl, heq⟩ := Outcome.ok.inj h
    rw [List.append_cancel_right heq]
  failed h := by cases h

theorem Carried.refl_failed (e e' : ParseError) (p : List Token) (room room' : Nat) :
    Carried cut cut' (.failed e (p ++ cut) room : Outcome α) (.failed e' (p ++ cut') room') where
  ok h := by cases h
  failed h _ := by
    obtain ⟨-, heq, -⟩ := Outcome.failed.inj h
    exact ⟨e', room', by rw [List.append_cancel_right heq]⟩

/-- Nothing is asked of what goes past the place. -/
theorem Carried.of_length_lt {o : Outcome α} (h : o.left.length < cut.length) (o' : Outcome α) :
    Carried cut cut' o o' where
  ok ho := by
    rw [ho, left, List.length_append] at h
    omega
  failed ho := by
    rw [ho, left, List.length_append] at h
    omega

/-- Nothing is asked of a failure for want of room. -/
theorem Carried.of_isDepth {e : ParseError} (h : e.IsDepth) (after : List Token) (room : Nat)
    (o' : Outcome α) : Carried cut cut' (.failed e after room) o' where
  ok ho := by cases ho
  failed ho hdepth := by
    cases ho
    exact absurd h hdepth

/-- A rule that takes a token has taken it in front of the place, or gone past
the place. -/
theorem Carried.of_cons {g : Setting} {o o' : Outcome α} {t : Token} {rest pre : List Token}
    (heq : t :: rest = pre ++ cut) (hkeeps : Keeps g rest o)
    (h : ∀ p, pre = t :: p → rest = p ++ cut → Carried cut cut' o o') : Carried cut cut' o o' := by
  cases pre with
  | nil =>
    refine .of_length_lt ?_ o'
    have hle := hkeeps.suffix.length_le
    rw [List.nil_append] at heq
    rw [← heq, List.length_cons]
    omega
  | cons u p =>
    obtain ⟨rfl, hrest⟩ := List.cons.inj heq
    exact h p rfl hrest

/-- Two steps are carried over if the first one is, and so is the second one
wherever the first stopped short of the place. -/
theorem Carried.andThen {g : Setting} {o o' : Outcome α} {f f' : α → List Token → Outcome β}
    (h : Carried cut cut' o o') (hkeeps : ∀ v after, o = .ok v after → Keeps g after (f v after))
    (hf : ∀ v p, o = .ok v (p ++ cut) → Carried cut cut' (f v (p ++ cut)) (f' v (p ++ cut'))) :
    Carried cut cut' (o.andThen f) (o'.andThen f') := by
  cases o with
  | ok v after =>
    by_cases hafter : ∃ p, after = p ++ cut
    · obtain ⟨p, rfl⟩ := hafter
      rw [h.ok rfl]
      exact hf v p rfl
    · -- the second step starts past the place, so it does not come back to it
      have hne : ∀ q, (f v after).left ≠ q ++ cut := by
        intro q hq
        obtain ⟨p, hp⟩ := (hkeeps v after rfl).suffix
        exact hafter ⟨p ++ q, by rw [← hp, hq, List.append_assoc]⟩
      exact ⟨fun ho => absurd (congrArg left ho) (hne _),
        fun ho => absurd (congrArg left ho) (hne _)⟩
  | failed e after room =>
    refine ⟨fun ho => (by cases ho), @fun e₁ p room₁ ho hdepth => ?_⟩
    obtain ⟨rfl, rfl, rfl⟩ := Outcome.failed.inj ho
    obtain ⟨e', room', rfl⟩ := h.failed rfl hdepth
    exact ⟨e', room', rfl⟩

theorem carried_close (g g' : Setting) (room room' : Nat) (kind : TokenKind) (fault : ParseFault)
    (node : Token → Expr) (p : List Token) (hhead : cut.head? = cut'.head?) :
    Carried cut cut' (close g room kind fault node (p ++ cut))
      (close g' room' kind fault node (p ++ cut')) := by
  cases p with
  | cons c p =>
    by_cases hc : c.kind = kind
    · rw [List.cons_append, List.cons_append, close_of_eq hc, close_of_eq hc]
      exact .refl_ok (node c) p
    · rw [List.cons_append, List.cons_append, close_of_ne hc, close_of_ne hc]
      exact .refl_failed _ _ (c :: p) room room'
  | nil =>
    cases cut with
    | nil =>
      obtain rfl := List.head?_eq_none_iff.mp hhead.symm
      exact .refl_failed _ _ [] room room'
    | cons c rest =>
      obtain ⟨rest', rfl⟩ := List.head?_eq_some_iff.mp hhead.symm
      by_cases hc : c.kind = kind
      · rw [List.nil_append, close_of_eq hc]
        exact .of_length_lt (Nat.lt_succ_self _) _
      · rw [List.nil_append, List.nil_append, close_of_ne hc, close_of_ne hc]
        exact .refl_failed _ _ [] room room'

end Outcome

variable {cut cut' : List Token}

/-- **A reading is carried over** to tokens that agree with the old ones up to
some token, and that one included, under any setting with no less room. -/
theorem carried (g g' : Setting) (hhead : cut.head? = cut'.head?) :
    Rules g
      (fun room level tokens o => ∀ pre room', tokens = pre ++ cut → room ≤ room' →
        Carried cut cut' o (read g' room' level (pre ++ cut')).val)
      (fun room level left tokens o => ∀ pre room', tokens = pre ++ cut → room ≤ room' →
        Carried cut cut' o (chain g' room' level left (pre ++ cut')).val)
      (fun room tokens o => ∀ pre room', tokens = pre ++ cut → room ≤ room' →
        Carried cut cut' o (readElements g' room' (pre ++ cut')).val) where
  level ho operand links pre room' heq hroom := by
    rw [val_read_level]
    refine (operand pre room' heq hroom).andThen
      (fun left after _ => (keeps g).chain _ _ left after) fun left p hok => ?_
    exact links left _ hok p room' rfl hroom
  nil room pre room' heq hroom := by
    obtain ⟨rfl, rfl⟩ := List.append_eq_nil_iff.mp heq.symm
    obtain rfl := List.head?_eq_none_iff.mp hhead.symm
    rw [List.nil_append, val_read_nil]
    exact .refl_failed _ _ [] room room'
  literal room t rest h pre room' heq hroom := by
    refine .of_cons heq (.ok (g := g) (List.suffix_refl rest) _) ?_
    rintro p rfl rfl
    rw [List.cons_append, val_read_literal g' room' _ h]
    exact .refl_ok _ p
  name room t rest h pre room' heq hroom := by
    refine .of_cons heq (.ok (g := g) (List.suffix_refl rest) _) ?_
    rintro p rfl rfl
    rw [List.cons_append, val_read_name g' room' _ h]
    exact .refl_ok _ p
  bracketZero rest h pre room' heq hroom := .of_isDepth ⟨_, rfl⟩ _ _ _
  group h ho body pre room' heq hroom := by
    subst ho
    refine .of_cons heq (((keeps g).read _ _ _).andThen fun _ _ _ => keeps_close ..) ?_
    rintro p rfl rfl
    match room', hroom with
    | room' + 1, hroom =>
      rw [List.cons_append, val_read_group g' room' _ h]
      exact (body p room' rfl (Nat.le_of_succ_le_succ hroom)).andThen
        (fun _ _ _ => keeps_close ..) fun _ q _ => carried_close g g' _ _ _ _ _ q hhead
  emptyList room t c rest h hc pre room' heq hroom := by
    refine .of_cons heq (.ok (g := g) (List.suffix_cons c rest) _) ?_
    rintro p rfl hp
    refine .of_cons hp (.ok (g := g) (List.suffix_refl rest) _) ?_
    rintro q rfl rfl
    match room', hroom with
    | room' + 1, hroom =>
      rw [List.cons_append, List.cons_append, val_read_emptyList g' room' _ h hc]
      exact .refl_ok _ q
  list h hrest ho elements pre room' heq hroom := by
    subst ho
    refine .of_cons heq (((keeps g).readElements _ _).andThen fun _ _ _ => keeps_close ..) ?_
    rintro p rfl rfl
    match room', hroom with
    | room' + 1, hroom =>
      rw [List.head?_append, hhead, ← List.head?_append] at hrest
      rw [List.cons_append, val_read_list g' room' _ h hrest]
      exact (elements p room' rfl (Nat.le_of_succ_le_succ hroom)).andThen
        (fun _ _ _ => keeps_close ..) fun _ q _ => carried_close g g' _ _ _ _ _ q hhead
  other room t rest hl hi hp hb pre room' heq hroom := by
    cases pre with
    | cons u p =>
      obtain ⟨rfl, rfl⟩ := List.cons.inj heq
      rw [List.cons_append, val_read_other g' room' _ hl hi hp hb]
      exact .refl_failed _ _ (t :: p) room room'
    | nil =>
      obtain rfl : t :: rest = cut := heq
      obtain ⟨rest', rfl⟩ := List.head?_eq_some_iff.mp hhead.symm
      rw [List.nil_append, val_read_other g' room' _ hl hi hp hb]
      exact .refl_failed _ _ [] room room'
  chainNil room level left pre room' heq hroom := by
    obtain ⟨rfl, rfl⟩ := List.append_eq_nil_iff.mp heq.symm
    obtain rfl := List.head?_eq_none_iff.mp hhead.symm
    rw [List.nil_append, val_chain_nil]
    exact .refl_ok left []
  chainStop room level t left rest h pre room' heq hroom := by
    cases pre with
    | cons u p =>
      obtain ⟨rfl, rfl⟩ := List.cons.inj heq
      rw [List.cons_append, val_chain_stop g' room' left _ h]
      exact .refl_ok left (t :: p)
    | nil =>
      obtain rfl : t :: rest = cut := heq
      obtain ⟨rest', rfl⟩ := List.head?_eq_some_iff.mp hhead.symm
      rw [List.nil_append, val_chain_stop g' room' left _ h]
      exact .refl_ok left []
  chainZero left rest h pre room' heq hroom := .of_isDepth ⟨_, rfl⟩ _ _ _
  link {room op t left rest o} h ho operand links pre room' heq hroom := by
    subst ho
    have hkeeps : ∀ right after, (read g room op.level.tighter rest).val = .ok right after →
        Keeps g after (nextLink g room op left right after) :=
      fun _ after _ => keeps_nextLink ((keeps g).chain room op.level _ after)
    refine .of_cons heq (((keeps g).read _ _ _).andThen hkeeps) ?_
    rintro p rfl rfl
    match room', hroom with
    | room' + 1, hroom =>
      rw [List.cons_append, val_chain_eq g' room' left _ h]
      refine (operand p room' rfl (Nat.le_of_succ_le_succ hroom)).andThen hkeeps
        fun right q hok => ?_
      by_cases hc : op.level.chains = true
      · rw [nextLink_of_chains g room hc, nextLink_of_chains g' room' hc]
        exact links right _ hok q room' rfl (Nat.le_of_succ_le_succ hroom)
      · rw [nextLink_of_not_chains g room hc, nextLink_of_not_chains g' room' hc]
        exact .refl_ok _ q
  elements {room tokens o} ho first others pre room' heq hroom := by
    rw [val_readElements_eq]
    refine (first pre room' heq hroom).andThen
      (fun e after _ => keeps_moreElements e fun t rest _ => (keeps g).readElements room rest)
      fun e p hok => ?_
    by_cases hcomma : ∀ t ∈ (p ++ cut).head?, t.kind ≠ .comma
    · have hcomma' := hcomma
      rw [List.head?_append, hhead, ← List.head?_append] at hcomma'
      rw [moreElements_of_stop g room e hcomma, moreElements_of_stop g' room' e hcomma']
      exact .refl_ok [e] p
    · obtain ⟨t, ht, hk⟩ : ∃ t ∈ (p ++ cut).head?, t.kind = .comma := by simpa using hcomma
      obtain ⟨rest, hrest⟩ := List.head?_eq_some_iff.mp ht
      rw [hrest, moreElements_of_comma g room e rest hk]
      refine .of_cons hrest.symm (((keeps g).readElements room rest).andThen fun es after _ =>
        .ok (List.suffix_refl after) (e :: es)) ?_
      rintro q rfl rfl
      rw [List.cons_append, moreElements_of_comma g' room' e _ hk]
      exact (others e t _ hok q room' rfl hroom).andThen
        (fun es after _ => .ok (g := g) (List.suffix_refl after) (e :: es))
        fun es r _ => .refl_ok _ r

/-- **Reading looks at one token past those it takes**, and no further. -/
theorem read_exchange {g : Setting} {room : Nat} {level : Option Level} {used mid mid' : List Token}
    {e : Expr} (h : (read g room level (used ++ mid)).val = .ok e mid)
    (hhead : mid.head? = mid'.head?) : (read g room level (used ++ mid')).val = .ok e mid' :=
  ((carried g g hhead).read room level (used ++ mid) used room rfl (Nat.le_refl _)).ok
    (p := []) h

/-! ## What can be completed -/

/-- **Whether tokens can be completed**: with some tokens behind them they are
taken as a whole, in front of any others that do not go on with them. -/
def Completable {α : Type} (run : List Token → Outcome α) (Ends : List Token → Prop)
    (pre : List Token) : Prop :=
  ∃ closing, (∀ t ∈ closing, t.kind ≠ .eof) ∧
    ∀ following, Ends following → ∃ v, run (pre ++ (closing ++ following)) = .ok v following

/-- Whether tokens start with a bracket that closes a list. -/
def ClosesList (tokens : List Token) : Prop :=
  ∃ c rest, tokens = c :: rest ∧ c.kind = .rightBracket

theorem ClosesList.stops {tokens : List Token} (h : ClosesList tokens) :
    Stops (some .or) tokens := by
  obtain ⟨c, rest, rfl, hc⟩ := h
  exact .of_kind rest (by rw [hc]; exact fun op h => by cases h)

theorem ClosesList.head?_ne_comma {tokens : List Token} (h : ClosesList tokens) :
    ∀ t ∈ tokens.head?, t.kind ≠ .comma := by
  obtain ⟨c, rest, rfl, hc⟩ := h
  rintro t ⟨⟩
  rw [hc]
  decide

section Completable

variable {α : Type} {g : Setting} {room : Nat}

/-- A literal is missing where no expression starts. -/
theorem completable_nil (g : Setting) (room : Nat) (Ends : List Token → Prop) :
    Completable (fun tokens => (read g room none tokens).val) Ends [] :=
  ⟨[.filler .nullWord], List.forall_mem_singleton.mpr (by rintro ⟨⟩),
    fun following _ => ⟨_, val_read_literal g room following rfl⟩⟩

/-- What was read is complete. -/
theorem completable_of_read {used after : List Token} {e : Expr}
    (h : (read g room (some .or) (used ++ after)).val = .ok e after) :
    Completable (fun tokens => (read g room (some .or) tokens).val) (Stops (some .or)) used := by
  obtain ⟨used', heq, hspell, hcan, -, hneed⟩ := read_sound h
  obtain rfl := List.append_cancel_right heq
  exact ⟨[], List.forall_mem_nil _, fun following hstop =>
    ⟨e, (readBack e hcan).1.read_or hspell hneed hstop⟩⟩

/-- The elements that were read are complete. -/
theorem completable_of_readElements {used after : List Token} {es : List Expr}
    (h : (readElements g room (used ++ after)).val = .ok es after) :
    Completable (fun tokens => (readElements g room tokens).val) ClosesList used := by
  obtain ⟨hne, used', heq, hspell, hcan, hneed⟩ := readElements_sound h
  obtain rfl := List.append_cancel_right heq
  refine ⟨[], List.forall_mem_nil _, ?_⟩
  rintro _ ⟨c, rest, rfl, hc⟩
  have hcan := (Expr.allCanonical_iff es).mp hcan
  exact ⟨es, val_readElements_of_readBack hne (fun e he => (readBack e (hcan e he)).1) rest hspell
    hneed hc⟩

/-- What is open in a bracket is completed, and then the bracket is
closed. -/
theorem Completable.close {run : List Token → Outcome α} {Ends Ends' : List Token → Prop}
    {pre : List Token} (h : Completable run Ends pre) (g : Setting) (room : Nat)
    {kind : TokenKind} (hkind : kind ≠ .eof) (hends : ∀ rest, Ends (.filler kind :: rest))
    (fault : ParseFault) (node : α → Token → Expr) :
    Completable (fun tokens => (run tokens).andThen fun v => close g room kind fault (node v))
      Ends' pre := by
  obtain ⟨closing, hinner, hrun⟩ := h
  refine ⟨closing ++ [.filler kind], List.forall_mem_append.mpr
    ⟨hinner, List.forall_mem_singleton.mpr hkind⟩, fun following _ => ?_⟩
  obtain ⟨v, hv⟩ := hrun (.filler kind :: following) (hends following)
  refine ⟨node v (.filler kind), ?_⟩
  dsimp only
  rw [List.append_assoc, List.singleton_append, hv, Outcome.ok_andThen]
  exact close_of_eq rfl _ _ _

/-- A token in front of what can be completed. -/
theorem Completable.cons {run run' : List Token → Outcome α} {Ends : List Token → Prop}
    {pre : List Token} (h : Completable run Ends pre) {t : Token}
    (hrun : ∀ tokens v after, run (pre ++ tokens) = .ok v after →
      run' (t :: (pre ++ tokens)) = .ok v after) : Completable run' Ends (t :: pre) := by
  obtain ⟨closing, hinner, hcompletes⟩ := h
  refine ⟨closing, hinner, fun following hends => ?_⟩
  obtain ⟨v, hv⟩ := hcompletes following hends
  exact ⟨v, hrun _ v following hv⟩

/-- An expression is completed, and what may stand after it is left out. -/
theorem Completable.before {β : Type} {run : List Token → Outcome α}
    {Ends Ends' : List Token → Prop} {pre : List Token} (h : Completable run Ends pre)
    {f : α → List Token → Outcome β} (hends : ∀ rest, Ends' rest → Ends rest)
    (hf : ∀ v rest, Ends' rest → ∃ w, f v rest = .ok w rest) :
    Completable (fun tokens => (run tokens).andThen f) Ends' pre := by
  obtain ⟨closing, hinner, hrun⟩ := h
  refine ⟨closing, hinner, fun following hstop => ?_⟩
  obtain ⟨v, hv⟩ := hrun following (hends following hstop)
  obtain ⟨w, hw⟩ := hf v following hstop
  refine ⟨w, ?_⟩
  dsimp only
  rw [hv, Outcome.ok_andThen, hw]

/-- After an expression what follows it is completed. The expression is read
again, because the first token after it is the same. -/
theorem completable_after_read {level : Option Level} {tokens pre mid cut : List Token}
    {left : Expr} {f : Expr → List Token → Outcome α} {Ends : List Token → Prop} {e : ParseError}
    {room' : Nat} (heq : tokens = pre ++ cut) (hok : (read g room level tokens).val = .ok left mid)
    (hkeeps : Keeps g mid (f left mid)) (hfail : f left mid = .failed e cut room')
    (h : ∀ p, mid = p ++ cut → p ≠ [] ∧ Completable (f left) Ends p) :
    Completable (fun tokens => (read g room level tokens).val.andThen f) Ends pre := by
  have hmid := ((keeps g).read room level tokens).suffix
  rw [hok] at hmid
  obtain ⟨us, rfl⟩ := hmid
  have hcut := hkeeps.suffix
  rw [hfail] at hcut
  obtain ⟨p, rfl⟩ := hcut
  obtain ⟨hne, closing, hinner, hrun⟩ := h p rfl
  obtain rfl : us ++ p = pre := by
    rw [← List.append_left_inj cut, ← heq, List.append_assoc]
    rfl
  refine ⟨closing, hinner, fun following hends => ?_⟩
  obtain ⟨v, hv⟩ := hrun following hends
  have hhead : (p ++ cut).head? = (p ++ (closing ++ following)).head? := by
    obtain ⟨t, q, rfl⟩ := List.exists_cons_of_ne_nil hne
    rfl
  have hread := read_exchange hok hhead
  refine ⟨v, ?_⟩
  dsimp only
  rw [List.append_assoc, hread, Outcome.ok_andThen, hv]

/-- A bracket that is not closed fails where what is in it ends. -/
theorem eq_of_close_eq_failed {kind : TokenKind} {fault : ParseFault} {node : Token → Expr}
    {tokens after : List Token} {e : ParseError} {room' : Nat}
    (h : close g room kind fault node tokens = .failed e after room') : after = tokens := by
  cases tokens with
  | nil => exact (Outcome.failed.inj h).2.1.symm
  | cons c rest =>
    by_cases hc : c.kind = kind
    · rw [close_of_eq hc] at h
      cases h
    · rw [close_of_ne hc] at h
      exact (Outcome.failed.inj h).2.1.symm

/-- What was read of an open bracket can be completed if that is so where
reading fails in it, and where it is not closed. -/
theorem completable_in_bracket (run : List Token → Outcome α) {Ends : List Token → Prop}
    {t : Token} {rest pre cut : List Token} {kind : TokenKind} {fault : ParseFault}
    {node : α → Token → Expr} {e : ParseError} {room' : Nat} (heq : t :: rest = pre ++ cut)
    (hkeeps : Keeps g rest (run rest))
    (h : ((run rest).andThen fun v => close g room kind fault (node v)) = .failed e cut room')
    (hfailed : ∀ p, rest = p ++ cut → run rest = .failed e cut room' → Completable run Ends p)
    (hok : ∀ p v, run (p ++ cut) = .ok v cut → Completable run Ends p) :
    ∃ p, pre = t :: p ∧ Completable run Ends p := by
  have hcut : cut <:+ rest := by
    have hleft := (hkeeps.andThen fun v after _ =>
      keeps_close (g := g) room kind fault (node v) after).suffix
    rwa [h] at hleft
  obtain ⟨p, rfl⟩ := hcut
  refine ⟨p, (List.append_cancel_right heq).symm, ?_⟩
  rcases Outcome.andThen_eq_failed h with hrun | ⟨v, mid, hrun, hclose⟩
  · exact hfailed p rfl hrun
  · obtain rfl := eq_of_close_eq_failed hclose
    exact hok p v hrun

end Completable

/-- **What stands before the token of a failure can be completed**, unless the
failure is one for want of room. -/
theorem completable (g : Setting) :
    Rules g
      (fun room level tokens o => ∀ pre cut e room', tokens = pre ++ cut →
        o = .failed e cut room' → ¬ e.IsDepth →
        Completable (fun tokens => (read g room level tokens).val) (Stops level) pre)
      (fun room level left tokens o => ∀ pre cut e room', tokens = pre ++ cut →
        o = .failed e cut room' → ¬ e.IsDepth →
        pre ≠ [] ∧ Completable (fun tokens => (chain g room level left tokens).val)
          (Stops (some level)) pre)
      (fun room tokens o => ∀ pre cut e room', tokens = pre ++ cut →
        o = .failed e cut room' → ¬ e.IsDepth →
        Completable (fun tokens => (readElements g room tokens).val) ClosesList pre) where
  level {room level tokens o} ho operand links pre cut e room' heq h hdepth := by
    subst ho
    simp only [val_read_level]
    rcases Outcome.andThen_eq_failed h with hfailed | ⟨left, mid, hok, hchain⟩
    · exact (operand pre cut e room' heq hfailed hdepth).before (fun _ hstop => hstop.tighter)
        fun left rest hstop => ⟨left, val_chain_of_stops g room left hstop⟩
    · exact completable_after_read heq hok ((keeps g).chain room level left mid) hchain
        fun p hp => links left mid hok p cut e room' hp hchain hdepth
  nil room pre cut e room' heq _ _ := by
    obtain ⟨rfl, -⟩ := List.append_eq_nil_iff.mp heq.symm
    exact completable_nil g room _
  literal room t rest h pre cut e room' heq ho := by cases ho
  name room t rest h pre cut e room' heq ho := by cases ho
  bracketZero rest h pre cut e room' heq ho hdepth := by
    cases ho
    exact absurd ⟨_, rfl⟩ hdepth
  group {room t rest o} h ho body pre cut e room' heq hfail hdepth := by
    subst ho
    obtain ⟨p, rfl, hp⟩ := completable_in_bracket
      (fun tokens => (read g room (some .or) tokens).val) heq
      ((keeps g).read room (some .or) rest) hfail
      (fun p hp hfailed => body p cut e room' hp hfailed hdepth) fun p v => completable_of_read
    have hclose : ∀ rest, Stops (some .or) (.filler .rightParen :: rest) :=
      fun rest => .of_kind rest fun op hop => by cases hop
    refine (hp.close g room (by decide) hclose .expectedRightParen
      fun body c => .group body (t.span.through c.span)).cons fun tokens v after hv => ?_
    rw [val_read_group g room _ h]
    exact hv
  emptyList room t c rest h hc pre cut e room' heq ho := by cases ho
  list {room t rest o} h hrest ho elements pre cut e room' heq hfail hdepth := by
    subst ho
    obtain ⟨p, rfl, hp⟩ := completable_in_bracket
      (fun tokens => (readElements g room tokens).val) heq
      ((keeps g).readElements room rest) hfail
      (fun p hp hfailed => elements p cut e room' hp hfailed hdepth)
      fun p v => completable_of_readElements
    have hclose : ∀ rest, ClosesList (.filler .rightBracket :: rest) :=
      fun rest => ⟨_, rest, rfl, rfl⟩
    refine (hp.close g room (by decide) hclose .expectedRightBracket
      fun elements c => .list elements (t.span.through c.span)).cons fun tokens v after hv => ?_
    -- elements were read, so the list is not an empty one
    obtain ⟨es, mid, hes, -⟩ := Outcome.andThen_eq_ok.mp hv
    obtain ⟨hne, used, hused, hspell, -⟩ := readElements_sound hes
    have hhead : ∀ c ∈ (p ++ tokens).head?, c.kind ≠ .rightBracket := by
      rw [hused]
      exact head?_ne_rightBracket hne hspell mid
    rw [val_read_list g room _ h hhead]
    exact hv
  other room t rest hl hi hp hb pre cut e room' heq ho _ := by
    cases ho
    obtain rfl := List.self_eq_append_left.mp heq
    exact completable_nil g room _
  chainNil room level left pre cut e room' heq ho := by cases ho
  chainStop room level t left rest h pre cut e room' heq ho := by cases ho
  chainZero left rest h pre cut e room' heq ho hdepth := by
    cases ho
    exact absurd ⟨_, rfl⟩ hdepth
  link {room op t left rest o} h ho operand links pre cut e room' heq hfail hdepth := by
    subst ho
    have hkeeps : ∀ right after, Keeps g after (nextLink g room op left right after) :=
      fun right after => keeps_nextLink ((keeps g).chain room op.level _ after)
    obtain ⟨p, rfl, rfl⟩ : ∃ p, pre = t :: p ∧ rest = p ++ cut := by
      have hcut := (((keeps g).read room op.level.tighter rest).andThen
        fun right after _ => hkeeps right after).suffix
      rw [hfail] at hcut
      obtain ⟨p, rfl⟩ := hcut
      exact ⟨p, (List.append_cancel_right heq).symm, rfl⟩
    have hp : Completable (fun tokens => (read g room op.level.tighter tokens).val.andThen
        (nextLink g room op left)) (Stops (some op.level)) p := by
      rcases Outcome.andThen_eq_failed hfail with hfailed | ⟨right, mid, hok, hnext⟩
      · exact (operand p cut e room' rfl hfailed hdepth).before (fun _ hstop => hstop.tighter)
          fun right rest hstop => ⟨_, nextLink_of_stops g room left right hstop⟩
      · refine completable_after_read rfl hok (hkeeps right mid) hnext fun q hq => ?_
        -- the operand is read, so it is a further link that failed
        have hc : op.level.chains = true := Decidable.byContradiction fun hc => by
          rw [nextLink_of_not_chains g room hc] at hnext
          cases hnext
        have hchain : nextLink g room op left right = fun after =>
            (chain g room op.level (.join op left right) after).val :=
          funext fun after => nextLink_of_chains g room hc left right after
        rw [hchain] at hnext ⊢
        exact links right mid hok q cut e room' hq hnext hdepth
    refine ⟨List.cons_ne_nil t p, hp.cons fun tokens v after hv => ?_⟩
    rw [val_chain_eq g room left _ h]
    exact hv
  elements {room tokens o} ho first others pre cut e room' heq hfail hdepth := by
    subst ho
    simp only [val_readElements_eq]
    rcases Outcome.andThen_eq_failed hfail with hfailed | ⟨left, mid, hok, hmore⟩
    · exact (first pre cut e room' heq hfailed hdepth).before (fun _ h => h.stops)
        fun left rest h => ⟨[left], moreElements_of_stop g room left h.head?_ne_comma⟩
    · refine completable_after_read heq hok
        (keeps_moreElements left fun t rest _ => (keeps g).readElements room rest) hmore
        fun p hp => ?_
      -- the first element is read, so there is a comma, and it is the others that failed
      by_cases hcomma : ∀ t ∈ mid.head?, t.kind ≠ .comma
      · rw [moreElements_of_stop g room left hcomma] at hmore
        cases hmore
      · obtain ⟨t, ht, hk⟩ : ∃ t ∈ mid.head?, t.kind = .comma := by simpa using hcomma
        obtain ⟨rest, rfl⟩ := List.head?_eq_some_iff.mp ht
        rw [moreElements_of_comma g room left rest hk] at hmore
        rcases Outcome.andThen_eq_failed hmore with hfailed | ⟨es, _, _, hes⟩
        · have hcut := ((keeps g).readElements room rest).suffix
          rw [hfailed] at hcut
          obtain ⟨q, rfl⟩ := hcut
          obtain rfl : t :: q = p := List.append_cancel_right hp
          have hq := others left t _ hok q cut e room' rfl hfailed hdepth
          refine ⟨List.cons_ne_nil t q, (hq.before (f := fun es after => .ok (left :: es) after)
            (fun _ h => h) fun es rest _ => ⟨_, rfl⟩).cons fun tokens v after hv => ?_⟩
          rw [moreElements_of_comma g room left _ hk]
          exact hv
        · cases hes

end Grammar

namespace Parser

open Grammar

/-- Of tokens with one end token, the last, that one is the end. -/
theorem stop_ofTokens (limit : Nat) {tokens : List Token} {stop : Token}
    (hinner : ∀ t ∈ tokens, t.kind ≠ .eof) (hstop : stop.kind = .eof) :
    (ofTokens limit (tokens ++ [stop])).stop = stop := by
  have htokens : tokens.find? (!isInner ·) = none :=
    List.find?_eq_none.mpr fun t ht => by simp [isInner, hinner t ht]
  have hfind : (tokens ++ [stop]).find? (!isInner ·) = some stop := by
    rw [List.find?_append, htokens]
    simp [isInner, hstop]
  show ((tokens ++ [stop]).find? (!isInner ·)).getD _ = stop
  rw [hfind]
  rfl

/-- Among more tokens, those up to some place stay, and so does the one there,
be it the end token. -/
theorem exists_rest_ofTokens (limit : Nat) {pre cut : List Token} {stop : Token}
    (hinner : ∀ t ∈ pre ++ cut, t.kind ≠ .eof) (hstop : stop.kind = .eof) (more : List Token) :
    ∃ cut', (ofTokens limit (pre ++ cut.headD stop :: more)).rest = pre ++ cut' ∧
      cut.head? = cut'.head? := by
  obtain ⟨hpre, hcut⟩ := List.forall_mem_append.mp hinner
  have hrest : (ofTokens limit (pre ++ cut.headD stop :: more)).rest
      = pre ++ (cut.headD stop :: more).takeWhile isInner :=
    List.takeWhile_append_of_pos fun t ht => bne_iff_ne.mpr (hpre t ht)
  refine ⟨_, hrest, ?_⟩
  cases cut with
  | nil => simp [isInner, hstop]
  | cons t cut =>
    have ht : isInner t = true := bne_iff_ne.mpr (hcut t List.mem_cons_self)
    simp [ht]

/-- A tree that is read is read under any higher limit. -/
theorem parse_eq_ok_mono {p q : Parser} {e : Expr} (h : p.parse.1 = .ok e) (hrest : q.rest = p.rest)
    (hroom : p.room ≤ q.room) : q.parse.1 = .ok e := by
  obtain ⟨hspell, hcan, hneed⟩ := (parse_eq_ok_iff p e).mp h
  exact (parse_eq_ok_iff q e).mpr ⟨hrest ▸ hspell, hcan, Nat.le_trans hneed hroom⟩

/-- What a failed answer leaves: reading failed there, or stopped there with
a tree. -/
theorem read_of_parse_eq_error {p : Parser} {e : ParseError} (h : p.parse.1 = .error e) :
    (∃ room, (read p.setting p.room (some .or) p.rest).val
        = .failed e p.parse.2.rest room) ∨
      ∃ tree t after, (read p.setting p.room (some .or) p.rest).val = .ok tree (t :: after) ∧
        p.parse.2.rest = t :: after ∧ e.position = t.span.start := by
  revert h
  unfold parse
  split
  · next e' after room hread =>
    rintro ⟨⟩
    exact .inl ⟨room, hread⟩
  · next => exact fun h => by cases h
  · next tree t after hread =>
    rintro ⟨⟩
    exact .inr ⟨tree, t, after, hread, rfl, rfl⟩

/-- **Where a parser fails**, the tokens before can be completed, and with the
same token after them nothing is read. -/
theorem exists_cut_of_parse_eq_error {p : Parser} {e : ParseError} (h : p.parse.1 = .error e)
    (hdepth : ¬ e.IsDepth) :
    ∃ pre cut, p.rest = pre ++ cut ∧ p.parse.2.rest = cut ∧ e.position = p.setting.place cut ∧
      (∃ closing tree, (∀ c ∈ closing, c.kind ≠ .eof) ∧
        ({ p with rest := pre ++ closing } : Parser).parse.1 = .ok tree) ∧
      ∀ (q : Parser) (cut' : List Token), q.rest = pre ++ cut' → cut.head? = cut'.head? →
        p.room ≤ q.room → ∀ tree, q.parse.1 ≠ .ok tree := by
  have hkeeps := (keeps p.setting).read p.room (some .or) p.rest
  rcases read_of_parse_eq_error h with ⟨room, hread⟩ | ⟨tree, t, after, hread, hleft, hplace⟩
  · obtain ⟨pre, hpre⟩ := hread ▸ hkeeps.suffix
    refine ⟨pre, _, hpre.symm, rfl, hkeeps.place hread, ?_, ?_⟩
    · obtain ⟨closing, hinner, hrun⟩ := (completable p.setting).read p.room (some .or) p.rest pre
        _ e room hpre.symm hread hdepth
      obtain ⟨tree, htree⟩ := hrun [] (.nil _)
      rw [List.append_nil] at htree
      exact ⟨closing, tree, hinner, (parse_eq_ok_iff_read _ tree).mpr htree⟩
    · intro q cut' hq hhead hroom tree htree
      have hcarried := (carried p.setting q.setting hhead).read p.room (some .or) p.rest pre q.room
        hpre.symm hroom
      obtain ⟨e', room', hfailed⟩ := hcarried.failed (p := []) hread hdepth
      rw [parse_eq_ok_iff_read, hq, hfailed] at htree
      cases htree
  · obtain ⟨pre, hpre, hspell, hcan, -, hneed⟩ := read_sound hread
    refine ⟨pre, t :: after, hpre, hleft, hplace, ⟨[], tree, List.forall_mem_nil _, ?_⟩, ?_⟩
    · rw [List.append_nil, parse_eq_ok_iff]
      exact ⟨hspell, hcan, hneed⟩
    · intro q cut' hq hhead hroom tree' htree
      have hcarried := (carried p.setting q.setting hhead).read p.room (some .or) p.rest pre q.room
        hpre hroom
      have hok := hcarried.ok (p := []) hread
      rw [parse_eq_ok_iff_read, hq, hok, List.nil_append] at htree
      obtain ⟨-, rfl⟩ := Outcome.ok.inj htree
      cases hhead

/-- **A failure is reported at the first token that cannot go on with those
before it.** Of tokens that end with their only end token, those before the
token of a failure can be completed so that they are read under the same
limit. With that token as the next one, nothing is read under any limit,
whatever comes then. Failures for want of room are left out. -/
theorem parse_error_first_offending (limit : Nat) (tokens : List Token) (stop : Token)
    (hinner : ∀ t ∈ tokens, t.kind ≠ .eof) (hstop : stop.kind = .eof) {e : ParseError}
    (h : (ofTokens limit (tokens ++ [stop])).parse.1 = .error e) (hdepth : ¬ e.IsDepth) :
    ∃ i t, (tokens ++ [stop])[i]? = some t ∧ e.position = t.span.start ∧
      (ofTokens limit (tokens ++ [stop])).parse.2.rest = tokens.drop i ∧
      (∃ closing tree, (∀ c ∈ closing, c.kind ≠ .eof) ∧
        (ofTokens limit (tokens.take i ++ closing ++ [stop])).parse.1 = .ok tree) ∧
      ∀ limit' more tree, (ofTokens limit' (tokens.take i ++ t :: more)).parse.1 ≠ .ok tree := by
  obtain ⟨pre, cut, hrest, hleft, hplace, ⟨closing, tree, hclosing, htree⟩, hnone⟩ :=
    exists_cut_of_parse_eq_error h hdepth
  rw [rest_ofTokens limit hinner hstop] at hrest
  subst hrest
  have hstops := stop_ofTokens limit hinner hstop
  have htake : (pre ++ cut).take pre.length = pre := List.take_left
  have hpre : ∀ t ∈ pre, t.kind ≠ .eof := (List.forall_mem_append.mp hinner).1
  refine ⟨pre.length, cut.headD stop, ?_, ?_, ?_, ?_, ?_⟩
  · cases cut <;> simp
  · rw [hplace]
    show (cut.headD (ofTokens limit (pre ++ cut ++ [stop])).stop).span.start = _
    rw [hstops]
  · rw [hleft, List.drop_left]
  · rw [htake]
    refine ⟨closing, tree, hclosing, parse_eq_ok_mono htree ?_ (Nat.le_refl limit)⟩
    exact rest_ofTokens limit (List.forall_mem_append.mpr ⟨hpre, hclosing⟩) hstop
  · intro limit' more tree htree
    rw [htake] at htree
    obtain ⟨cut', hcut', hhead⟩ := exists_rest_ofTokens (max limit limit') hinner hstop more
    refine hnone _ cut' hcut' hhead (Nat.le_max_left limit limit') tree ?_
    exact parse_eq_ok_mono htree rfl (Nat.le_max_right limit limit')

/-- In `(a b` it is `b` that cannot go on with `(a`, which lacks a parenthesis
only. -/
theorem parse_error_first_offending_unclosed :
    let place (k : Nat) : Position := ⟨k, 1, k + 1⟩
    let name (n : String) (k : Nat) : Token := ⟨.identifier, n, .string n, ⟨place k, place (k + 1)⟩⟩
    let paren : Token := ⟨.leftParen, "(", .null, ⟨place 0, place 1⟩⟩
    (ofTokens 1 ([paren, name "a" 1, name "b" 3] ++ [.eofAt (place 4)])).parse.1
        = .error ⟨.expectedRightParen, place 3⟩ ∧
      (∃ closing tree, (∀ c ∈ closing, c.kind ≠ .eof) ∧
        (ofTokens 1 ([paren, name "a" 1] ++ closing ++ [.eofAt (place 4)])).parse.1 = .ok tree) ∧
      ∀ limit more tree,
        (ofTokens limit ([paren, name "a" 1] ++ name "b" 3 :: more)).parse.1 ≠ .ok tree := by
  intro place name paren
  have hread : (read ⟨1, .eofAt (place 4)⟩ 1 (some .or) [paren, name "a" 1, name "b" 3]).val
      = .failed ⟨.expectedRightParen, place 3⟩ [name "b" 3] 0 := by
    have hbody : (read ⟨1, .eofAt (place 4)⟩ 0 (some .or) ([name "a" 1] ++ [name "b" 3])).val
        = .ok (.identifier "a" ⟨place 1, place 2⟩) [name "b" 3] :=
      (readBack (.identifier "a" ⟨place 1, place 2⟩) trivial).1.read_or ⟨_, rfl, rfl, rfl, rfl⟩
        (Nat.le_refl _) (.of_kind _ fun op hop => by cases hop)
    have hatom := val_read_group ⟨1, .eofAt (place 4)⟩ 0 (t := paren)
      ([name "a" 1] ++ [name "b" 3]) rfl
    rw [hbody, Outcome.ok_andThen, close_of_ne (by decide)] at hatom
    simp only [val_read_level, Level.tighter]
    rw [show [paren, name "a" 1, name "b" 3] = paren :: ([name "a" 1] ++ [name "b" 3]) from rfl,
      hatom]
    rfl
  have hinner : ∀ t ∈ [paren, name "a" 1, name "b" 3], t.kind ≠ .eof := by decide
  have hparse : (ofTokens 1 ([paren, name "a" 1, name "b" 3] ++ [.eofAt (place 4)])).parse
      = (.error ⟨.expectedRightParen, place 3⟩,
        ⟨1, 0, [name "b" 3], .eofAt (place 4)⟩) := by
    have hp : ofTokens 1 ([paren, name "a" 1, name "b" 3] ++ [.eofAt (place 4)])
        = ⟨1, 1, [paren, name "a" 1, name "b" 3], .eofAt (place 4)⟩ := rfl
    rw [hp, parse]
    simp only [setting, hread]
  have herror := congrArg Prod.fst hparse
  obtain ⟨i, t, ht, -, hdrop, hviable, hnone⟩ :=
    parse_error_first_offending 1 _ (.eofAt (place 4)) hinner rfl herror (by rintro ⟨_, ⟨⟩⟩)
  obtain rfl : i = 2 := by
    have hlength : 1 = 3 - i := by
      have h := congrArg List.length hdrop
      rwa [hparse, List.length_drop] at h
    omega
  obtain rfl : name "b" 3 = t := Option.some.inj ht
  exact ⟨herror, hviable, hnone⟩

end Parser

end CardQuery
