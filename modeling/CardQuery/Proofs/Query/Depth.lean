import CardQuery.Proofs.Query.Viability

/-!
# Counting the depth

Reading hands the room for nesting down and never takes any of it back. The
same can be done with one counter that is shared by all rules: a bracket or a
link counts one up, which is refused beyond the limit, a bracket counts one
down where it is closed, and a chain gives all its links back at once where
it ends. This module writes the rules that way (`Counting`) and shows that
nothing else changes (`Counting.tracks`).

The point is what a success leaves: the counter stands where it stood
before, so a rule that counts cannot take room from its neighbours, and room
that is handed down need not be handed back (`Counting.balanced`).

Calls of rules are counted too, for the rules to end: each takes one of those
that are left, and without any a rule gives nothing. Seven for each token, and
seven more, are enough.
-/

namespace CardQuery.Grammar

/-- Where a reader stands that counts: the tokens left, and how deep it is. -/
structure Cursor where
  /-- The tokens left before the end. -/
  rest : List Token
  /-- How many brackets and links are counted. -/
  depth : Nat

/-- A computation that moves through tokens and counts. It may fail where it
stands, and it may give nothing. -/
abbrev Counting := ExceptT ParseError (StateT Cursor Option)

namespace Counting

/-! ## Rules that count -/

/-- What a computation gives, and where it leaves the reader. -/
def run {α : Type} (x : Counting α) (c : Cursor) : Option (Except ParseError α × Cursor) :=
  StateT.run (ExceptT.run x) c

/-- The token at the front, or the end token. -/
def peek (g : Setting) : Counting Token := do return g.front (← get).rest

/-- Takes the token at the front. -/
def advance : Counting Unit := modify fun c => { c with rest := c.rest.tail }

/-- Fails at the token at the front. -/
def failHere {α : Type} (g : Setting) (fault : ParseFault) : Counting α := do
  throw ⟨fault, g.place (← get).rest⟩

/-- **Counts one up**, which is refused beyond the limit. -/
def descend (g : Setting) : Counting Unit := do
  modify fun c => { c with depth := c.depth + 1 }
  if (← get).depth > g.limit then failHere g (.tooDeep g.limit)

/-- **Counts down**, but not below zero. -/
def ascend (levels : Nat) : Counting Unit :=
  modify fun c => { c with depth := c.depth - levels }

/-- Gives nothing. -/
def stuck {α : Type} : Counting α := ExceptT.mk fun _ => none

/-- Takes the end of a bracket and counts down for it. -/
def closing (g : Setting) (kind : TokenKind) (fault : ParseFault) (node : Token → Expr) :
    Counting Expr := do
  let c ← peek g
  if c.kind = kind then
    advance
    ascend 1
    return node c
  else failHere g fault

/-- Reads what stands in parentheses, past the one that opens them. -/
def group (g : Setting) (opening : Token) (body : Counting Expr) : Counting Expr := do
  descend g
  let e ← body
  closing g .rightParen .expectedRightParen fun c => .group e (opening.span.through c.span)

/-- Reads a list, past the bracket that opens it. -/
def list (g : Setting) (opening : Token) (elements : Counting (List Expr)) : Counting Expr := do
  descend g
  let first ← peek g
  let es ← if first.kind = .rightBracket then pure [] else elements
  closing g .rightBracket .expectedRightBracket fun c => .list es (opening.span.through c.span)

mutual

/-- **Reads an expression at a level, or an atom.** A level gives the links of
its chain back at once. -/
def expression (g : Setting) : Nat → Option Level → Counting Expr
  | 0, _ => stuck
  | calls + 1, some level => do
    let left ← expression g calls level.tighter
    let (e, count) ← links g calls level left 0
    ascend count
    return e
  | calls + 1, none => do
    let t ← peek g
    if t.kind.isLiteral then
      advance
      return .literal t.value t.span
    else if t.kind = .identifier then
      advance
      return .identifier (fieldName t) t.span
    else if t.kind = .leftParen then
      advance
      group g t (expression g calls (some .or))
    else if t.kind = .leftBracket then
      advance
      list g t (elements g calls)
    else failHere g (.expectedExpression t.lexeme)

/-- Reads the links of a chain whose part so far is `left`, and how many there
are with those before. -/
def links (g : Setting) : Nat → Level → Expr → Nat → Counting (Expr × Nat)
  | 0, _, _, _ => stuck
  | calls + 1, level, left, count => do
    match (← peek g).kind.operatorAt level with
    | none => return (left, count)
    | some op =>
      advance
      descend g
      let right ← expression g calls level.tighter
      if level.chains then links g calls level (.join op left right) (count + 1)
      else return (.join op left right, count + 1)

/-- Reads the elements of a list, up to the first that no comma follows. -/
def elements (g : Setting) : Nat → Counting (List Expr)
  | 0 => stuck
  | calls + 1 => do
    let first ← expression g calls (some .or)
    let t ← peek g
    if t.kind = .comma then
      advance
      let others ← elements g calls
      return first :: others
    else return [first]

end

/-- Reads one expression up to the end. -/
def whole (g : Setting) (calls : Nat) : Counting Expr := do
  let e ← expression g calls (some .or)
  let t ← peek g
  if t.kind = .eof then return e else failHere g (.unexpectedToken t.lexeme)

/-- Reads one expression up to the end that must be a condition. -/
def condition (g : Setting) (calls : Nat) : Counting Expr := do
  let e ← whole g calls
  if e.isCondition then return e else throw ⟨.notACondition, e.span.start⟩

/-! ## Counting beside room -/

variable {α β : Type} {g : Setting}

/-- **Whether a computation tracks an outcome.** It ends with the same result
or error and leaves the same tokens. A success leaves the reader at the depth
given, and a failure leaves the room that the counter leaves. -/
def Tracks (g : Setting) (x : Counting α) (c : Cursor) (depth : Nat) : Outcome α → Prop
  | .ok v after => x.run c = some (.ok v, ⟨after, depth⟩)
  | .failed e after room => ∃ d, g.limit - d = room ∧ x.run c = some (.error e, ⟨after, d⟩)

section Tracks

variable {x : Counting α} {c : Cursor} {depth depth' d room : Nat} {rest : List Token}

theorem Tracks.pure (v : α) (after : List Token) :
    Tracks g (Pure.pure v) ⟨after, depth⟩ depth (.ok v after) := rfl

theorem Tracks.failHere (hroom : g.limit - d = room) (fault : ParseFault) :
    Tracks g (failHere g fault : Counting α) ⟨rest, d⟩ depth
      (.failed ⟨fault, g.place rest⟩ rest room) :=
  ⟨d, hroom, rfl⟩

/-- A computation that gives what another one does tracks the same. -/
theorem Tracks.of_run {y : Counting α} {c' : Cursor} {o : Outcome α}
    (h : Tracks g y c' depth o) (hrun : x.run c = y.run c') : Tracks g x c depth o := by
  cases o with
  | ok v after => exact hrun.trans h
  | failed e after room =>
    obtain ⟨d, hroom, hfail⟩ := h
    exact ⟨d, hroom, hrun.trans hfail⟩

theorem run_bind_ok {c' : Cursor} {v : α} (h : x.run c = some (.ok v, c'))
    (f : α → Counting β) : (x >>= f).run c = (f v).run c' := by
  show (x.run c).bind _ = _
  rw [h]
  rfl

theorem run_bind_error {c' : Cursor} {e : ParseError} (h : x.run c = some (.error e, c'))
    (f : α → Counting β) : (x >>= f).run c = some (.error e, c') := by
  show (x.run c).bind _ = _
  rw [h]
  rfl

theorem run_peek_cons (f : Token → Counting β) (t : Token) :
    (peek g >>= f).run ⟨t :: rest, d⟩ = (f t).run ⟨t :: rest, d⟩ := rfl

/-- **One computation after another** tracks one step after another. -/
theorem Tracks.bind {f : α → Counting β} {o : Outcome α} {h : α → List Token → Outcome β}
    (hx : Tracks g x c depth o)
    (hf : ∀ v after, o = .ok v after → Tracks g (f v) ⟨after, depth⟩ depth' (h v after)) :
    Tracks g (x >>= f) c depth' (o.andThen h) := by
  cases o with
  | ok v after => exact (hf v after rfl).of_run (run_bind_ok hx f)
  | failed e after room =>
    obtain ⟨d, hroom, hfail⟩ := hx
    exact ⟨d, hroom, run_bind_error hfail f⟩

variable {o : Outcome β}

/-- Looking at the front takes nothing. -/
theorem Tracks.peek {f : Token → Counting β} (h : Tracks g (f (g.front rest)) ⟨rest, d⟩ depth o) :
    Tracks g (peek g >>= f) ⟨rest, d⟩ depth o :=
  h.of_run rfl

theorem Tracks.peek_nil {f : Token → Counting β} (h : Tracks g (f g.stop) ⟨[], d⟩ depth o) :
    Tracks g (Counting.peek g >>= f) ⟨[], d⟩ depth o :=
  h.peek

theorem Tracks.peek_cons {f : Token → Counting β} {t : Token}
    (h : Tracks g (f t) ⟨t :: rest, d⟩ depth o) :
    Tracks g (Counting.peek g >>= f) ⟨t :: rest, d⟩ depth o :=
  h.of_run (run_peek_cons f t)

theorem Tracks.advance {f : Unit → Counting β} (h : Tracks g (f ()) ⟨rest, d⟩ depth o)
    (t : Token) : Tracks g (advance >>= f) ⟨t :: rest, d⟩ depth o :=
  h.of_run rfl

theorem Tracks.ascend {f : Unit → Counting β} {levels : Nat}
    (h : Tracks g (f ()) ⟨rest, d⟩ depth o) :
    Tracks g (ascend levels >>= f) ⟨rest, d + levels⟩ depth o := by
  refine h.of_run ?_
  show (f ()).run ⟨rest, d + levels - levels⟩ = _
  rw [Nat.add_sub_cancel]

/-- Where there is room, counting up takes one place of it. -/
theorem Tracks.descend {f : Unit → Counting β} (hroom : g.limit - d = room + 1)
    (h : Tracks g (f ()) ⟨rest, d + 1⟩ depth o) :
    Tracks g (descend g >>= f) ⟨rest, d⟩ depth o := by
  have hrun : (Counting.descend g).run ⟨rest, d⟩ = some (.ok (), ⟨rest, d + 1⟩) := by
    show (if d + 1 > g.limit then (Counting.failHere g (.tooDeep g.limit) : Counting Unit)
      else Pure.pure ()).run ⟨rest, d + 1⟩ = _
    rw [if_neg (by omega)]
    rfl
  exact h.of_run (run_bind_ok hrun f)

/-- Where there is none, counting up is refused. -/
theorem Tracks.descend_zero (hroom : g.limit - d = 0) (f : Unit → Counting β) :
    Tracks g (Counting.descend g >>= f) ⟨rest, d⟩ depth
      (.failed ⟨.tooDeep g.limit, g.place rest⟩ rest 0) := by
  have hrun : (Counting.descend g).run ⟨rest, d⟩
      = some (.error ⟨.tooDeep g.limit, g.place rest⟩, ⟨rest, d + 1⟩) := by
    show (if d + 1 > g.limit then (Counting.failHere g (.tooDeep g.limit) : Counting Unit)
      else Pure.pure ()).run ⟨rest, d + 1⟩ = _
    rw [if_pos (by omega)]
    rfl
  exact ⟨d + 1, by omega, run_bind_error hrun f⟩

end Tracks

/-! ## Every rule -/

variable {room depth count calls : Nat} {t : Token} {rest tokens : List Token} {level : Level}

/-- The token at the end is of no other kind. -/
theorem stop_kind_ne (hstop : g.stop.kind = .eof) {kind : TokenKind} (hkind : kind ≠ .eof) :
    g.stop.kind ≠ kind :=
  fun hk => hkind (hk.symm.trans hstop)

theorem front_kind_ne (hstop : g.stop.kind = .eof) {kind : TokenKind} (hkind : kind ≠ .eof)
    (h : ∀ c ∈ tokens.head?, c.kind ≠ kind) : (g.front tokens).kind ≠ kind := by
  cases tokens with
  | nil => exact stop_kind_ne hstop hkind
  | cons c rest => exact h c rfl

theorem tracks_closing (hstop : g.stop.kind = .eof) {kind : TokenKind} (hkind : kind ≠ .eof)
    (hroom : g.limit - (depth + 1) = room) (fault : ParseFault) (node : Token → Expr)
    (tokens : List Token) :
    Tracks g (closing g kind fault node) ⟨tokens, depth + 1⟩ depth
      (close g room kind fault node tokens) := by
  cases tokens with
  | nil =>
    refine .peek_nil ?_
    rw [if_neg (stop_kind_ne hstop hkind)]
    exact .failHere hroom fault
  | cons c after =>
    refine .peek_cons ?_
    by_cases hc : c.kind = kind
    · rw [close_of_eq hc, if_pos hc]
      refine .advance ?_ c
      exact .ascend (.pure (node c) after)
    · rw [close_of_ne hc, if_neg hc]
      exact .failHere hroom fault

/-- A parenthesis is taken, and the rule for what stands in it goes on. -/
theorem run_leftParen (h : t.kind = .leftParen) (rest : List Token) (depth : Nat) :
    (expression g (calls + 1) none).run ⟨t :: rest, depth⟩
      = (group g t (expression g calls (some .or))).run ⟨rest, depth⟩ := by
  rw [expression, run_peek_cons, if_neg (by rw [h]; decide), if_neg (by rw [h]; decide),
    if_pos h]
  rfl

/-- A bracket is taken, and the rule for lists goes on. -/
theorem run_leftBracket (h : t.kind = .leftBracket) (rest : List Token) (depth : Nat) :
    (expression g (calls + 1) none).run ⟨t :: rest, depth⟩
      = (list g t (elements g calls)).run ⟨rest, depth⟩ := by
  rw [expression, run_peek_cons, if_neg (by rw [h]; decide), if_neg (by rw [h]; decide),
    if_neg (by rw [h]; decide), if_pos h]
  rfl

/-- **Reads a chain whose part so far is `left`**, with the links counted
before, and gives all of them back. -/
def chainFrom (g : Setting) (calls : Nat) (level : Level) (left : Expr) (count : Nat) :
    Counting Expr := do
  let (e, count) ← links g calls level left count
  ascend count
  return e

theorem chainFrom_eq (calls : Nat) (level : Level) (left : Expr) (count : Nat) :
    chainFrom g (calls + 1) level left count = do
      match (← peek g).kind.operatorAt level with
      | none =>
        ascend count
        return left
      | some op =>
        advance
        descend g
        let right ← expression g calls level.tighter
        if level.chains then chainFrom g calls level (.join op left right) (count + 1)
        else
          ascend (count + 1)
          return .join op left right := by
  rw [chainFrom, links, bind_assoc]
  congr 1
  funext t
  cases t.kind.operatorAt level with
  | none => rw [pure_bind]
  | some op =>
    simp only [bind_assoc]
    cases level.chains with
    | true => rfl
    | false => rfl

theorem tracks_chain_end {left : Expr} (h : (g.front tokens).kind.operatorAt level = none) :
    Tracks g (chainFrom g (calls + 1) level left count) ⟨tokens, depth + count⟩ depth
      (.ok left tokens) := by
  rw [chainFrom_eq]
  refine .peek ?_
  rw [h]
  exact .ascend (.pure left tokens)

/-- **Counting tracks reading.** From any depth, what the rules give that count
is what is read in the room that the depth leaves, if enough calls are left:
seven for each token, and as many more as there are rules from this one to the
atoms. -/
theorem tracks (hstop : g.stop.kind = .eof) :
    Rules g
      (fun room level tokens o => ∀ calls depth, 7 * tokens.length + height level < calls →
        g.limit - depth = room → Tracks g (expression g calls level) ⟨tokens, depth⟩ depth o)
      (fun room level left tokens o => ∀ calls depth count, 7 * tokens.length < calls →
        g.limit - (depth + count) = room →
          Tracks g (chainFrom g calls level left count) ⟨tokens, depth + count⟩ depth o)
      (fun room tokens o => ∀ calls depth, 7 * tokens.length + 6 < calls →
        g.limit - depth = room → Tracks g (elements g calls) ⟨tokens, depth⟩ depth o) where
  level {room level tokens o} ho operand links
    | calls + 1, depth, hcalls, hroom => by
      have hheight := height_tighter level
      change _ + level.rank < _ at hcalls
      rw [expression]
      refine (operand calls depth (by omega) hroom).bind fun left after hok => ?_
      have hlt := length_lt_of_read (ho.trans hok)
      exact links left after hok calls depth 0 (by omega) hroom
  nil room
    | calls + 1, depth, _, hroom => by
      rw [expression]
      refine .peek_nil ?_
      rw [if_neg (by rw [hstop]; decide), if_neg (by rw [hstop]; decide),
        if_neg (by rw [hstop]; decide), if_neg (by rw [hstop]; decide)]
      exact .failHere hroom _
  literal room t rest h
    | calls + 1, depth, _, _ => by
      rw [expression]
      refine .peek_cons ?_
      rw [if_pos h]
      refine .advance ?_ t
      exact .pure _ rest
  name room t rest h
    | calls + 1, depth, _, _ => by
      rw [expression]
      refine .peek_cons ?_
      rw [if_neg (by rw [h]; decide), if_pos h]
      refine .advance ?_ t
      exact .pure _ rest
  bracketZero {t} rest h
    | calls + 1, depth, _, hroom => by
      rcases h with h | h
      · exact .of_run (.descend_zero hroom _) (run_leftParen h rest depth)
      · exact .of_run (.descend_zero hroom _) (run_leftBracket h rest depth)
  group {room t rest o} h ho body
    | calls + 1, depth, hcalls, hroom => by
      rw [List.length_cons] at hcalls
      have hheight := height_le (some .or)
      refine .of_run ?_ (run_leftParen h rest depth)
      exact .descend hroom ((body calls (depth + 1) (by omega) (by omega)).bind fun e after _ =>
        tracks_closing hstop (by decide) (by omega) _ _ after)
  emptyList room t c rest h hc
    | calls + 1, depth, _, hroom => by
      refine .of_run ?_ (run_leftBracket h (c :: rest) depth)
      refine .descend hroom (.peek_cons ?_)
      rw [if_pos hc]
      have hbracket : TokenKind.rightBracket ≠ .eof := by decide
      have hlimit : g.limit - (depth + 1) = room := by omega
      have hclose := tracks_closing hstop hbracket hlimit .expectedRightBracket
        (fun c => .list [] (t.span.through c.span)) (c :: rest)
      rw [close_of_eq hc] at hclose
      exact hclose
  list {room t rest o} h hrest ho elements
    | calls + 1, depth, hcalls, hroom => by
      rw [List.length_cons] at hcalls
      refine .of_run ?_ (run_leftBracket h rest depth)
      refine .descend hroom (.peek ?_)
      rw [if_neg (front_kind_ne hstop (by decide) hrest)]
      exact (elements calls (depth + 1) (by omega) (by omega)).bind fun es after _ =>
        tracks_closing hstop (by decide) (by omega) _ _ after
  other room t rest hl hi hp hb
    | calls + 1, depth, _, hroom => by
      rw [expression]
      refine .peek_cons ?_
      rw [if_neg (by rw [hl]; decide), if_neg hi, if_neg hp, if_neg hb]
      exact .failHere hroom _
  chainNil room level left
    | calls + 1, depth, count, _, hroom => tracks_chain_end (by
      show g.stop.kind.operatorAt level = none
      rw [hstop]
      rfl)
  chainStop room level t left rest h
    | calls + 1, depth, count, _, hroom => tracks_chain_end h
  chainZero {level t op} left rest h
    | calls + 1, depth, count, _, hroom => by
      rw [chainFrom_eq]
      refine .peek_cons ?_
      rw [h]
      exact .advance (.descend_zero hroom _) t
  link {room op t left rest o} h ho operand links
    | calls + 1, depth, count, hcalls, hroom => by
      rw [List.length_cons] at hcalls
      have hheight := height_le op.level.tighter
      have hop : t.kind.operatorAt op.level = some op := by
        rw [h]
        exact if_pos rfl
      rw [chainFrom_eq]
      refine .peek_cons ?_
      rw [hop]
      refine .advance (.descend hroom ?_) t
      refine (operand calls (depth + count + 1) (by omega) (by omega)).bind
        fun right after hok => ?_
      have hlt := length_lt_of_read (ho.trans hok)
      by_cases hc : op.level.chains = true
      · rw [if_pos hc, nextLink_of_chains g room hc]
        exact links right after hok calls depth (count + 1) (by omega) (by omega)
      · rw [if_neg hc, nextLink_of_not_chains g room hc]
        exact .ascend (.pure _ after)
  elements {room tokens o} ho first others
    | calls + 1, depth, hcalls, hroom => by
      have hheight := height_le (some .or)
      rw [elements]
      refine (first calls depth (by omega) hroom).bind fun e after hok => ?_
      have hlt := length_lt_of_read (ho.trans hok)
      cases after with
      | nil =>
        refine .peek_nil ?_
        rw [if_neg (stop_kind_ne hstop (by decide))]
        exact .pure [e] []
      | cons t rest =>
        refine .peek_cons ?_
        rw [List.length_cons] at hlt
        by_cases hk : t.kind = .comma
        · rw [moreElements_of_comma g room e rest hk, if_pos hk]
          exact .advance ((others e t rest hok calls depth (by omega) hroom).bind
            fun es after _ => .pure _ after) t
        · rw [moreElements_of_stop g room e (by rintro _ ⟨⟩; exact hk), if_neg hk]
          exact .pure [e] _

theorem tracks_expression (hstop : g.stop.kind = .eof) (level : Option Level) (c : Cursor)
    (hcalls : 7 * c.rest.length + 7 ≤ calls) :
    Tracks g (expression g calls level) c c.depth
      (read g (g.limit - c.depth) level c.rest).val := by
  have hheight := height_le level
  exact (tracks hstop).read (g.limit - c.depth) level c.rest calls c.depth (by omega) rfl

/-- **A parser that counts.** Up to the end, counting gives the answer of a
parser, and leaves the tokens and the room that the parser has then. -/
theorem run_whole {p : Parser} (hstop : p.stop.kind = .eof)
    (hinner : ∀ t ∈ p.rest, t.kind ≠ .eof) {depth : Nat} (hroom : p.limit - depth = p.room)
    (hcalls : 7 * p.rest.length + 7 ≤ calls) :
    ∃ c, (whole p.setting calls).run ⟨p.rest, depth⟩ = some (p.parse.1, c) ∧
      c.rest = p.parse.2.rest ∧ p.limit - c.depth = p.parse.2.room := by
  have htracks : Tracks p.setting (expression p.setting calls (some .or)) ⟨p.rest, depth⟩ depth
      (read p.setting p.room (some .or) p.rest).val :=
    hroom ▸ tracks_expression hstop (some .or) ⟨p.rest, depth⟩ hcalls
  unfold Parser.parse
  split
  · next e after room hread =>
    rw [hread] at htracks
    obtain ⟨d, hd, hfail⟩ := htracks
    exact ⟨_, run_bind_error hfail _, rfl, hd⟩
  · next e hread =>
    rw [hread] at htracks
    refine ⟨⟨[], depth⟩, ?_, rfl, hroom⟩
    rw [whole, run_bind_ok htracks]
    show (if p.stop.kind = .eof then _ else _ : Counting Expr).run _ = _
    rw [if_pos hstop]
    rfl
  · next e t after hread =>
    have hsuffix := hread ▸ ((keeps p.setting).read p.room (some .or) p.rest).suffix
    rw [hread] at htracks
    refine ⟨⟨t :: after, depth⟩, ?_, rfl, hroom⟩
    rw [whole, run_bind_ok htracks, run_peek_cons,
      if_neg (hinner t (hsuffix.subset List.mem_cons_self))]
    rfl

/-! ## What a success leaves -/

/-- Wherever a computation succeeds from a depth, what it gives and the depth
that it leaves are as said. -/
def Leaves (x : Counting α) (depth : Nat) (post : α → Nat → Prop) : Prop :=
  ∀ c v c', c.depth = depth → x.run c = some (.ok v, c') → post v c'.depth

/-- **A computation is balanced** if a success leaves the counter as it was. -/
def Balanced (x : Counting α) : Prop := ∀ depth, Leaves x depth fun _ depth' => depth' = depth

section Leaves

variable {x : Counting α} {post : β → Nat → Prop}

theorem leaves_pure {post : α → Nat → Prop} {v : α} (h : post v depth) :
    Leaves (Pure.pure v) depth post := by
  rintro c _ _ rfl ⟨⟩
  exact h

theorem leaves_stuck (post : α → Nat → Prop) : Leaves stuck depth post := by
  rintro c v c' - ⟨⟩

theorem leaves_throw (e : ParseError) (post : α → Nat → Prop) :
    Leaves (throw e) depth post := by
  rintro c v c' - ⟨⟩

theorem leaves_failHere (fault : ParseFault) (post : α → Nat → Prop) :
    Leaves (failHere g fault) depth post := by
  rintro c v c' - ⟨⟩

/-- **One computation after another** leaves what the second does from where
the first leaves the counter. -/
theorem Leaves.bind {mid : α → Nat → Prop} {f : α → Counting β} (hx : Leaves x depth mid)
    (hf : ∀ v depth', mid v depth' → Leaves (f v) depth' post) :
    Leaves (x >>= f) depth post := by
  intro c w c' hc h
  match hrun : x.run c with
  | some (.ok v, d) =>
    rw [run_bind_ok hrun f] at h
    exact hf v d.depth (hx c v d hc hrun) d w c' rfl h
  | some (.error e, d) => cases (run_bind_error hrun f).symm.trans h
  | none =>
    have hnone : (x >>= f).run c = none := by
      show (x.run c).bind _ = _
      rw [hrun]
      rfl
    cases hnone.symm.trans h

theorem Leaves.peek {f : Token → Counting β} (h : ∀ t, Leaves (f t) depth post) :
    Leaves (peek g >>= f) depth post :=
  fun c v c' hc hrun => h (g.front c.rest) c v c' hc hrun

theorem Leaves.advance {f : Unit → Counting β} (h : Leaves (f ()) depth post) :
    Leaves (advance >>= f) depth post :=
  fun c v c' hc hrun => h { c with rest := c.rest.tail } v c' hc hrun

theorem Leaves.ascend {f : Unit → Counting β} {levels : Nat}
    (h : Leaves (f ()) (depth - levels) post) : Leaves (ascend levels >>= f) depth post :=
  fun c v c' hc hrun => h { c with depth := c.depth - levels } v c' (hc ▸ rfl) hrun

theorem leaves_descend : Leaves (descend g) depth fun _ depth' => depth' = depth + 1 := by
  rintro c v c' rfl h
  change (if c.depth + 1 > g.limit then (failHere g (.tooDeep g.limit) : Counting Unit)
    else Pure.pure ()).run ⟨c.rest, c.depth + 1⟩ = _ at h
  split at h
  · cases h
  · cases h
    rfl

theorem Leaves.descend {f : Unit → Counting β} (h : Leaves (f ()) (depth + 1) post) :
    Leaves (descend g >>= f) depth post :=
  leaves_descend.bind fun _ _ hd => hd ▸ h

/-- The end of a bracket leaves the counter one lower. -/
theorem leaves_closing (kind : TokenKind) (fault : ParseFault) (node : Token → Expr) :
    Leaves (closing g kind fault node) (depth + 1) fun _ depth' => depth' = depth := by
  refine .peek fun c => ?_
  split
  · exact .advance (.ascend (leaves_pure rfl))
  · exact leaves_failHere fault _

end Leaves

theorem balanced_group {body : Counting Expr} (h : Balanced body) (opening : Token) :
    Balanced (group g opening body) := by
  intro depth
  refine .descend ((h (depth + 1)).bind ?_)
  rintro e _ rfl
  exact leaves_closing _ _ _

theorem balanced_list {elements : Counting (List Expr)} (h : Balanced elements)
    (opening : Token) : Balanced (list g opening elements) := by
  intro depth
  refine .descend (.peek fun first => ?_)
  dsimp only
  split
  · rw [pure_bind]
    exact leaves_closing _ _ _
  · refine (h (depth + 1)).bind ?_
    rintro es _ rfl
    exact leaves_closing _ _ _

/-- **Every rule is balanced**, but for the links of a chain, which leave
counted what they say. By the calls that are left, each rule from those that it
calls. -/
theorem balanced (g : Setting) (calls : Nat) :
    (∀ level, Balanced (expression g calls level)) ∧
      (∀ level left count depth, Leaves (links g calls level left count) depth
        fun chain depth' => depth' + count = depth + chain.2) ∧
      Balanced (elements g calls) := by
  induction calls with
  | zero =>
    refine ⟨fun level depth => ?_, fun level left count depth => ?_, fun depth => ?_⟩
    · rw [expression]
      exact leaves_stuck _
    · rw [links]
      exact leaves_stuck _
    · rw [elements]
      exact leaves_stuck _
  | succ calls ih =>
    obtain ⟨hexpression, hlinks, helements⟩ := ih
    refine ⟨fun level depth => ?_, fun level left count depth => ?_, fun depth => ?_⟩
    · cases level with
      | some level =>
        rw [expression]
        refine (hexpression level.tighter depth).bind ?_
        rintro left _ rfl
        refine (hlinks level left 0 _).bind fun chain depth' hchain => ?_
        exact .ascend (leaves_pure (by omega))
      | none =>
        rw [expression]
        refine .peek fun t => ?_
        split
        · exact .advance (leaves_pure rfl)
        split
        · exact .advance (leaves_pure rfl)
        split
        · exact .advance (balanced_group (hexpression (some .or)) t depth)
        split
        · exact .advance (balanced_list helements t depth)
        · exact leaves_failHere _ _
    · rw [links]
      refine .peek fun t => ?_
      split
      · exact leaves_pure rfl
      · refine .advance (.descend ((hexpression level.tighter (depth + 1)).bind ?_))
        rintro right _ rfl
        split
        · intro c chain c' hc hrun
          have hmore := hlinks level _ (count + 1) (depth + 1) c chain c' hc hrun
          omega
        · exact leaves_pure (by omega)
    · rw [elements]
      refine (hexpression (some .or) depth).bind ?_
      rintro first _ rfl
      refine .peek fun t => ?_
      split
      · refine .advance ((helements _).bind ?_)
        rintro others _ rfl
        exact leaves_pure rfl
      · exact leaves_pure rfl

theorem balanced_whole (g : Setting) (calls : Nat) : Balanced (whole g calls) := by
  intro depth
  refine ((balanced g calls).1 (some .or) depth).bind ?_
  rintro e _ rfl
  refine .peek fun t => ?_
  split
  · exact leaves_pure rfl
  · exact leaves_failHere _ _

theorem balanced_condition (g : Setting) (calls : Nat) : Balanced (condition g calls) := by
  intro depth
  refine (balanced_whole g calls depth).bind ?_
  rintro e _ rfl
  split
  · exact leaves_pure rfl
  · exact leaves_throw _ _

end Counting
end CardQuery.Grammar
