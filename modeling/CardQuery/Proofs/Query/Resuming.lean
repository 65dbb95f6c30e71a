import CardQuery.Proofs.Query.Room

/-!
# Asking a parser again

A parser may be asked any number of times. It goes on where the last answer left
it, whatever that was: in front of the end after a success, and anywhere after a
failure, with brackets and links still counted that nothing closed. What it does
then is told by these two alone, the place and the depth. A parser that was never
asked anything, and that is given the tokens from the place on and a limit as low
as what the depth leaves, answers the same and takes the same tokens
(`Parser.ask_after_eq_fresh`).

The two limits differ, and a refusal for want of room names the one it was asked
under. Nothing else does, so reading under another limit in the same room
replaces that number and changes nothing more (`Grammar.read_under`).

Tokens are taken off the front up to the first end token, and that is never
taken. Where a parser has come to it, there is nothing left to be asked about.
-/

namespace CardQuery

/-! ## Another limit -/

/-- **A fault under another limit.** Only a refusal for want of room names it. -/
def ParseFault.withLimit (limit : Nat) : ParseFault → ParseFault
  | .tooDeep _ => .tooDeep limit
  | fault => fault

/-- An error under another limit. -/
def ParseError.withLimit (limit : Nat) (e : ParseError) : ParseError :=
  ⟨e.fault.withLimit limit, e.position⟩

namespace Grammar

/-- The same setting under another limit. -/
def Setting.under (g : Setting) (limit : Nat) : Setting := ⟨limit, g.stop⟩

/-- What reading gives under another limit. -/
def Outcome.withLimit {α : Type} (limit : Nat) : Outcome α → Outcome α
  | .ok v after => .ok v after
  | .failed e after room => .failed (e.withLimit limit) after room

section Under

variable {α β : Type} {g : Setting} {limit room : Nat}

/-- One step after another under another limit. -/
theorem Outcome.andThen_withLimit {o o' : Outcome α} {f f' : α → List Token → Outcome β}
    (ho : o' = o.withLimit limit)
    (hf : ∀ v after, o = .ok v after → f' v after = (f v after).withLimit limit) :
    o'.andThen f' = (o.andThen f).withLimit limit := by
  subst ho
  cases o with
  | ok v after => exact hf v after rfl
  | failed e after room => rfl

theorem close_under (kind : TokenKind) {fault : ParseFault}
    (hfault : fault.withLimit limit = fault) (node : Token → Expr) (tokens : List Token) :
    close (g.under limit) room kind fault node tokens
      = (close g room kind fault node tokens).withLimit limit := by
  have hfailed : ∀ after, (Outcome.failed ⟨fault, g.place after⟩ after room : Outcome Expr)
      = (Outcome.failed ⟨fault, g.place after⟩ after room).withLimit limit := by
    intro after
    rw [Outcome.withLimit, ParseError.withLimit, hfault]
  cases tokens with
  | nil => exact hfailed []
  | cons c after =>
    by_cases hc : c.kind = kind
    · rw [close_of_eq hc, close_of_eq hc]
      rfl
    · rw [close_of_ne hc, close_of_ne hc]
      exact hfailed (c :: after)

theorem nextLink_under {op : Operator} {left right : Expr} {after : List Token}
    (h : (chain (g.under limit) room op.level (.join op left right) after).val
      = (chain g room op.level (.join op left right) after).val.withLimit limit) :
    nextLink (g.under limit) room op left right after
      = (nextLink g room op left right after).withLimit limit := by
  by_cases hc : op.level.chains = true
  · rwa [nextLink_of_chains _ room hc, nextLink_of_chains _ room hc]
  · rw [nextLink_of_not_chains _ room hc, nextLink_of_not_chains _ room hc]
    rfl

theorem moreElements_under {after : List Token} (e : Expr)
    (h : ∀ t rest, after = t :: rest → (readElements (g.under limit) room rest).val
      = (readElements g room rest).val.withLimit limit) :
    moreElements (g.under limit) room e after = (moreElements g room e after).withLimit limit := by
  cases after with
  | nil => rfl
  | cons t rest =>
    by_cases hk : t.kind = .comma
    · rw [moreElements_of_comma _ room e rest hk, moreElements_of_comma _ room e rest hk]
      exact Outcome.andThen_withLimit (h t rest rfl) fun _ _ _ => rfl
    · have hstop : ∀ c ∈ (t :: rest).head?, c.kind ≠ .comma := by
        rintro _ ⟨⟩
        exact hk
      rw [moreElements_of_stop _ room e hstop, moreElements_of_stop _ room e hstop]
      rfl

/-- **Reading under another limit.** The same room gives the same result or the
same failure, and leaves the same tokens and the same room. -/
theorem read_under (g : Setting) (limit : Nat) :
    Rules g
      (fun room level tokens o => (read (g.under limit) room level tokens).val = o.withLimit limit)
      (fun room level left tokens o =>
        (chain (g.under limit) room level left tokens).val = o.withLimit limit)
      (fun room tokens o =>
        (readElements (g.under limit) room tokens).val = o.withLimit limit) where
  level _ operand links := by
    rw [val_read_level]
    exact Outcome.andThen_withLimit operand links
  nil room := val_read_nil _ room none
  literal room t rest h := val_read_literal _ room rest h
  name room t rest h := val_read_name _ room rest h
  bracketZero rest h := val_read_bracket_zero _ rest h
  group h _ body := by
    rw [val_read_group _ _ _ h]
    exact Outcome.andThen_withLimit body fun _ after _ => close_under .rightParen rfl _ after
  emptyList room t c rest h hc := val_read_emptyList _ room rest h hc
  list h hrest _ elements := by
    rw [val_read_list _ _ _ h hrest]
    exact Outcome.andThen_withLimit elements fun _ after _ =>
      close_under .rightBracket rfl _ after
  other room t rest hl hi hp hb := val_read_other _ room rest hl hi hp hb
  chainNil room level left := val_chain_nil _ room level left
  chainStop room level t left rest h := val_chain_stop _ room left rest h
  chainZero left rest h := val_chain_zero _ left rest h
  link h _ operand links := by
    rw [val_chain_eq _ _ _ _ h]
    exact Outcome.andThen_withLimit operand fun right after ho =>
      nextLink_under (links right after ho)
  elements _ first others := by
    rw [val_readElements_eq]
    exact Outcome.andThen_withLimit first fun e after ho =>
      moreElements_under e fun t rest heq => others e t rest (heq ▸ ho)

end Under

end Grammar

/-! ## Requests -/

/-- **What a parser may be asked for.** -/
inductive Request where
  /-- Any expression. -/
  | expression
  /-- An expression that is a condition. -/
  | condition

namespace Parser

open Grammar

/-- **The answer to one request**, and the parser after it. -/
def ask (p : Parser) : Request → Except ParseError Expr × Parser
  | .expression => p.parse
  | .condition => p.parseQuery

/-- **The answers to some requests**, one after another, and the parser after
them. -/
def askAll (p : Parser) : List Request → List (Except ParseError Expr) × Parser
  | [] => ([], p)
  | r :: rs => ((p.ask r).1 :: ((p.ask r).2.askAll rs).1, ((p.ask r).2.askAll rs).2)

/-- A condition is read like any expression. -/
theorem snd_ask (p : Parser) (r : Request) : (p.ask r).2 = p.parse.2 := by
  cases r with
  | expression => rfl
  | condition =>
    show p.parseQuery.2 = _
    unfold parseQuery
    split
    · next h => rw [h]
    · rfl

theorem fst_ask_of_error {p : Parser} {e : ParseError} (h : p.parse.1 = .error e) (r : Request) :
    (p.ask r).1 = .error e := by
  cases r with
  | expression => exact h
  | condition =>
    show p.parseQuery.1 = _
    unfold parseQuery
    split
    · next hok =>
      rw [hok] at h
      cases h
    · exact h

theorem fst_ask_condition {p : Parser} {e : Expr} (h : p.parse.1 = .ok e) :
    (p.ask .condition).1
      = if e.isCondition then .ok e else .error ⟨.notACondition, e.span.start⟩ := by
  have hparse : p.parse = (.ok e, p.parse.2) := Prod.ext h rfl
  show p.parseQuery.1 = _
  rw [parseQuery, hparse]

/-- The same parser under another limit, with the room that it has. -/
def under (p : Parser) (limit : Nat) : Parser := { p with limit := limit }

/-- **A request under another limit** has the same answer but for the limit that
a refusal names, and leaves the same tokens and the same room. -/
theorem ask_under (p : Parser) (limit : Nat) (r : Request) :
    (p.under limit).ask r
      = ((p.ask r).1.mapError (·.withLimit limit), (p.ask r).2.under limit) := by
  have hparse : (p.under limit).parse
      = (p.parse.1.mapError (·.withLimit limit), p.parse.2.under limit) := by
    have hread := (read_under p.setting limit).read p.room (some .or) p.rest
    have hread' : (read (p.under limit).setting (p.under limit).room (some .or)
        (p.under limit).rest).val
          = (read p.setting p.room (some .or) p.rest).val.withLimit limit := hread
    unfold parse
    rw [hread']
    generalize (read p.setting p.room (some .or) p.rest).val = o
    cases o with
    | ok e after => cases after <;> rfl
    | failed e after room => rfl
  refine Prod.ext ?_ (by rw [snd_ask, snd_ask, hparse])
  match hfirst : p.parse.1 with
  | .error e =>
    have herror : (p.under limit).parse.1 = .error (e.withLimit limit) := by
      rw [hparse, hfirst]
      rfl
    rw [fst_ask_of_error herror, fst_ask_of_error hfirst]
    rfl
  | .ok e =>
    have hok : (p.under limit).parse.1 = .ok e := by
      rw [hparse, hfirst]
      rfl
    cases r with
    | expression => exact congrArg Prod.fst hparse
    | condition =>
      rw [fst_ask_condition hok, fst_ask_condition hfirst]
      split <;> rfl

/-! ## Up to the end -/

/-- **Whether a parser has come to it** from another one: it reads under the same
limit up to the same end, and has only taken tokens. -/
structure ComesTo (p q : Parser) : Prop where
  limit : q.limit = p.limit
  stop : q.stop = p.stop
  rest : q.rest <:+ p.rest

theorem ComesTo.refl (p : Parser) : p.ComesTo p := ⟨rfl, rfl, List.suffix_refl p.rest⟩

theorem ComesTo.trans {p q r : Parser} (h : p.ComesTo q) (h' : q.ComesTo r) : p.ComesTo r :=
  ⟨h'.limit.trans h.limit, h'.stop.trans h.stop, h'.rest.trans h.rest⟩

/-- **One request** takes tokens off the front. -/
theorem comesTo_ask (p : Parser) (r : Request) : p.ComesTo (p.ask r).2 := by
  have hsuffix := ((keeps p.setting).read p.room (some .or) p.rest).suffix
  rw [snd_ask]
  unfold parse
  generalize (read p.setting p.room (some .or) p.rest).val = o at hsuffix
  match o, hsuffix with
  | .failed e after room, hsuffix => exact ⟨rfl, rfl, hsuffix⟩
  | .ok e [], _ => exact ⟨rfl, rfl, List.nil_suffix⟩
  | .ok e (t :: after), hsuffix => exact ⟨rfl, rfl, hsuffix⟩

/-- **Any number of requests** take tokens off the front. -/
theorem comesTo_askAll (p : Parser) (rs : List Request) : p.ComesTo (p.askAll rs).2 := by
  induction rs generalizing p with
  | nil => exact .refl p
  | cons r rs ih => exact (comesTo_ask p r).trans (ih _)

/-- A success is one up to the end. -/
theorem rest_ask_of_ok {p : Parser} {e : Expr} (h : p.parse.1 = .ok e) (r : Request) :
    (p.ask r).2.rest = [] := by
  rw [snd_ask]
  revert h
  unfold parse
  split
  · rintro ⟨⟩
  · exact fun _ => rfl
  · rintro ⟨⟩

/-- At the end an expression is missing, and nothing moves. -/
theorem ask_of_rest_nil {p : Parser} (h : p.rest = []) (r : Request) :
    p.ask r = (.error ⟨.expectedExpression p.stop.lexeme, p.stop.span.start⟩, p) := by
  have hparse :
      p.parse = (.error ⟨.expectedExpression p.stop.lexeme, p.stop.span.start⟩, p) := by
    unfold parse
    rw [h, val_read_nil]
    refine Prod.ext rfl ?_
    rw [← h]
  exact Prod.ext (fst_ask_of_error (congrArg Prod.fst hparse) r)
    ((snd_ask p r).trans (congrArg Prod.snd hparse))

theorem askAll_of_rest_nil {p : Parser} (h : p.rest = []) (rs : List Request) :
    (p.askAll rs).2 = p := by
  induction rs with
  | nil => rfl
  | cons r rs ih => rw [askAll, ask_of_rest_nil h, ih]

end Parser

/-! ## Depth -/

namespace Grammar.Counting

/-- What is read for a request, with some calls. -/
def answer (g : Setting) (calls : Nat) : Request → Counting Expr
  | .expression => whole g calls
  | .condition => condition g calls

/-- One request to a reader that counts, with as many calls as are enough. -/
def ask (g : Setting) (r : Request) : Counting Expr := do
  answer g (7 * (← get).rest.length + 7) r

/-- **The answers of a reader that counts** to some requests, and where they leave
it. After a failure the counter stays as it is. -/
def session (g : Setting) :
    List Request → Cursor → Option (List (Except ParseError Expr) × Cursor)
  | [], c => some ([], c)
  | r :: rs, c => do
    let (answer, c) ← (ask g r).run c
    let (others, c) ← session g rs c
    return (answer :: others, c)

theorem run_get {α : Type} (f : Cursor → Counting α) (c : Cursor) :
    (get >>= f).run c = (f c).run c := rfl

variable {p : Parser} {depth : Nat}

/-- **One request counted** has the answer of the parser, and leaves the tokens
and the room that the parser has then. -/
theorem run_ask (hstop : p.stop.kind = .eof) (hinner : ∀ t ∈ p.rest, t.kind ≠ .eof)
    (hroom : p.limit - depth = p.room) (r : Request) :
    ∃ c, (ask p.setting r).run ⟨p.rest, depth⟩ = some ((p.ask r).1, c) ∧
      c.rest = (p.ask r).2.rest ∧ p.limit - c.depth = (p.ask r).2.room := by
  have hcalls : 7 * p.rest.length + 7 ≤ 7 * p.rest.length + 7 := Nat.le_refl _
  obtain ⟨c, hrun, hrest, hdepth⟩ := run_whole hstop hinner hroom hcalls
  refine ⟨c, ?_, by rw [Parser.snd_ask, hrest], by rw [Parser.snd_ask, hdepth]⟩
  rw [ask, run_get]
  cases r with
  | expression => exact hrun
  | condition =>
    rw [answer]
    match hfirst : p.parse.1 with
    | .error e =>
      rw [hfirst] at hrun
      rw [Parser.fst_ask_of_error hfirst]
      exact run_bind_error hrun _
    | .ok e =>
      rw [hfirst] at hrun
      rw [Parser.fst_ask_condition hfirst, condition, run_bind_ok hrun]
      split <;> rfl

/-- **Any number of requests counted** have the answers of the parser. -/
theorem session_eq (hstop : p.stop.kind = .eof) (hinner : ∀ t ∈ p.rest, t.kind ≠ .eof)
    (hroom : p.limit - depth = p.room) (rs : List Request) :
    ∃ depth', session p.setting rs ⟨p.rest, depth⟩
        = some ((p.askAll rs).1, ⟨(p.askAll rs).2.rest, depth'⟩) ∧
      p.limit - depth' = (p.askAll rs).2.room := by
  induction rs generalizing p depth with
  | nil => exact ⟨depth, rfl, hroom⟩
  | cons r rs ih =>
    obtain ⟨⟨rest, depth'⟩, hrun, rfl, hdepth⟩ := run_ask hstop hinner hroom r
    have hcomes := p.comesTo_ask r
    have hsetting : (p.ask r).2.setting = p.setting := by
      rw [Parser.setting, Parser.setting, hcomes.limit, hcomes.stop]
    rw [← hcomes.limit] at hdepth
    obtain ⟨depth'', hsession, hroom'⟩ := ih (hcomes.stop ▸ hstop)
      (fun t ht => hinner t (hcomes.rest.subset ht)) hdepth
    rw [hcomes.limit] at hroom'
    rw [hsetting] at hsession
    refine ⟨depth'', ?_, hroom'⟩
    rw [session, hrun]
    show (session p.setting rs ⟨(p.ask r).2.rest, depth'⟩).bind _ = _
    rw [hsession]
    rfl

end Grammar.Counting

/-! ## Places among tokens -/

/-- **Some tokens with an end.** Where the last one is no end token, one is put
behind it. -/
def ended (tokens : List Token) : List Token :=
  if tokens.getLast?.all Parser.isInner then
    tokens ++ [.eofAt ((tokens.getLast?.map (·.span.stop)).getD .start)]
  else tokens

/-- **The place of the first end token**: how many tokens stand in front of it. -/
def firstEnd (tokens : List Token) : Nat := ((ended tokens).takeWhile Parser.isInner).length

namespace Parser

open Grammar

/-- **The place of a parser** among some tokens: as many of them as it has left
stand from there to the first end token. -/
def cursor (p : Parser) (tokens : List Token) : Nat := firstEnd tokens - p.rest.length

theorem takeWhile_isInner {inner : List Token} (hinner : ∀ t ∈ inner, isInner t = true)
    {stop : Token} (hstop : isInner stop = false) (more : List Token) :
    (inner ++ stop :: more).takeWhile isInner = inner ∧
      (inner ++ stop :: more).find? (!isInner ·) = some stop := by
  constructor
  · rw [List.takeWhile_append_of_pos hinner, List.takeWhile_cons_of_neg (by rw [hstop]; decide),
      List.append_nil]
  · refine List.find?_eq_some_iff_append.mpr ⟨by rw [hstop]; rfl, inner, more, rfl, ?_⟩
    intro t ht
    rw [hinner t ht]
    rfl

/-- The parser of tokens of which the first end token is known. -/
theorem ofTokens_append (limit : Nat) {inner : List Token} (hinner : ∀ t ∈ inner, t.kind ≠ .eof)
    {stop : Token} (hstop : stop.kind = .eof) (more : List Token) :
    ofTokens limit (inner ++ stop :: more) = ⟨limit, limit, inner, stop⟩ := by
  have hend : isInner stop = false := by
    rw [isInner, hstop]
    rfl
  obtain ⟨htake, hfind⟩ :=
    takeWhile_isInner (fun t ht => bne_iff_ne.mpr (hinner t ht)) hend more
  rw [ofTokens, htake, hfind]
  rfl

/-- **What a parser reads of some tokens** stands in front of their first end
token, the one at which it stops. -/
theorem ended_eq (limit : Nat) (tokens : List Token) :
    ∃ more, ended tokens
      = (ofTokens limit tokens).rest ++ (ofTokens limit tokens).stop :: more := by
  match hfind : tokens.find? (!isInner ·) with
  | none =>
    have hinner : ∀ t ∈ tokens, isInner t = true := by simpa using hfind
    have hlast : tokens.getLast?.all isInner = true := by
      rw [Option.all_eq_true]
      exact fun t ht => hinner t (List.mem_of_getLast? ht)
    have htake : (tokens ++ []).takeWhile isInner = tokens ++ [].takeWhile isInner :=
      List.takeWhile_append_of_pos hinner
    rw [List.append_nil, List.takeWhile_nil, List.append_nil] at htake
    refine ⟨[], ?_⟩
    rw [ended, if_pos hlast, ofTokens, hfind, htake]
    rfl
  | some stop =>
    obtain ⟨hstop, before, behind, rfl, hbefore⟩ := List.find?_eq_some_iff_append.mp hfind
    have hinner : ∀ t ∈ before, t.kind ≠ .eof := by simpa [isInner] using hbefore
    rw [ofTokens_append limit hinner (by simpa [isInner] using hstop), ended]
    split
    · exact ⟨_, List.append_assoc _ _ _⟩
    · exact ⟨behind, rfl⟩

theorem firstEnd_eq (limit : Nat) (tokens : List Token) :
    firstEnd tokens = (ofTokens limit tokens).rest.length := by
  obtain ⟨more, hended⟩ := ended_eq limit tokens
  have hinner : ∀ t ∈ (ofTokens limit tokens).rest, isInner t = true := fun t ht =>
    bne_iff_ne.mpr (rest_ofTokens_ne_eof limit tokens t ht)
  have hstop : isInner (ofTokens limit tokens).stop = false := by
    rw [isInner, kind_stop_ofTokens]
    rfl
  rw [firstEnd, hended, (takeWhile_isInner hinner hstop more).1]

/-- **Where a parser stands** that was asked for something: from its place on,
there are the tokens that it has left and those from the first end token on. -/
theorem drop_cursor {limit : Nat} {tokens : List Token} {p : Parser}
    (h : (ofTokens limit tokens).ComesTo p) :
    (ended tokens).drop (p.cursor tokens) = p.rest ++ (ended tokens).drop (firstEnd tokens) := by
  obtain ⟨taken, htaken⟩ := h.rest
  obtain ⟨more, hended⟩ := ended_eq limit tokens
  have hend := firstEnd_eq limit tokens
  have hcursor : p.cursor tokens = taken.length := by
    rw [cursor, hend, ← htaken, List.length_append, Nat.add_sub_cancel]
  rw [hcursor, hend, hended, List.drop_left, ← htaken, List.append_assoc, List.drop_left]

/-- From the first end token on, the first one is where a parser stops. -/
theorem drop_firstEnd (limit : Nat) (tokens : List Token) :
    ∃ more, (ended tokens).drop (firstEnd tokens) = (ofTokens limit tokens).stop :: more := by
  obtain ⟨more, hended⟩ := ended_eq limit tokens
  exact ⟨more, by rw [firstEnd_eq limit, hended, List.drop_left]⟩

/-- A parser that has come somewhere is one that was never asked anything, of the
tokens from there on, but for the limit. -/
theorem eq_under_of_comesTo {limit : Nat} {tokens : List Token} {p : Parser}
    (h : (ofTokens limit tokens).ComesTo p) :
    p = (ofTokens p.room ((ended tokens).drop (p.cursor tokens))).under limit := by
  obtain ⟨more, hmore⟩ := drop_firstEnd limit tokens
  have hinner : ∀ t ∈ p.rest, t.kind ≠ .eof := fun t ht =>
    rest_ofTokens_ne_eof limit tokens t (h.rest.subset ht)
  rw [drop_cursor h, hmore, ofTokens_append _ hinner (kind_stop_ofTokens limit tokens), ← h.stop]
  have hlimit : p.limit = limit := h.limit
  show p = ⟨limit, p.room, p.rest, p.stop⟩
  rw [← hlimit]

/-! ## Call after call -/

/-- **A parser that is asked again.** Whatever some tokens are, and whatever was
asked for before, a reader that counts has given the same answers from the start
and stands where the parser does. From there, at the depth that is counted, the
next answer is that of a parser of the tokens from that place on, under the limit
that the depth leaves, but for the limit that a refusal names; and both take the
same tokens. The place does not move back, and not past the first end token. What
is read up to there leaves the parser at that token, and wherever it has come to
it, all that is asked for later is refused there, for want of an expression. -/
theorem ask_after_eq_fresh (limit : Nat) (tokens : List Token) (before : List Request)
    (request : Request) :
    let first := ofTokens limit tokens
    let p := (first.askAll before).2
    let later := (p.ask request).2
    let remaining := (ended tokens).drop (p.cursor tokens)
    (∃ depth, Counting.session first.setting before ⟨first.rest, 0⟩
          = some ((first.askAll before).1, ⟨p.rest, depth⟩) ∧
        let fresh := ofTokens (limit - depth) remaining
        (p.ask request).1 = (fresh.ask request).1.mapError (·.withLimit limit) ∧
          later.cursor tokens = p.cursor tokens + (fresh.ask request).2.cursor remaining) ∧
      remaining = p.rest ++ (ended tokens).drop (firstEnd tokens) ∧
      (ended tokens)[firstEnd tokens]? = some first.stop ∧ first.stop.kind = .eof ∧
      p.cursor tokens ≤ later.cursor tokens ∧ later.cursor tokens ≤ firstEnd tokens ∧
      (∀ e, p.parse.1 = .ok e → later.cursor tokens = firstEnd tokens) ∧
      (later.cursor tokens = firstEnd tokens → ∀ between next,
        ((later.askAll between).2.ask next).1
          = .error ⟨.expectedExpression first.stop.lexeme, first.stop.span.start⟩) := by
  intro first p later remaining
  have hstop : first.stop.kind = .eof := kind_stop_ofTokens limit tokens
  have hcomes : first.ComesTo p := comesTo_askAll first before
  have hlater : p.ComesTo later := comesTo_ask p request
  have hend : firstEnd tokens = first.rest.length := firstEnd_eq limit tokens
  have hlength : p.rest.length ≤ first.rest.length := hcomes.rest.length_le
  have hlength' : later.rest.length ≤ p.rest.length := hlater.rest.length_le
  obtain ⟨depth, hsession, hroom⟩ := Counting.session_eq hstop
    (rest_ofTokens_ne_eof limit tokens) (Nat.sub_zero limit) before
  obtain ⟨more, hmore⟩ := drop_firstEnd limit tokens
  refine ⟨⟨depth, hsession, ?_⟩, drop_cursor hcomes, ?_, hstop, ?_, Nat.sub_le _ _, ?_, ?_⟩
  · -- the parser is the fresh one but for the limit
    have hsame : p = (ofTokens (limit - depth) remaining).under limit := by
      rw [show limit - depth = p.room from hroom]
      exact eq_under_of_comesTo hcomes
    have hask := ask_under (ofTokens (limit - depth) remaining) limit request
    rw [← hsame] at hask
    refine ⟨congrArg Prod.fst hask, ?_⟩
    have hrest : later.rest = ((ofTokens (limit - depth) remaining).ask request).2.rest :=
      congrArg (fun answer => answer.2.rest) hask
    have hstart : (ofTokens (limit - depth) remaining).rest = p.rest :=
      (congrArg Parser.rest hsame).symm
    rw [cursor, cursor, cursor, firstEnd_eq (limit - depth) remaining, hstart, ← hrest]
    omega
  · rw [← List.head?_drop, hmore]
    rfl
  · rw [cursor, cursor]
    omega
  · intro e he
    rw [cursor, rest_ask_of_ok he request]
    rfl
  · intro hcursor between next
    have hnil : later.rest = [] := by
      refine List.eq_nil_of_length_eq_zero ?_
      rw [cursor] at hcursor
      omega
    rw [askAll_of_rest_nil hnil, ask_of_rest_nil hnil, hlater.stop, hcomes.stop]

end Parser

end CardQuery
