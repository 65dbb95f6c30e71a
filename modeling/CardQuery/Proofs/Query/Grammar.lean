import CardQuery.Proofs.Query.Reading

/-!
# The grammar of queries

`Phrase` is the grammar as it is written down: one rule for each level, and
one for every kind of atom. A chain is one operand and any number of links,
a comparison is one operand and at most one link, a list holds any number of
elements. There is nothing in it about trees, about the order in which a
rule is tried, or about room.

Reading recognizes exactly the phrases of the grammar as soon as the room is
no smaller than the number of tokens (`parse_iff_phrase`), and the tree it
gives is the only canonical one that reads back as the tokens.
-/

namespace CardQuery.Grammar

/-- **The phrases of the grammar** at a level, and the atoms. -/
inductive Phrase : Option Level → List TokenKind → Prop where
  /-- A literal. -/
  | literal {k : TokenKind} (h : k.isLiteral = true) : Phrase none [k]
  /-- The name of a field. -/
  | name : Phrase none [.identifier]
  /-- A phrase in parentheses. -/
  | group {w : List TokenKind} (body : Phrase (some .or) w) :
    Phrase none (.leftParen :: (w ++ [.rightParen]))
  /-- A list without elements. -/
  | emptyList : Phrase none [.leftBracket, .rightBracket]
  /-- A list of phrases with commas between them. -/
  | list {w : List TokenKind} {others : List (List TokenKind)} (first : Phrase (some .or) w)
    (rest : ∀ v ∈ others, Phrase (some .or) v) :
    Phrase none (.leftBracket :: (w ++ others.flatMap (.comma :: ·) ++ [.rightBracket]))
  /-- A chain of any number of links. -/
  | chain {level : Level} (chains : level.chains = true) {w : List TokenKind}
    {links : List (Operator × List TokenKind)} (first : Phrase level.tighter w)
    (operators : ∀ l ∈ links, l.1.level = level)
    (operands : ∀ l ∈ links, Phrase level.tighter l.2) :
    Phrase (some level) (w ++ links.flatMap fun l => .operator l.1 :: l.2)
  /-- A comparison without a link. -/
  | operand {w : List TokenKind} (only : Phrase (some .additive) w) : Phrase (some .comparison) w
  /-- A comparison with its one link. -/
  | comparison {op : Operator} (h : op.level = .comparison) {v w : List TokenKind}
    (left : Phrase (some .additive) v) (right : Phrase (some .additive) w) :
    Phrase (some .comparison) (v ++ .operator op :: w)

namespace Phrase

/-- A phrase of the next tighter level is one of the level. -/
theorem loosen {level : Level} {w : List TokenKind} (h : Phrase level.tighter w) :
    Phrase (some level) w := by
  by_cases hc : level.chains = true
  · have hnil := @chain level hc w [] h (List.forall_mem_nil _) (List.forall_mem_nil _)
    rwa [List.flatMap_nil, List.append_nil] at hnil
  · cases level with
    | comparison => exact operand h
    | _ => exact absurd rfl hc

/-- A phrase of a level is one of every looser level. -/
theorem loosen_to {level : Option Level} {w : List TokenKind} (h : Phrase level w)
    (looser : Option Level) (hle : height level ≤ height looser) : Phrase looser w := by
  -- one level at a time, down from the looser one
  induction hn : height looser generalizing looser with
  | zero =>
    match level, looser with
    | none, none => exact h
    | some level, none => exact absurd (Nat.le_zero.mp hle) (Nat.ne_of_gt (rank_pos level))
    | _, some looser => exact absurd hn (Nat.ne_of_gt (rank_pos looser))
  | succ n ih =>
    match looser with
    | none => exact absurd hn.symm (Nat.succ_ne_zero n)
    | some looser =>
      by_cases heq : height level = looser.rank
      · match level with
        | none => exact absurd heq (Nat.ne_of_lt (rank_pos looser))
        | some level =>
          obtain rfl := rank_injective heq
          exact h
      · have hlt : height level < looser.rank := Nat.lt_of_le_of_ne hle heq
        have hlow : height looser.tighter = n := by
          cases looser <;> exact Nat.succ.inj hn
        exact (ih looser.tighter (le_height_tighter hlt) hlow).loosen

/-- A chain goes on with one more link. -/
theorem link {op : Operator} (hc : op.level.chains = true) {v w : List TokenKind}
    (hv : Phrase (some op.level) v) (hw : Phrase op.level.tighter w) :
    Phrase (some op.level) (v ++ .operator op :: w) := by
  -- the level is made a variable, or the cases of the phrase would not unify with it
  generalize hlevel : some op.level = level at hv
  cases hv with
  | chain chains first operators operands =>
    cases hlevel
    rename_i u links
    have h := @chain op.level hc u (links ++ [(op, w)]) first
      (List.forall_mem_append.mpr ⟨operators, List.forall_mem_singleton.mpr rfl⟩)
      (List.forall_mem_append.mpr ⟨operands, List.forall_mem_singleton.mpr hw⟩)
    rwa [List.flatMap_append, List.flatMap_singleton, ← List.append_assoc] at h
  | operand only => rw [Option.some.inj hlevel] at hc; cases hc
  | comparison h left right => rw [Option.some.inj hlevel] at hc; cases hc
  | _ => cases hlevel

end Phrase

/-! ## Every phrase has a tree -/

/-- Tokens have a canonical tree that fits a level. -/
def HasTree (level : Option Level) (tokens : List Token) : Prop :=
  ∃ e : Expr, e.SpelledBy tokens ∧ e.Canonical ∧ e.binding ≤ height level

/-- One link more is still a tree of the level. -/
theorem HasTree.link {op : Operator} {us vs : List Token} {t : Token} {l : Expr}
    (hl : l.SpelledBy us) (hcan : l.Canonical) (hfit : l.FitsLeftOf op.level)
    (ht : t.kind = .operator op) (hr : HasTree op.level.tighter vs) :
    ∃ e : Expr, e.SpelledBy (us ++ t :: vs) ∧ e.Canonical ∧ e.binding = op.level.rank := by
  obtain ⟨r, hspell, hcan', hbind⟩ := hr
  exact ⟨.join op l r, ⟨us, t, vs, rfl, ht, hl, hspell, rfl⟩,
    ⟨hcan, hcan', hfit, Nat.lt_of_le_of_lt hbind (height_tighter op.level)⟩, rfl⟩

/-- A chain whose operands have trees has one: the links are joined from the
left. -/
theorem HasTree.chain {level : Level} (hc : level.chains = true)
    {links : List (Operator × List TokenKind)} (operators : ∀ l ∈ links, l.1.level = level)
    (operands : ∀ l ∈ links, ∀ ts : List Token, ts.map Token.kind = l.2 →
      HasTree level.tighter ts) {us vs : List Token} (hus : HasTree (some level) us)
    (hvs : vs.map Token.kind = links.flatMap fun l => .operator l.1 :: l.2) :
    HasTree (some level) (us ++ vs) := by
  induction links generalizing us vs with
  | nil =>
    rw [List.map_eq_nil_iff.mp hvs, List.append_nil]
    exact hus
  | cons link links ih =>
    obtain ⟨op, w⟩ := link
    obtain ⟨hop, hops⟩ := List.forall_mem_cons.mp operators
    obtain ⟨hfirst, hothers⟩ := List.forall_mem_cons.mp operands
    obtain ⟨t, rest, rfl, ht, hrest⟩ := List.map_eq_cons_iff.mp hvs
    obtain ⟨ws, xs, rfl, hws, hxs⟩ := List.map_eq_append_iff.mp hrest
    obtain ⟨l, hl, hcan, hbind⟩ := hus
    subst hop
    obtain ⟨e, hspell, hcan', hbind'⟩ :=
      HasTree.link hl hcan (.of_chains hc hbind) ht (hfirst ws hws)
    have h := ih hops hothers ⟨e, hspell, hcan', Nat.le_of_eq hbind'⟩ hxs
    rwa [List.append_assoc, List.cons_append] at h

/-- Elements that have trees are the elements of a list. -/
theorem exists_elements {others : List (List TokenKind)}
    (h : ∀ v ∈ others, ∀ ts : List Token, ts.map Token.kind = v → HasTree (some .or) ts)
    {us vs : List Token} (hus : HasTree (some .or) us)
    (hvs : vs.map Token.kind = others.flatMap (.comma :: ·)) :
    ∃ es, Expr.ElementsSpelledBy es (us ++ vs) ∧ Expr.AllCanonical es ∧ es ≠ [] := by
  induction others generalizing us vs with
  | nil =>
    obtain ⟨e, hspell, hcan, -⟩ := hus
    rw [List.map_eq_nil_iff.mp hvs, List.append_nil]
    exact ⟨[e], hspell, ⟨hcan, trivial⟩, List.cons_ne_nil _ _⟩
  | cons v others ih =>
    obtain ⟨hfirst, hothers⟩ := List.forall_mem_cons.mp h
    obtain ⟨c, rest, rfl, hc, hrest⟩ := List.map_eq_cons_iff.mp hvs
    obtain ⟨ws, xs, rfl, hws, hxs⟩ := List.map_eq_append_iff.mp hrest
    obtain ⟨e, hspell, hcan, -⟩ := hus
    obtain ⟨es, hspells, hcans, hne⟩ := ih hothers (hfirst ws hws) hxs
    refine ⟨e :: es, ?_, ⟨hcan, hcans⟩, List.cons_ne_nil _ _⟩
    exact (Expr.elementsSpelledBy_cons e hne _).mpr ⟨us, c, ws ++ xs, rfl, hc, hspell, hspells⟩

/-- **Every phrase has a canonical tree.** -/
theorem Phrase.hasTree {level : Option Level} {w : List TokenKind} (h : Phrase level w)
    (tokens : List Token) (hw : tokens.map Token.kind = w) : HasTree level tokens := by
  -- every rule of the grammar cuts the tokens where it cuts their kinds
  induction h generalizing tokens with
  | literal hl =>
    obtain ⟨t, rfl, rfl⟩ := List.map_eq_singleton_iff.mp hw
    exact ⟨.literal t.value t.span, ⟨t, rfl, hl, rfl, rfl⟩, trivial, Nat.le_refl _⟩
  | name =>
    obtain ⟨t, rfl, ht⟩ := List.map_eq_singleton_iff.mp hw
    exact ⟨.identifier (fieldName t) t.span, ⟨t, rfl, ht, rfl, rfl⟩, trivial, Nat.le_refl _⟩
  | group body ih =>
    obtain ⟨o, rest, rfl, ho, hrest⟩ := List.map_eq_cons_iff.mp hw
    obtain ⟨us, cs, rfl, hus, hcs⟩ := List.map_eq_append_iff.mp hrest
    obtain ⟨c, rfl, hc⟩ := List.map_eq_singleton_iff.mp hcs
    obtain ⟨b, hspell, hcan, -⟩ := ih us hus
    exact ⟨.group b (o.span.through c.span), ⟨o, us, c, rfl, ho, hc, hspell, rfl⟩, hcan,
      Nat.le_refl _⟩
  | emptyList =>
    obtain ⟨o, rest, rfl, ho, hrest⟩ := List.map_eq_cons_iff.mp hw
    obtain ⟨c, rfl, hc⟩ := List.map_eq_singleton_iff.mp hrest
    exact ⟨.list [] (o.span.through c.span), ⟨o, [], c, rfl, ho, hc, rfl, rfl⟩, trivial,
      Nat.le_refl _⟩
  | list first rest ihfirst ihrest =>
    obtain ⟨o, all, rfl, ho, hall⟩ := List.map_eq_cons_iff.mp hw
    obtain ⟨inner, cs, rfl, hinner, hcs⟩ := List.map_eq_append_iff.mp hall
    obtain ⟨us, vs, rfl, hus, hvs⟩ := List.map_eq_append_iff.mp hinner
    obtain ⟨c, rfl, hc⟩ := List.map_eq_singleton_iff.mp hcs
    obtain ⟨es, hspell, hcan, -⟩ := exists_elements ihrest (ihfirst us hus) hvs
    exact ⟨.list es (o.span.through c.span), ⟨o, us ++ vs, c, rfl, ho, hc, hspell, rfl⟩, hcan,
      Nat.le_refl _⟩
  | chain chains first operators operands ihfirst ihlinks =>
    obtain ⟨us, vs, rfl, hus, hvs⟩ := List.map_eq_append_iff.mp hw
    obtain ⟨e, hspell, hcan, hbind⟩ := ihfirst us hus
    exact HasTree.chain chains operators ihlinks
      ⟨e, hspell, hcan, Nat.le_trans hbind (Nat.le_of_lt (height_tighter _))⟩ hvs
  | operand only ih =>
    obtain ⟨e, hspell, hcan, hbind⟩ := ih tokens hw
    exact ⟨e, hspell, hcan, Nat.le_succ_of_le hbind⟩
  | @comparison op hop v w left right ihl ihr =>
    obtain ⟨us, rest, rfl, hus, hrest⟩ := List.map_eq_append_iff.mp hw
    obtain ⟨t, vs, rfl, ht, hvs⟩ := List.map_eq_cons_iff.mp hrest
    obtain ⟨l, hspell, hcan, hbind⟩ := ihl us hus
    have hlow : l.binding < op.level.rank := hop ▸ Nat.lt_succ_of_le hbind
    have hright : HasTree op.level.tighter vs := by
      rw [hop]
      exact ihr vs hvs
    obtain ⟨e, hspell', hcan', hbind'⟩ := HasTree.link hspell hcan (.of_lt hlow) ht hright
    exact ⟨e, hspell', hcan', Nat.le_of_eq (hop ▸ hbind')⟩

/-! ## Every canonical tree groups a phrase -/

/-- The tokens of the elements of a list are one phrase and the others, each
after a comma. -/
theorem exists_phrases {es : List Expr} (hne : es ≠ [])
    (h : ∀ e ∈ es, ∀ ts, e.SpelledBy ts → Phrase (some .or) (ts.map Token.kind))
    {tokens : List Token} (hspell : Expr.ElementsSpelledBy es tokens) :
    ∃ (w : List TokenKind) (others : List (List TokenKind)),
      tokens.map Token.kind = w ++ others.flatMap (.comma :: ·) ∧
        Phrase (some .or) w ∧ ∀ v ∈ others, Phrase (some .or) v := by
  induction es generalizing tokens with
  | nil => exact absurd rfl hne
  | cons e es ih =>
    obtain ⟨hfirst, hothers⟩ := List.forall_mem_cons.mp h
    by_cases hes : es = []
    · subst hes
      exact ⟨tokens.map Token.kind, [], by simp, hfirst tokens hspell, List.forall_mem_nil _⟩
    · obtain ⟨us, c, vs, rfl, hc, hus, hvs⟩ := (Expr.elementsSpelledBy_cons e hes _).mp hspell
      obtain ⟨w, others, hkinds, hw, hrest⟩ := ih hes hothers hvs
      refine ⟨us.map Token.kind, w :: others, ?_, hfirst us hus,
        List.forall_mem_cons.mpr ⟨hw, hrest⟩⟩
      rw [List.map_append, List.map_cons, hkinds, hc, List.flatMap_cons]
      rfl

/-- **The tokens of a canonical tree are a phrase** of every level that the
tree fits. -/
theorem phrase_of_spelledBy {e : Expr} {tokens : List Token} (hspell : e.SpelledBy tokens)
    (hcan : e.Canonical) (level : Option Level) (hbind : e.binding ≤ height level) :
    Phrase level (tokens.map Token.kind) := by
  induction e generalizing tokens level with
  | literal v s =>
    obtain ⟨t, rfl, hl, -⟩ := hspell
    exact (Phrase.literal hl).loosen_to level hbind
  | identifier n s =>
    obtain ⟨t, rfl, ht, -⟩ := hspell
    rw [List.map_singleton, ht]
    exact Phrase.name.loosen_to level hbind
  | binary op l r s ihl ihr =>
    obtain ⟨us, t, vs, rfl, ht, hl, hr, -⟩ := hspell
    obtain ⟨hcanl, hcanr, hfit, hlow⟩ := hcan
    have hright := ihr hr hcanr op.level.tighter (le_height_tighter hlow)
    rw [List.map_append, List.map_cons, ht]
    refine Phrase.loosen_to (?_ : Phrase (some op.level) _) level hbind
    -- the comparison is the one level whose rule takes no chain
    by_cases hc : op.level.chains = true
    · exact .link hc (ihl hl hcanl (some op.level) hfit.binding_le) hright
    · have hleft : l.binding < op.level.rank := by
        unfold Expr.FitsLeftOf at hfit
        rwa [if_neg hc] at hfit
      have hleft := ihl hl hcanl op.level.tighter (le_height_tighter hleft)
      cases hop : op.level with
      | comparison =>
        rw [hop] at hleft hright
        exact .comparison hop hleft hright
      | _ => rw [hop] at hc; exact absurd rfl hc
  | group b s ih =>
    obtain ⟨o, us, c, rfl, ho, hc, hb, -⟩ := hspell
    rw [List.map_cons, List.map_append, List.map_singleton, ho, hc]
    exact (Phrase.group (ih hb hcan (some .or) b.binding_le)).loosen_to level hbind
  | list es s ih =>
    obtain ⟨o, us, c, rfl, ho, hc, hes, -⟩ := hspell
    have hcan := (Expr.allCanonical_iff es).mp hcan
    rw [List.map_cons, List.map_append, List.map_singleton, ho, hc]
    refine Phrase.loosen_to (?_ : Phrase none _) level hbind
    by_cases hne : es = []
    · subst hne
      rw [hes]
      exact .emptyList
    · have hphrase : ∀ e ∈ es, ∀ ts, e.SpelledBy ts → Phrase (some .or) (ts.map Token.kind) :=
        fun e he ts hts => ih e he hts (hcan e he) (some .or) e.binding_le
      obtain ⟨w, others, hkinds, hw, hothers⟩ := exists_phrases hne hphrase hes
      rw [hkinds]
      exact .list hw hothers

/-! ## Enough room -/

theorem links_lt_length {e : Expr} {tokens : List Token} (h : e.SpelledBy tokens) (level : Level) :
    e.links level < tokens.length := by
  induction e generalizing tokens with
  | binary op l r s ihl ihr =>
    obtain ⟨us, t, vs, rfl, -, hl, -, -⟩ := h
    have hlt := ihl hl
    rw [List.length_append, List.length_cons]
    show (if op.level = level then l.links level + 1 else 0) < _
    split <;> omega
  | _ =>
    obtain ⟨t, us, rfl, -⟩ := exists_cons_of_spelledBy h
    exact Nat.succ_pos _

/-- **A tree needs less room than it has tokens.** -/
theorem need_lt_length {e : Expr} {tokens : List Token} (h : e.SpelledBy tokens) :
    e.need < tokens.length := by
  induction e generalizing tokens with
  | binary op l r s ihl ihr =>
    obtain ⟨us, t, vs, rfl, -, hl, hr, -⟩ := h
    have hneedl := ihl hl
    have hneedr := ihr hr
    have hlinks := links_lt_length hl op.level
    rw [Expr.need, List.length_append, List.length_cons]
    omega
  | group b s ih =>
    obtain ⟨o, us, c, rfl, -, -, hb, -⟩ := h
    have hneed := ih hb
    rw [Expr.need, List.length_cons, List.length_append, List.length_singleton]
    omega
  | list es s ih =>
    obtain ⟨o, us, c, rfl, -, -, hes, -⟩ := h
    have hneed : Expr.maxNeed es ≤ us.length := by
      -- along the elements: what one needs is below its tokens, commas only add to these
      clear s o c
      induction es generalizing us with
      | nil => exact Nat.zero_le _
      | cons e es ihes =>
        obtain ⟨hfirst, hothers⟩ := List.forall_mem_cons.mp ih
        by_cases hne : es = []
        · subst hne
          exact Nat.max_le.mpr ⟨Nat.le_of_lt (hfirst hes), Nat.zero_le _⟩
        · obtain ⟨vs, k, ws, rfl, -, hvs, hws⟩ := (Expr.elementsSpelledBy_cons e hne us).mp hes
          have hfirst := hfirst hvs
          have hothers := ihes hothers ws hws
          rw [Expr.maxNeed, List.length_append, List.length_cons]
          omega
    rw [Expr.need, List.length_cons, List.length_append, List.length_singleton]
    omega
  | _ =>
    obtain ⟨t, us, rfl, -⟩ := exists_cons_of_spelledBy h
    exact Nat.succ_pos _

end CardQuery.Grammar

namespace CardQuery.Parser

open Grammar

/-- Of tokens with one end token, the last, all others are read. -/
theorem rest_ofTokens (limit : Nat) {tokens : List Token} {stop : Token}
    (hinner : ∀ t ∈ tokens, t.kind ≠ .eof) (hstop : stop.kind = .eof) :
    (ofTokens limit (tokens ++ [stop])).rest = tokens := by
  have hlast : isInner stop = false := by
    unfold isInner
    rw [hstop]
    rfl
  have htokens : ∀ t ∈ tokens, isInner t = true := fun t ht => bne_iff_ne.mpr (hinner t ht)
  show (tokens ++ [stop]).takeWhile isInner = tokens
  rw [List.takeWhile_append_of_pos htokens, List.takeWhile_cons_of_neg (by rw [hlast]; decide),
    List.append_nil]

/-- Trees with the same contents that are canonical differ in spans only:
laid over tokens with these contents, both are what is read. -/
theorem bare_eq_of_contents_eq {a b : Expr} {tokens : List Token} (ha : a.SpelledBy tokens)
    (hcana : a.Canonical) (hb : b.contents = tokens.map Token.content) (hcanb : b.Canonical) :
    b.bare = a.bare := by
  -- a tree carries its spans, so the other one is first laid over the same tokens
  obtain ⟨c, hbare, hc⟩ := b.exists_spelledBy hb
  let p : Parser := ⟨tokens.length, tokens.length, tokens, .eofAt .start⟩
  have hreada : p.parse.1 = .ok a :=
    (parse_eq_ok_iff p a).mpr ⟨ha, hcana, Nat.le_of_lt (need_lt_length ha)⟩
  have hreadc : p.parse.1 = .ok c :=
    (parse_eq_ok_iff p c).mpr ⟨hc, .of_bare_eq hbare hcanb, Nat.le_of_lt (need_lt_length hc)⟩
  rw [← hbare, Except.ok.inj (hreada.symm.trans hreadc)]

/-- **The parser recognizes the grammar, and gives the one tree of the
tokens.** Of tokens that end with their only end token and are no more than
the limit, those before it are read exactly if they are a phrase of the
loosest level. What is read reads back as these tokens and is canonical, and
any tree of which this holds differs from it in spans only. -/
theorem parse_iff_phrase (limit : Nat) (tokens : List Token) (stop : Token)
    (hinner : ∀ t ∈ tokens, t.kind ≠ .eof) (hstop : stop.kind = .eof)
    (hfits : ∀ t ∈ tokens, t.Fits) (hlimit : tokens.length ≤ limit) :
    ((∃ e, (ofTokens limit (tokens ++ [stop])).parse.1 = .ok e) ↔
        Phrase (some .or) (tokens.map Token.kind)) ∧
      ∀ e, (ofTokens limit (tokens ++ [stop])).parse.1 = .ok e →
        e.contents = tokens.map Token.content ∧ e.Canonical ∧
          ∀ e' : Expr, e'.contents = tokens.map Token.content → e'.Canonical →
            e'.bare = e.bare := by
  have hread : ∀ e, (ofTokens limit (tokens ++ [stop])).parse.1 = .ok e ↔
      e.SpelledBy tokens ∧ e.Canonical ∧ e.need ≤ limit := by
    intro e
    rw [parse_eq_ok_iff, rest_ofTokens limit hinner hstop]
    rfl
  refine ⟨⟨?_, ?_⟩, ?_⟩
  · rintro ⟨e, he⟩
    obtain ⟨hspell, hcan, -⟩ := (hread e).mp he
    exact phrase_of_spelledBy hspell hcan (some .or) e.binding_le
  · intro hphrase
    obtain ⟨e, hspell, hcan, -⟩ := hphrase.hasTree tokens rfl
    exact ⟨e, (hread e).mpr
      ⟨hspell, hcan, Nat.le_trans (Nat.le_of_lt (need_lt_length hspell)) hlimit⟩⟩
  · intro e he
    obtain ⟨hspell, hcan, -⟩ := (hread e).mp he
    exact ⟨hspell.contents_eq hfits, hcan,
      fun e' hcontents hcan' => bare_eq_of_contents_eq hspell hcan hcontents hcan'⟩

/-- Differences are taken from the left: `a - b - c` is read as the difference
of `a - b` and `c`. -/
theorem parse_iff_phrase_differences :
    let name (n : String) : Token := ⟨.identifier, n, .string n, .point .start⟩
    let minus : Token := ⟨.operator (.arithmetic .subtract), "-", .null, .point .start⟩
    let field (n : String) : Expr := .identifier n (.point .start)
    let less (a b : Expr) : Expr := .binary (.arithmetic .subtract) a b (.point .start)
    ∃ e, (ofTokens 5 ([name "a", minus, name "b", minus, name "c"] ++ [.eofAt .start])).parse.1
        = .ok e ∧
      e.bare = less (less (field "a") (field "b")) (field "c") := by
  intro name minus field less
  have hfits : ∀ t ∈ [name "a", minus, name "b", minus, name "c"], t.Fits := by
    simp [Token.Fits, name, minus, TokenKind.isLiteral]
  obtain ⟨hiff, htree⟩ := parse_iff_phrase 5 [name "a", minus, name "b", minus, name "c"]
    (.eofAt .start) (by decide) rfl hfits (by decide)
  have hspell : (less (less (field "a") (field "b")) (field "c")).SpelledBy
      [name "a", minus, name "b", minus, name "c"] :=
    ⟨[name "a", minus, name "b"], minus, [name "c"], rfl, rfl,
      ⟨[name "a"], minus, [name "b"], rfl, rfl, ⟨_, rfl, rfl, rfl, rfl⟩, ⟨_, rfl, rfl, rfl, rfl⟩,
        rfl⟩, ⟨_, rfl, rfl, rfl, rfl⟩, rfl⟩
  have hcan : (less (less (field "a") (field "b")) (field "c")).Canonical :=
    ⟨⟨trivial, trivial, Nat.zero_le _, by decide⟩, trivial, Nat.le_refl _, by decide⟩
  obtain ⟨e, he⟩ := hiff.mpr (phrase_of_spelledBy hspell hcan (some .or) (Expr.binding_le _))
  obtain ⟨-, -, hunique⟩ := htree e he
  exact ⟨e, he, (hunique _ (hspell.contents_eq hfits) hcan).symm⟩

end CardQuery.Parser
