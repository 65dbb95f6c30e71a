import CardQuery.Query.Expr
import CardQuery.Query.Expr.Parser

/-!
# Trees and the tokens that spell them

A tree of a query is a way to group tokens. `Expr.SpelledBy` says which
tokens a tree groups, spans and all, and `Expr.contents` lists what it reads
back as once the places are forgotten: kinds and values, from left to right.

Not every tree is a way in which the grammar groups its tokens. A tree is
`Expr.Canonical` if every operand binds as tightly as its place demands, and
it takes `Expr.need` places of room to read it: one for every bracket, and
for the operand behind the `i`-th link of a chain `i`.

Trees that differ in spans only have the same `Expr.bare` tree.
-/

namespace CardQuery

/-- **Induction over trees.** For a list the statement may be used at every
element. -/
@[elab_as_elim, induction_eliminator]
theorem Expr.induction {motive : Expr → Prop}
    (literal : ∀ v s, motive (.literal v s))
    (identifier : ∀ n s, motive (.identifier n s))
    (binary : ∀ op l r s, motive l → motive r → motive (.binary op l r s))
    (group : ∀ b s, motive b → motive (.group b s))
    (list : ∀ es s, (∀ e ∈ es, motive e) → motive (.list es s)) (e : Expr) : motive e :=
  match e with
  | .literal v s => literal v s
  | .identifier n s => identifier n s
  | .binary op l r s =>
    binary op l r s (induction literal identifier binary group list l)
      (induction literal identifier binary group list r)
  | .group b s => group b s (induction literal identifier binary group list b)
  | .list es s => list es s fun e _ => induction literal identifier binary group list e

/-! ## Tokens without their places -/

/-- What a token is but for its place and the way it is written. -/
abbrev Content := TokenKind × Literal

/-- The kind of the tokens that stand for a literal. -/
def Literal.kind : Literal → TokenKind
  | .null => .nullWord
  | .boolean true => .trueWord
  | .boolean false => .falseWord
  | .number _ => .number
  | .string _ => .string
  | .regex _ => .regex

theorem Literal.isLiteral_kind (v : Literal) : v.kind.isLiteral = true := by
  cases v with
  | boolean b => cases b <;> rfl
  | _ => rfl

namespace Token

/-- The kind and the value of a token. -/
def content (t : Token) : Content := (t.kind, t.value)

/-- **The value of a token fits its kind**: a literal carries itself, a name
its text, and everything else nothing. -/
def Fits (t : Token) : Prop :=
  if t.kind.isLiteral then t.value.kind = t.kind
  else if t.kind = .identifier then ∃ name, t.value = .string name
  else t.value = .null

/-- The content of a literal is told by its value. -/
theorem Fits.content_of_isLiteral {t : Token} (h : t.Fits) (hk : t.kind.isLiteral = true) :
    t.content = (t.value.kind, t.value) := by
  rw [Fits, if_pos hk] at h
  rw [content, h]

/-- The content of a name is told by the name. -/
theorem Fits.content_of_identifier {t : Token} (h : t.Fits) (hk : t.kind = .identifier) :
    t.content = (.identifier, .string (Grammar.fieldName t)) := by
  rw [Fits, if_neg (by rw [hk]; decide), if_pos hk] at h
  obtain ⟨name, hname⟩ := h
  rw [content, hk, Grammar.fieldName, hname]

/-- Any other token has no content but its kind. -/
theorem Fits.content_of_mark {t : Token} (h : t.Fits) (hl : t.kind.isLiteral = false)
    (hi : t.kind ≠ .identifier) : t.content = (t.kind, .null) := by
  rw [Fits, if_neg (by rw [hl]; decide), if_neg hi] at h
  rw [content, h]

end Token

namespace Expr

/-! ## What a tree reads back as -/

mutual

/-- **The tokens a tree is made of**, from left to right, without their
places. -/
def contents : Expr → List Content
  | literal v _ => [(v.kind, v)]
  | identifier name _ => [(.identifier, .string name)]
  | binary op l r _ => l.contents ++ (.operator op, .null) :: r.contents
  | group b _ => (.leftParen, .null) :: (b.contents ++ [(.rightParen, .null)])
  | list es _ => (.leftBracket, .null) :: (elementContents es ++ [(.rightBracket, .null)])

/-- The tokens of the elements of a list, and the commas between them. -/
def elementContents : List Expr → List Content
  | [] => []
  | [e] => e.contents
  | e :: es => e.contents ++ (.comma, .null) :: elementContents es

end

mutual

/-- **The tokens that a tree groups.** A node stands where its first token
starts and its last one ends. -/
def SpelledBy : Expr → List Token → Prop
  | literal v s, ts => ∃ t, ts = [t] ∧ t.kind.isLiteral = true ∧ v = t.value ∧ s = t.span
  | identifier name s, ts =>
    ∃ t, ts = [t] ∧ t.kind = .identifier ∧ name = Grammar.fieldName t ∧ s = t.span
  | binary op l r s, ts =>
    ∃ us t vs, ts = us ++ t :: vs ∧ t.kind = .operator op ∧ l.SpelledBy us ∧ r.SpelledBy vs ∧
      s = l.span.through r.span
  | group b s, ts =>
    ∃ o us c, ts = o :: (us ++ [c]) ∧ o.kind = .leftParen ∧ c.kind = .rightParen ∧
      b.SpelledBy us ∧ s = o.span.through c.span
  | list es s, ts =>
    ∃ o us c, ts = o :: (us ++ [c]) ∧ o.kind = .leftBracket ∧ c.kind = .rightBracket ∧
      ElementsSpelledBy es us ∧ s = o.span.through c.span

/-- The tokens that the elements of a list group, with the commas between
them. -/
def ElementsSpelledBy : List Expr → List Token → Prop
  | [], ts => ts = []
  | [e], ts => e.SpelledBy ts
  | e :: es, ts =>
    ∃ us c vs, ts = us ++ c :: vs ∧ c.kind = .comma ∧ e.SpelledBy us ∧ ElementsSpelledBy es vs

end

theorem elementContents_cons (e : Expr) {es : List Expr} (h : es ≠ []) :
    elementContents (e :: es) = e.contents ++ (.comma, .null) :: elementContents es := by
  cases es with
  | nil => exact absurd rfl h
  | cons f fs => rfl

theorem elementsSpelledBy_cons (e : Expr) {es : List Expr} (h : es ≠ []) (ts : List Token) :
    ElementsSpelledBy (e :: es) ts ↔
      ∃ us c vs, ts = us ++ c :: vs ∧ c.kind = .comma ∧ e.SpelledBy us ∧
        ElementsSpelledBy es vs := by
  cases es with
  | nil => exact absurd rfl h
  | cons f fs => rfl

mutual

/-- **The tree with its spans forgotten.** -/
def bare : Expr → Expr
  | literal v _ => literal v (.point .start)
  | identifier name _ => identifier name (.point .start)
  | binary op l r _ => binary op l.bare r.bare (.point .start)
  | group b _ => group b.bare (.point .start)
  | list es _ => list (bareElements es) (.point .start)

/-- Several trees with their spans forgotten. -/
def bareElements : List Expr → List Expr
  | [] => []
  | e :: es => e.bare :: bareElements es

end

theorem bareElements_eq_map (es : List Expr) : bareElements es = es.map bare := by
  induction es with
  | nil => rfl
  | cons e es ih => rw [bareElements, ih, List.map_cons]

/-! ## Shape and size -/

/-- How loosely the top of a tree binds: the rank of its operator, and zero
where no operator is at the top. -/
def binding : Expr → Nat
  | binary op _ _ _ => op.level.rank
  | _ => 0

/-- Whether a tree binds tightly enough to stand to the left of an operator
of a level: as tightly as the operator where operators chain, and more
tightly where they do not. -/
def FitsLeftOf (level : Level) (e : Expr) : Prop :=
  if level.chains then e.binding ≤ level.rank else e.binding < level.rank

theorem binding_le (e : Expr) : e.binding ≤ Level.or.rank := by
  cases e with
  | binary op l r s => exact Grammar.height_le (some op.level)
  | _ => exact Nat.zero_le _

mutual

/-- **The shape the grammar gives a tree.** The right operand of an operator
binds more tightly than the operator. So does the left one of a comparison,
while any other operator may have an operator of its own level on the
left. -/
def Canonical : Expr → Prop
  | literal _ _ | identifier _ _ => True
  | binary op l r _ =>
    l.Canonical ∧ r.Canonical ∧ l.FitsLeftOf op.level ∧ r.binding < op.level.rank
  | group b _ => b.Canonical
  | list es _ => AllCanonical es

/-- Several trees of the shape the grammar gives. -/
def AllCanonical : List Expr → Prop
  | [] => True
  | e :: es => e.Canonical ∧ AllCanonical es

end

theorem allCanonical_iff (es : List Expr) : AllCanonical es ↔ ∀ e ∈ es, e.Canonical := by
  induction es with
  | nil => simp [AllCanonical]
  | cons e es ih => rw [AllCanonical, ih, List.forall_mem_cons]

/-- The number of links of the chain of a level at the top of a tree. -/
def links (level : Level) : Expr → Nat
  | binary op l _ _ => if op.level = level then l.links level + 1 else 0
  | _ => 0

mutual

/-- **How much room a tree takes.** A bracket takes one place from what is in
it, and every link of a chain one from what follows in the chain. -/
def need : Expr → Nat
  | literal _ _ | identifier _ _ => 0
  | binary op l r _ => max l.need (l.links op.level + 1 + r.need)
  | group b _ => b.need + 1
  | list es _ => maxNeed es + 1

/-- The room that the neediest of several trees takes. -/
def maxNeed : List Expr → Nat
  | [] => 0
  | e :: es => max e.need (maxNeed es)

end

theorem maxNeed_le_iff (es : List Expr) (n : Nat) :
    maxNeed es ≤ n ↔ ∀ e ∈ es, e.need ≤ n := by
  induction es with
  | nil => simp [maxNeed]
  | cons e es ih => rw [maxNeed, Nat.max_le, ih, List.forall_mem_cons]

theorem FitsLeftOf.of_lt {e : Expr} {level : Level} (h : e.binding < level.rank) :
    e.FitsLeftOf level := by
  unfold FitsLeftOf
  split
  · exact Nat.le_of_lt h
  · exact h

theorem FitsLeftOf.of_chains {e : Expr} {level : Level} (hc : level.chains = true)
    (h : e.binding ≤ level.rank) : e.FitsLeftOf level := by
  unfold FitsLeftOf
  rw [if_pos hc]
  exact h

theorem FitsLeftOf.binding_le {e : Expr} {level : Level} (h : e.FitsLeftOf level) :
    e.binding ≤ level.rank := by
  unfold FitsLeftOf at h
  split at h
  · exact h
  · exact Nat.le_of_lt h

/-- A tree that binds more tightly than a level has no link of the level at
its top. -/
theorem links_eq_zero {e : Expr} {level : Level} (h : e.binding < level.rank) :
    e.links level = 0 := by
  cases e with
  | binary op l r s =>
    rw [links, if_neg]
    rintro rfl
    exact Nat.lt_irrefl _ h
  | _ => rfl

/-! ## Only spans apart

Nothing above depends on the spans in a tree, so it is the same for trees
with the same bare tree.
-/

theorem contents_bare (e : Expr) : e.bare.contents = e.contents := by
  induction e with
  | literal v s => rfl
  | identifier n s => rfl
  | binary op l r s ihl ihr => rw [bare, contents, contents, ihl, ihr]
  | group b s ih => rw [bare, contents, contents, ih]
  | list es s ih =>
    have helements : elementContents (bareElements es) = elementContents es := by
      induction es with
      | nil => rfl
      | cons e es ihes =>
        obtain ⟨hfirst, hothers⟩ := List.forall_mem_cons.mp ih
        cases es with
        | nil => exact hfirst
        | cons f fs =>
          show e.bare.contents ++ _ :: elementContents (bareElements (f :: fs)) = _
          rw [hfirst, ihes hothers]
          rfl
    rw [bare, contents, contents, helements]

theorem binding_bare (e : Expr) : e.bare.binding = e.binding := by
  cases e <;> rfl

theorem links_bare (level : Level) (e : Expr) : e.bare.links level = e.links level := by
  induction e with
  | binary op l r s ihl ihr => rw [bare, links, links, ihl]
  | _ => rfl

theorem need_bare (e : Expr) : e.bare.need = e.need := by
  induction e with
  | literal v s => rfl
  | identifier n s => rfl
  | binary op l r s ihl ihr => rw [bare, need, need, ihl, ihr, links_bare]
  | group b s ih => rw [bare, need, need, ih]
  | list es s ih =>
    have helements : maxNeed (bareElements es) = maxNeed es := by
      induction es with
      | nil => rfl
      | cons e es ihes =>
        obtain ⟨hfirst, hothers⟩ := List.forall_mem_cons.mp ih
        rw [bareElements, maxNeed, maxNeed, hfirst, ihes hothers]
    rw [bare, need, need, helements]

theorem canonical_bare (e : Expr) : e.bare.Canonical ↔ e.Canonical := by
  induction e with
  | literal v s => rfl
  | identifier n s => rfl
  | binary op l r s ihl ihr =>
    rw [bare, Canonical, Canonical, ihl, ihr, FitsLeftOf, FitsLeftOf, binding_bare, binding_bare]
  | group b s ih => exact ih
  | list es s ih =>
    show AllCanonical (bareElements es) ↔ AllCanonical es
    induction es with
    | nil => rfl
    | cons e es ihes =>
      obtain ⟨hfirst, hothers⟩ := List.forall_mem_cons.mp ih
      rw [bareElements, AllCanonical, AllCanonical, hfirst, ihes hothers]

theorem Canonical.of_bare_eq {a b : Expr} (h : a.bare = b.bare) (hb : b.Canonical) :
    a.Canonical :=
  (canonical_bare a).mp (h ▸ (canonical_bare b).mpr hb)

theorem need_eq_of_bare_eq {a b : Expr} (h : a.bare = b.bare) : a.need = b.need := by
  rw [← need_bare a, h, need_bare]

/-! ## Trees and their tokens -/

/-- The elements of a list read back as their tokens if each of them
does. -/
theorem elementContents_of_spelledBy {es : List Expr}
    (h : ∀ e ∈ es, ∀ ts, e.SpelledBy ts → (∀ t ∈ ts, t.Fits) → e.contents = ts.map Token.content)
    {ts : List Token} (hspell : ElementsSpelledBy es ts) (hfits : ∀ t ∈ ts, t.Fits) :
    elementContents es = ts.map Token.content := by
  induction es generalizing ts with
  | nil => rw [hspell]; rfl
  | cons e es ih =>
    obtain ⟨hfirst, hothers⟩ := List.forall_mem_cons.mp h
    by_cases hne : es = []
    · subst hne
      exact hfirst ts hspell hfits
    · obtain ⟨us, c, vs, rfl, hc, hus, hvs⟩ := (elementsSpelledBy_cons e hne ts).mp hspell
      obtain ⟨huf, hcv⟩ := List.forall_mem_append.mp hfits
      obtain ⟨hcf, hvf⟩ := List.forall_mem_cons.mp hcv
      have hcomma := hcf.content_of_mark (by rw [hc]; rfl) (by rw [hc]; decide)
      rw [elementContents_cons e hne, hfirst us hus huf, ih hothers hvs hvf, List.map_append,
        List.map_cons, hcomma, hc]

/-- **A tree reads back as the tokens it groups.** -/
theorem SpelledBy.contents_eq {e : Expr} {ts : List Token} (h : e.SpelledBy ts)
    (hfits : ∀ t ∈ ts, t.Fits) : e.contents = ts.map Token.content := by
  induction e generalizing ts with
  | literal v s =>
    obtain ⟨t, rfl, hl, rfl, -⟩ := h
    rw [contents, List.map_singleton, (hfits t List.mem_cons_self).content_of_isLiteral hl]
  | identifier n s =>
    obtain ⟨t, rfl, hi, rfl, -⟩ := h
    rw [contents, List.map_singleton, (hfits t List.mem_cons_self).content_of_identifier hi]
  | binary op l r s ihl ihr =>
    obtain ⟨us, t, vs, rfl, ht, hl, hr, -⟩ := h
    obtain ⟨hus, hvs⟩ := List.forall_mem_append.mp hfits
    obtain ⟨htf, hvs⟩ := List.forall_mem_cons.mp hvs
    have hmark := htf.content_of_mark (by rw [ht]; rfl) (by rw [ht]; exact fun h => by cases h)
    rw [contents, ihl hl hus, ihr hr hvs, List.map_append, List.map_cons, hmark, ht]
  | group b s ih =>
    obtain ⟨o, us, c, rfl, ho, hc, hb, -⟩ := h
    obtain ⟨hof, hus⟩ := List.forall_mem_cons.mp hfits
    obtain ⟨hus, hcf⟩ := List.forall_mem_append.mp hus
    have hopen := hof.content_of_mark (by rw [ho]; rfl) (by rw [ho]; decide)
    have hclose := (hcf c List.mem_cons_self).content_of_mark (by rw [hc]; rfl)
      (by rw [hc]; decide)
    rw [contents, ih hb hus, List.map_cons, List.map_append, List.map_singleton, hopen, hclose,
      ho, hc]
  | list es s ih =>
    obtain ⟨o, us, c, rfl, ho, hc, hes, -⟩ := h
    obtain ⟨hof, hus⟩ := List.forall_mem_cons.mp hfits
    obtain ⟨hus, hcf⟩ := List.forall_mem_append.mp hus
    have hopen := hof.content_of_mark (by rw [ho]; rfl) (by rw [ho]; decide)
    have hclose := (hcf c List.mem_cons_self).content_of_mark (by rw [hc]; rfl)
      (by rw [hc]; decide)
    rw [contents, elementContents_of_spelledBy (fun e he _ => ih e he) hes hus, List.map_cons,
      List.map_append, List.map_singleton, hopen, hclose, ho, hc]

/-- A token with the content of a mark is of its kind. -/
theorem kind_eq_of_content {t : Token} {k : TokenKind} {v : Literal}
    (h : (k, v) = t.content) : t.kind = k :=
  (congrArg Prod.fst h).symm

/-- Brackets around some contents split the tokens that carry them. -/
theorem exists_of_bracket_contents {a b : Content} {cs : List Content} {ts : List Token}
    (h : a :: (cs ++ [b]) = ts.map Token.content) :
    ∃ o us c, ts = o :: (us ++ [c]) ∧ a = o.content ∧ b = c.content ∧
      cs = us.map Token.content := by
  obtain ⟨o, rest, rfl, ho, hrest⟩ := List.map_eq_cons_iff.mp h.symm
  obtain ⟨us, cs', rfl, hus, hcs⟩ := List.map_eq_append_iff.mp hrest
  obtain ⟨c, rfl, hc⟩ := List.map_eq_singleton_iff.mp hcs
  exact ⟨o, us, c, rfl, ho.symm, hc.symm, hus.symm⟩

/-- A mark between some contents splits the tokens that carry them. -/
theorem exists_of_marked_contents {m : Content} {cs ds : List Content} {ts : List Token}
    (h : cs ++ m :: ds = ts.map Token.content) :
    ∃ us t vs, ts = us ++ t :: vs ∧ m = t.content ∧ cs = us.map Token.content ∧
      ds = vs.map Token.content := by
  obtain ⟨us, rest, rfl, hus, hrest⟩ := List.map_eq_append_iff.mp h.symm
  obtain ⟨t, vs, rfl, ht, hvs⟩ := List.map_eq_cons_iff.mp hrest
  exact ⟨us, t, vs, rfl, ht.symm, hus.symm, hvs.symm⟩

/-- The elements of a list can be laid over tokens with their contents if
each of them can. -/
theorem exists_elementsSpelledBy {es : List Expr}
    (h : ∀ e ∈ es, ∀ ts, e.contents = ts.map Token.content →
      ∃ e' : Expr, e'.bare = e.bare ∧ e'.SpelledBy ts)
    {ts : List Token} (hes : elementContents es = ts.map Token.content) :
    ∃ es', bareElements es' = bareElements es ∧ ElementsSpelledBy es' ts := by
  induction es generalizing ts with
  | nil => exact ⟨[], rfl, List.map_eq_nil_iff.mp hes.symm⟩
  | cons e es ih =>
    obtain ⟨hfirst, hothers⟩ := List.forall_mem_cons.mp h
    by_cases hne : es = []
    · subst hne
      obtain ⟨e', hbare, hts⟩ := hfirst ts hes
      exact ⟨[e'], congrArg ([·]) hbare, hts⟩
    · rw [elementContents_cons e hne] at hes
      obtain ⟨us, k, vs, rfl, hk, hu, hv⟩ := exists_of_marked_contents hes
      obtain ⟨e', hbare, hus⟩ := hfirst us hu
      obtain ⟨fs, hbares, hvs⟩ := ih hothers hv
      have hfs : fs ≠ [] := by
        rintro rfl
        exact hne (List.map_eq_nil_iff.mp ((bareElements_eq_map es).symm.trans hbares.symm))
      refine ⟨e' :: fs, by rw [bareElements, bareElements, hbare, hbares], ?_⟩
      exact (elementsSpelledBy_cons e' hfs _).mpr
        ⟨us, k, vs, rfl, kind_eq_of_content hk, hus, hvs⟩

/-- **A tree can be laid over any tokens with its contents.** Only the spans
change. -/
theorem exists_spelledBy (e : Expr) {ts : List Token} (h : e.contents = ts.map Token.content) :
    ∃ e' : Expr, e'.bare = e.bare ∧ e'.SpelledBy ts := by
  -- every node cuts the tokens where its contents are cut, and takes their spans
  induction e generalizing ts with
  | literal v s =>
    obtain ⟨t, rfl, ht⟩ := List.map_eq_singleton_iff.mp h.symm
    have hl : t.kind.isLiteral = true :=
      (congrArg TokenKind.isLiteral (congrArg Prod.fst ht)).trans (Literal.isLiteral_kind v)
    exact ⟨.literal v t.span, rfl, t, rfl, hl, (congrArg Prod.snd ht).symm, rfl⟩
  | identifier n s =>
    obtain ⟨t, rfl, ht⟩ := List.map_eq_singleton_iff.mp h.symm
    have hvalue : t.value = .string n := congrArg Prod.snd ht
    have hname : Grammar.fieldName t = n := by
      rw [Grammar.fieldName, hvalue]
    exact ⟨.identifier n t.span, rfl, t, rfl, congrArg Prod.fst ht, hname.symm, rfl⟩
  | binary op l r s ihl ihr =>
    obtain ⟨us, t, vs, rfl, ht, hl, hr⟩ := exists_of_marked_contents h
    obtain ⟨l', hbl, hus⟩ := ihl hl
    obtain ⟨r', hbr, hvs⟩ := ihr hr
    refine ⟨.join op l' r', ?_, us, t, vs, rfl, kind_eq_of_content ht, hus, hvs, rfl⟩
    rw [join, bare, bare, hbl, hbr]
  | group b s ih =>
    obtain ⟨o, us, c, rfl, ho, hc, hb⟩ := exists_of_bracket_contents h
    obtain ⟨b', hbare, hus⟩ := ih hb
    refine ⟨.group b' (o.span.through c.span), ?_, o, us, c, rfl, kind_eq_of_content ho,
      kind_eq_of_content hc, hus, rfl⟩
    rw [bare, bare, hbare]
  | list es s ih =>
    obtain ⟨o, us, c, rfl, ho, hc, hes⟩ := exists_of_bracket_contents h
    obtain ⟨es', hbare, hus⟩ := exists_elementsSpelledBy (fun e he _ => ih e he) hes
    refine ⟨.list es' (o.span.through c.span), ?_, o, us, c, rfl, kind_eq_of_content ho,
      kind_eq_of_content hc, hus, rfl⟩
    rw [bare, bare, hbare]

end Expr

end CardQuery
