import CardQuery.Proofs.Query.Grammar
import CardQuery.Proofs.Query.Relexing
import CardQuery.Query.Source
import Mathlib.Tactic.Ring

/-!
# How high a tree grows under a limit

The limit for nesting is there to bound how deeply a tree is evaluated, that
is its `Expr.height`: the most operators, groups and lists on a way from the
root to a leaf. What the parser bounds is the room that a tree needs, and
the two are not the same. The links of a chain stand above its first
operand, but they are counted only after that operand has given back
all the room it took.

So a query is read under every limit that is at least the need of its tree,
and the limit bounds the height exactly where the height is no more than the
need (`height_le_limit_iff`). In general the height is bounded by
a quadratic function of the limit (`Expr.height_le`), and some query is as
high as that under every limit (`exists_height_eq`): every bracket may hold
one chain of each level inside the first operand of the next.
-/

namespace CardQuery

namespace Expr

mutual

/-- **The height of a tree**: the most operators, groups and lists on a way
from the root to a leaf. -/
def height : Expr → Nat
  | literal _ _ | identifier _ _ => 0
  | binary _ l r _ => max l.height r.height + 1
  | group b _ => b.height + 1
  | list es _ => maxHeight es + 1

/-- The height of the highest of several trees. -/
def maxHeight : List Expr → Nat
  | [] => 0
  | e :: es => max e.height (maxHeight es)

end

theorem maxHeight_le_iff (es : List Expr) (n : Nat) :
    maxHeight es ≤ n ↔ ∀ e ∈ es, e.height ≤ n := by
  induction es with
  | nil => simp [maxHeight]
  | cons e es ih => rw [maxHeight, Nat.max_le, ih, List.forall_mem_cons]

theorem height_bare (e : Expr) : e.bare.height = e.height := by
  induction e with
  | literal v s => rfl
  | identifier n s => rfl
  | binary op l r s ihl ihr => rw [bare, height, height, ihl, ihr]
  | group b s ih => rw [bare, height, height, ih]
  | list es s ih =>
    have helements : maxHeight (bareElements es) = maxHeight es := by
      induction es with
      | nil => rfl
      | cons e es ihes =>
        obtain ⟨hfirst, hothers⟩ := List.forall_mem_cons.mp ih
        rw [bareElements, maxHeight, maxHeight, hfirst, ihes hothers]
    rw [bare, height, height, helements]

theorem isCondition_bare (e : Expr) : e.bare.isCondition = e.isCondition := by
  cases e <;> rfl

/-! ## The bound -/

/-- How many links a level adds to the height at most, by its rank. -/
def linkBound (room rank : Nat) : Nat :=
  if rank = Level.comparison.rank then min 1 room else room

/-- How much the chains of the levels up to a rank add to the height: every
level may hold one in the first operand of the next. -/
def spine (room : Nat) : Nat → Nat
  | 0 => 0
  | rank + 1 => spine room rank + linkBound room (rank + 1)

/-- How high a bracket grows that finds some room. -/
def bracketBound : Nat → Nat
  | 0 => 0
  | room + 1 => bracketBound room + spine room Level.or.rank + 1

theorem spine_mono (room : Nat) {m n : Nat} (h : m ≤ n) : spine room m ≤ spine room n := by
  induction h with
  | refl => exact Nat.le_refl _
  | step _ ih => exact Nat.le_trans ih (Nat.le_add_right _ _)

theorem spine_rank (room : Nat) (level : Level) :
    spine room (level.rank - 1) + linkBound room level.rank = spine room level.rank := by
  cases level <;> rfl

theorem spine_succ (room : Nat) : spine (room + 1) Level.or.rank = 4 * room + 5 := by
  show 0 + (room + 1) + (room + 1) + min 1 (room + 1) + (room + 1) + (room + 1) = 4 * room + 5
  omega

/-- A quadratic bound in closed form. -/
theorem bracketBound_add_spine (room : Nat) :
    bracketBound room + spine room Level.or.rank = 2 * room ^ 2 + 4 * room := by
  induction room with
  | zero => rfl
  | succ room ih =>
    rw [bracketBound, spine_succ, ih]
    ring

theorem links_le_need (level : Level) (e : Expr) : e.links level ≤ e.need := by
  induction e with
  | binary op l r s ihl ihr =>
    rw [links, need]
    split
    · next h =>
      subst h
      omega
    · exact Nat.zero_le _
  | _ => exact Nat.zero_le _

/-- The links of a canonical tree are no more than its room and its level
allow. -/
theorem links_le_linkBound {e : Expr} (hcan : e.Canonical) {room : Nat} (hneed : e.need ≤ room)
    (level : Level) (hbind : e.binding ≤ level.rank) :
    e.links level ≤ linkBound room level.rank := by
  have hroom := Nat.le_trans (links_le_need level e) hneed
  unfold linkBound
  split
  · next hrank =>
    refine Nat.le_min.mpr ⟨?_, hroom⟩
    match e, hcan with
    | .binary op l r s, ⟨_, _, hfit, _⟩ =>
      rw [links]
      split
      · next hop =>
        -- the left operand of a comparison is none itself
        have hlow : l.binding < level.rank := by
          have hcmp : op.level = .comparison := Grammar.rank_injective (hop ▸ hrank)
          rw [FitsLeftOf, hcmp] at hfit
          rw [hrank]
          exact hfit
        rw [links_eq_zero hlow]
      · exact Nat.zero_le _
    | .literal v s, _ | .identifier n s, _ | .group b s, _ | .list es s, _ => exact Nat.zero_le _
  · exact hroom

theorem height_le_bracket {e : Expr} (hcan : e.Canonical) {room : Nat} (hneed : e.need ≤ room)
    (h : e.height ≤ bracketBound room + spine room (Level.or.rank - 1) + e.links .or) :
    e.height ≤ bracketBound room + spine room Level.or.rank := by
  have hlinks := links_le_linkBound hcan hneed .or e.binding_le
  have hrank := spine_rank room .or
  omega

/-- **A canonical tree is no higher than its room allows**: the links at its
top stand above what the tighter levels and a bracket may hold. -/
theorem height_le_of_need (e : Expr) (hcan : e.Canonical) (room : Nat) (hneed : e.need ≤ room)
    (level : Level) (hbind : e.binding ≤ level.rank) :
    e.height ≤ bracketBound room + spine room (level.rank - 1) + e.links level := by
  -- the links of the level stay apart from the bound of the tighter levels: the left
  -- operand of a chain may use as many again, less the one at the top
  induction e generalizing room level with
  | literal v s => exact Nat.zero_le _
  | identifier n s => exact Nat.zero_le _
  | binary op l r s ihl ihr =>
    obtain ⟨hcanl, hcanr, hfit, hlow⟩ := hcan
    obtain ⟨hneedl, hneedr⟩ := Nat.max_le.mp hneed
    have hown : (binary op l r s).height ≤
        bracketBound room + spine room (op.level.rank - 1) + (l.links op.level + 1) := by
      have hl := ihl hcanl room hneedl op.level hfit.binding_le
      -- the right operand holds no link of the level, and has the room that is left
      have hr := ihr hcanr room (by omega) op.level (Nat.le_of_lt hlow)
      rw [links_eq_zero hlow] at hr
      rw [height]
      omega
    have hlinks : (binary op l r s).links op.level = l.links op.level + 1 := if_pos rfl
    by_cases heq : op.level = level
    · subst heq
      rw [hlinks]
      exact hown
    · have hlt : op.level.rank < level.rank :=
        Nat.lt_of_le_of_ne hbind fun h => heq (Grammar.rank_injective h)
      -- a tighter tree is a looser one without links: what its own links add is in the spine
      have hbound := links_le_linkBound (e := binary op l r s) ⟨hcanl, hcanr, hfit, hlow⟩ hneed
        op.level (Nat.le_refl _)
      have hmono := spine_mono room (Nat.le_sub_one_of_lt hlt)
      have hrank := spine_rank room op.level
      omega
  | group b s ih =>
    match room, hneed with
    | room + 1, hneed =>
      have hcan : b.Canonical := hcan
      have hneed : b.need ≤ room := Nat.le_of_succ_le_succ hneed
      have hbody := height_le_bracket hcan hneed (ih hcan room hneed .or b.binding_le)
      rw [height, bracketBound]
      omega
  | list es s ih =>
    match room, hneed with
    | room + 1, hneed =>
      have hcan := (allCanonical_iff es).mp hcan
      have hneed := (maxNeed_le_iff es room).mp (Nat.le_of_succ_le_succ hneed)
      have helements : maxHeight es ≤ bracketBound room + spine room Level.or.rank :=
        (maxHeight_le_iff es _).mpr fun e he =>
          height_le_bracket (hcan e he) (hneed e he)
            (ih e he (hcan e he) room (hneed e he) .or e.binding_le)
      rw [height, bracketBound]
      omega

/-- **The height of a tree is at most quadratic in its need.** -/
theorem height_le (e : Expr) (hcan : e.Canonical) {room : Nat} (hneed : e.need ≤ room) :
    e.height ≤ 2 * room ^ 2 + 4 * room := by
  rw [← bracketBound_add_spine]
  exact height_le_bracket hcan hneed (height_le_of_need e hcan room hneed .or e.binding_le)

/-! ## The bound is attained -/

/-- A chain of some links before which a tree stands. -/
def chainFrom (op : Operator) (first : Expr) : Nat → Expr
  | 0 => first
  | n + 1 => binary op (chainFrom op first n) (identifier "a" (.point .start)) (.point .start)

section ChainFrom

variable {op : Operator} {first : Expr}

theorem binding_chainFrom (h : first.binding < op.level.rank) (n : Nat) :
    (chainFrom op first n).binding ≤ op.level.rank := by
  cases n with
  | zero => exact Nat.le_of_lt h
  | succ n => exact Nat.le_refl _

theorem links_chainFrom (h : first.binding < op.level.rank) (n : Nat) :
    (chainFrom op first n).links op.level = n := by
  induction n with
  | zero => exact links_eq_zero h
  | succ n ih => rw [chainFrom, links, if_pos rfl, ih]

theorem canonical_chainFrom (hc : op.level.chains = true) (hcan : first.Canonical)
    (h : first.binding < op.level.rank) (n : Nat) : (chainFrom op first n).Canonical := by
  induction n with
  | zero => exact hcan
  | succ n ih =>
    exact ⟨ih, trivial, .of_chains hc (binding_chainFrom h n), Grammar.rank_pos op.level⟩

theorem need_chainFrom (h : first.binding < op.level.rank) (n : Nat) :
    (chainFrom op first n).need = max first.need n := by
  induction n with
  | zero => exact (Nat.max_zero _).symm
  | succ n ih =>
    rw [chainFrom, need, ih, links_chainFrom h, need]
    omega

theorem height_chainFrom (n : Nat) : (chainFrom op first n).height = first.height + n := by
  induction n with
  | zero => rfl
  | succ n ih =>
    rw [chainFrom, height, ih, height]
    omega

end ChainFrom

/-- A tree of the loosest level on an atom: one chain of each level, each the
first operand of the next. -/
def tower (room : Nat) (atom : Expr) : Expr :=
  let product := chainFrom (.arithmetic .multiply) atom room
  let sum := chainFrom (.arithmetic .add) product room
  let comparison :=
    binary (.equality .loose false) sum (identifier "a" (.point .start)) (.point .start)
  chainFrom .or (chainFrom .and comparison room) room

/-- **The highest tree for some room**: towers on brackets that hold
towers. -/
def tallest : Nat → Expr
  | 0 => identifier "a" (.point .start)
  | room + 1 => tower (room + 1) (group (tallest room) (.point .start))

/-- What a tower adds to an atom. -/
theorem tower_spec {atom : Expr} (hcan : atom.Canonical) (hbind : atom.binding = 0) (room : Nat) :
    (tower (room + 1) atom).Canonical ∧
      (tower (room + 1) atom).need = max atom.need (room + 1) ∧
      (tower (room + 1) atom).height = atom.height + spine (room + 1) Level.or.rank := by
  let product := chainFrom (.arithmetic .multiply) atom (room + 1)
  let sum := chainFrom (.arithmetic .add) product (room + 1)
  let comparison :=
    binary (.equality .loose false) sum (identifier "a" (.point .start)) (.point .start)
  -- every part binds more tightly than the level of the next one
  have hatom : atom.binding < (Operator.arithmetic .multiply).level.rank := hbind ▸ Nat.one_pos
  have hproduct : product.binding < (Operator.arithmetic .add).level.rank :=
    Nat.lt_succ_of_le (binding_chainFrom hatom _)
  have hsum : sum.binding < Level.comparison.rank :=
    Nat.lt_succ_of_le (binding_chainFrom hproduct _)
  have hcomparison : comparison.binding < Operator.and.level.rank := Nat.lt_succ_self _
  have hand : (chainFrom .and comparison (room + 1)).binding < Operator.or.level.rank :=
    Nat.lt_succ_of_le (binding_chainFrom hcomparison _)
  have hcanonical : comparison.Canonical :=
    ⟨canonical_chainFrom rfl (canonical_chainFrom rfl hcan hatom _) hproduct _, trivial,
      .of_lt hsum, Nat.succ_pos _⟩
  refine ⟨canonical_chainFrom rfl (canonical_chainFrom rfl hcanonical hcomparison _) hand _, ?_, ?_⟩
  · have hneed : comparison.need = max atom.need (room + 1) := by
      show max sum.need (sum.links .comparison + 1 + 0) = _
      rw [links_eq_zero hsum, need_chainFrom hproduct, need_chainFrom hatom]
      omega
    show (chainFrom .or (chainFrom .and comparison (room + 1)) (room + 1)).need = _
    rw [need_chainFrom hand, need_chainFrom hcomparison, hneed]
    omega
  · have hheight : comparison.height = atom.height + (room + 1) + (room + 1) + 1 := by
      show max sum.height 0 + 1 = _
      rw [height_chainFrom, height_chainFrom]
      omega
    have hspine : spine (room + 1) Level.or.rank = 4 * room + 5 := spine_succ room
    show (chainFrom .or (chainFrom .and comparison (room + 1)) (room + 1)).height = _
    rw [height_chainFrom, height_chainFrom, hheight, hspine]
    omega

/-- **The bound is attained**: the tallest tree for some room needs all of it
and is as high as a tree may be. -/
theorem tallest_spec (room : Nat) :
    (tallest room).Canonical ∧ (tallest room).need = room ∧
      (tallest room).height = 2 * room ^ 2 + 4 * room := by
  induction room with
  | zero => exact ⟨trivial, rfl, rfl⟩
  | succ room ih =>
    obtain ⟨hcan, hneed, hheight⟩ := ih
    let bracket := group (tallest room) (.point .start)
    obtain ⟨htcan, htneed, htheight⟩ := @tower_spec bracket hcan rfl room
    refine ⟨htcan, htneed.trans ?_, htheight.trans ?_⟩
    -- the bracket leaves the towers in it one place less, and needs it back for itself
    · rw [need, hneed, Nat.max_self]
    · rw [height, hheight, spine_succ]
      ring

/-! ## The text of such a tree -/

/-- Whether a token is one that a tree may hold anywhere and that is written
as it is. -/
def IsSimple (c : Content) : Prop := c.Lexed ∧ c.Clean ∧ c.1 ≠ .regex

/-- A tree of simple tokens is read from its text. -/
theorem legible_of_isSimple {e : Expr} (h : ∀ c ∈ e.contents, IsSimple c) : e.Legible where
  lexed c hc := (h c hc).1
  clean c hc := (h c hc).2.1
  opened := run_openedIfRegex (List.forall_mem_map.mpr fun c hc => (h c hc).2.2) none

/-- A name of one small letter is simple. -/
theorem isSimple_identifier (c : Char) (hstart : Lexer.startsName c = true)
    (hsmall : Text.IsSmall c) (hdot : c ≠ '\u0307') (s : Span) :
    ∀ d ∈ (identifier (.ofList [c]) s).contents, IsSimple d := by
  have hlength : ∀ s : String, s.length ≠ 1 → String.ofList [c] ≠ s := by
    rintro s hs rfl
    exact hs String.length_ofList
  have hfree : Content.IsFree (.ofList [c]) :=
    ⟨hlength _ (by decide), hlength _ (by decide), hlength _ (by decide)⟩
  refine List.forall_mem_singleton.mpr
    ⟨.name hstart hsmall (List.forall_mem_nil _) hfree, ?_, by rintro ⟨⟩⟩
  show '\u0307' ∉ (String.ofList [c]).toList
  rw [String.toList_ofList, List.mem_singleton]
  exact hdot.symm

theorem isSimple_mark {k : TokenKind} (h : k.isMark = true) : IsSimple (k, .null) :=
  ⟨.mark h, trivial, fun hregex : k = .regex => by rw [hregex] at h; cases h⟩

theorem isSimple_group {b : Expr} {s : Span} (h : ∀ c ∈ b.contents, IsSimple c) :
    ∀ c ∈ (group b s).contents, IsSimple c :=
  List.forall_mem_cons.mpr ⟨isSimple_mark rfl,
    List.forall_mem_append.mpr ⟨h, List.forall_mem_singleton.mpr (isSimple_mark rfl)⟩⟩

theorem isSimple_binary {op : Operator} {l r : Expr} {s : Span}
    (hl : ∀ c ∈ l.contents, IsSimple c) (hr : ∀ c ∈ r.contents, IsSimple c) :
    ∀ c ∈ (binary op l r s).contents, IsSimple c :=
  List.forall_mem_append.mpr ⟨hl, List.forall_mem_cons.mpr ⟨isSimple_mark rfl, hr⟩⟩

theorem isSimple_a (s : Span) : ∀ c ∈ (identifier "a" s).contents, IsSimple c :=
  isSimple_identifier 'a' (by decide) (by unfold Text.IsSmall; decide) (by decide) s

theorem isSimple_chainFrom {op : Operator} {first : Expr} (h : ∀ c ∈ first.contents, IsSimple c)
    (n : Nat) : ∀ c ∈ (chainFrom op first n).contents, IsSimple c := by
  induction n with
  | zero => exact h
  | succ n ih => exact isSimple_binary ih (isSimple_a _)

theorem isSimple_tallest (room : Nat) : ∀ c ∈ (tallest room).contents, IsSimple c := by
  induction room with
  | zero => exact isSimple_a _
  | succ room ih =>
    have hbracket : ∀ c ∈ (group (tallest room) (.point .start)).contents, IsSimple c :=
      isSimple_group ih
    have hproduct := @isSimple_chainFrom (.arithmetic .multiply) _ hbracket (room + 1)
    have hsum := @isSimple_chainFrom (.arithmetic .add) _ hproduct (room + 1)
    have hcomparison := @isSimple_binary (.equality .loose false) _ _ (.point .start) hsum
      (isSimple_a (.point .start))
    exact isSimple_chainFrom (isSimple_chainFrom hcomparison _) _

end Expr

/-! ## Under a limit -/

/-- A tree is that of a source, whatever its size: it is the canonical tree of
the tokens before the end, and a condition. -/
def Expr.TreeOf (source : String) (e : Expr) : Prop :=
  ∃ tokens, tokenize source = .ok tokens ∧ e.SpelledBy (tokens.takeWhile Parser.isInner) ∧
    e.Canonical ∧ e.isCondition = true

/-- **A query is read under every limit that its tree needs**, and under no
smaller one. -/
theorem parseQuery_eq_ok_iff (limit : Nat) (source : String) (e : Expr) :
    parseQuery limit source = .ok e ↔ e.TreeOf source ∧ e.need ≤ limit := by
  rw [parseQuery, parseWith_eq_ok_iff]
  constructor
  · rintro ⟨tokens, htokens, h⟩
    rw [Parser.parseQuery_eq_ok_iff, Parser.parse_eq_ok_iff] at h
    obtain ⟨⟨hspell, hcan, hneed⟩, hcond⟩ := h
    exact ⟨⟨tokens, htokens, hspell, hcan, hcond⟩, hneed⟩
  · rintro ⟨⟨tokens, htokens, hspell, hcan, hcond⟩, hneed⟩
    refine ⟨tokens, htokens, ?_⟩
    rw [Parser.parseQuery_eq_ok_iff, Parser.parse_eq_ok_iff]
    exact ⟨⟨hspell, hcan, hneed⟩, hcond⟩

/-- **A condition of simple tokens is that of its text**, with other spans. -/
theorem Expr.exists_treeOf {e : Expr} (hsimple : ∀ c ∈ e.contents, IsSimple c)
    (hcan : e.Canonical) (hcond : e.isCondition = true) :
    ∃ e' : Expr, e'.TreeOf e.toQuery ∧ e'.bare = e.bare := by
  obtain ⟨ts, stop, e', htokens, hinner, hstop, hspell, hbare⟩ :=
    (legible_of_isSimple hsimple).exists_tokens
  refine ⟨e', ⟨_, htokens, ?_, .of_bare_eq hbare hcan, ?_⟩, hbare⟩
  · rw [show (ts ++ [stop]).takeWhile Parser.isInner = ts from
      Parser.rest_ofTokens 0 hinner hstop]
    exact hspell
  · rw [← isCondition_bare, hbare, isCondition_bare]
    exact hcond

/-- **Under every limit some query is as high as the bound.** -/
theorem exists_height_eq (limit : Nat) :
    ∃ source e, parseQuery (limit + 1) source = .ok e ∧
      e.height = 2 * (limit + 1) ^ 2 + 4 * (limit + 1) := by
  obtain ⟨hcan, hneed, hheight⟩ := Expr.tallest_spec (limit + 1)
  obtain ⟨e, htree, hbare⟩ := Expr.exists_treeOf (Expr.isSimple_tallest (limit + 1)) hcan rfl
  refine ⟨_, e, (parseQuery_eq_ok_iff _ _ _).mpr ⟨htree, ?_⟩, ?_⟩
  · rw [Expr.need_eq_of_bare_eq hbare, hneed]
  · rw [← e.height_bare, hbare, Expr.height_bare, hheight]

/-- **What the limit bounds.** The limit bounds the height of the tree of a
source exactly where it is below the need of that tree, so that nothing is
read, or where the tree is no higher than the limit to begin with; it does so
for every limit exactly if the tree is no higher than its need. What is read
is in any case no higher than a quadratic function of the limit, and some
query is as high as that. -/
theorem height_le_limit_iff (source : String) :
    (∀ limit, (∀ e, parseQuery limit source = .ok e → e.height ≤ limit) ↔
        ∀ e : Expr, e.TreeOf source → limit < e.need ∨ e.height ≤ limit) ∧
      ((∀ limit e, parseQuery limit source = .ok e → e.height ≤ limit) ↔
        ∀ e : Expr, e.TreeOf source → e.height ≤ e.need) ∧
      (∀ limit e, parseQuery limit source = .ok e → e.height ≤ 2 * limit ^ 2 + 4 * limit) ∧
      ∀ limit, ∃ other e, parseQuery (limit + 1) other = .ok e ∧
        e.height = 2 * (limit + 1) ^ 2 + 4 * (limit + 1) := by
  refine ⟨fun limit => ⟨?_, ?_⟩, ⟨?_, ?_⟩, ?_, exists_height_eq⟩
  · intro h e he
    by_cases hneed : e.need ≤ limit
    · exact .inr (h e ((parseQuery_eq_ok_iff limit source e).mpr ⟨he, hneed⟩))
    · exact .inl (Nat.lt_of_not_le hneed)
  · intro h e he
    obtain ⟨htree, hneed⟩ := (parseQuery_eq_ok_iff limit source e).mp he
    rcases h e htree with hlt | hle
    · exact absurd hneed (Nat.not_le_of_lt hlt)
    · exact hle
  · intro h e he
    exact h e.need e ((parseQuery_eq_ok_iff e.need source e).mpr ⟨he, Nat.le_refl _⟩)
  · intro h limit e he
    obtain ⟨htree, hneed⟩ := (parseQuery_eq_ok_iff limit source e).mp he
    exact Nat.le_trans (h e htree) hneed
  · intro limit e he
    obtain ⟨⟨_, -, -, hcan, -⟩, hneed⟩ := (parseQuery_eq_ok_iff limit source e).mp he
    exact e.height_le hcan hneed

/-- A group before a comparison is read under the limit `1`, with the group
below the comparison. -/
theorem height_gt_limit_group :
    ¬ ∀ limit source e, parseQuery limit source = .ok e → e.height ≤ limit := by
  intro h
  let comparison : Expr := .binary (.equality .loose false)
    (.group (.identifier "a" (.point .start)) (.point .start)) (.identifier "b" (.point .start))
    (.point .start)
  have hb : ∀ c ∈ (Expr.identifier "b" (.point .start)).contents, Expr.IsSimple c :=
    Expr.isSimple_identifier 'b' (by decide) (by unfold Text.IsSmall; decide) (by decide) _
  have hcan : comparison.Canonical := ⟨trivial, trivial, Nat.succ_pos 2, Nat.succ_pos 2⟩
  obtain ⟨e, htree, hbare⟩ :=
    Expr.exists_treeOf (Expr.isSimple_binary (Expr.isSimple_group (Expr.isSimple_a _)) hb) hcan rfl
  have htext : comparison.toQuery = "(a) = b" := by decide
  have hneed : e.need = 1 := Expr.need_eq_of_bare_eq hbare
  have hheight : e.height = 2 := by rw [← e.height_bare, hbare]; rfl
  have hread : parseQuery 1 "(a) = b" = .ok e :=
    (parseQuery_eq_ok_iff 1 _ e).mpr ⟨htext ▸ htree, Nat.le_of_eq hneed⟩
  have hle := h 1 "(a) = b" e hread
  omega

end CardQuery
