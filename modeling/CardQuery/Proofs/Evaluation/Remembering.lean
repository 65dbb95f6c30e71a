import CardQuery.Evaluation.Matcher
import CardQuery.Proofs.Query.Tree

/-!
# Remembering changes no answer

A matcher keeps the patterns that it has made. The one fact about what it
keeps is `Cache.Sound`: every pattern is the one that its text would make
again. An empty cache is sound, and looking a pattern up keeps it so,
whether the pattern was there, is made, cannot be made, or pushes all others
out.

A search gives the same answer from every sound cache and under every
capacity (`Agree`), because this holds of looking up, of what looks nothing
up, and of one search after another, and nothing else is done in an
evaluation. So a matcher that has been asked any questions answers the next
one as a matcher that was never asked any (`answers_eq_fresh`).
-/

namespace CardQuery

/-! ## What a cache holds -/

/-- Every pattern of a store is the one that its text makes. -/
def PatternStore.MadeBy (make : String → Option Pattern) (store : PatternStore) : Prop :=
  ∀ text p, store.get? text = some p → make text = some p

theorem PatternStore.MadeBy.nil (make : String → Option Pattern) :
    PatternStore.MadeBy make [] := by
  intro text p h
  cases h

/-- A pattern may be put in under the text that makes it, whether or not the
store is emptied for it. -/
theorem PatternStore.MadeBy.put {make : String → Option Pattern} {store : PatternStore}
    (h : store.MadeBy make) (capacity : Nat) {text : String} {p : Pattern}
    (hp : make text = some p) : (store.put capacity text p).MadeBy make := by
  have hbase : PatternStore.MadeBy make (if store.length > capacity then [] else store) := by
    split
    · exact .nil make
    · exact h
  intro name q hq
  rw [PatternStore.put, Catalog.get?_insert] at hq
  split at hq
  · next heq =>
    rw [← heq, ← Option.some.inj hq]
    exact hp
  · exact hbase name q hq

namespace Cache

variable [PatternCompiler]

/-- The pattern that the text of a needle makes. -/
def makeNeedle? (gap : Nat) (text : String) : Option Pattern :=
  (Needle.ofText? text gap).map Needle.pattern

/-- **A sound cache** holds only what would be made again. -/
structure Sound (gap : Nat) (c : Cache) : Prop where
  needles : c.needles.MadeBy (makeNeedle? gap)
  literals : c.literals.MadeBy compile?

theorem Sound.empty (gap : Nat) : Sound gap .empty :=
  ⟨.nil _, .nil _⟩

/-- **Looking a needle up** gives what its text makes, and leaves a sound
cache. -/
theorem Sound.needle? {gap : Nat} {c : Cache} (h : c.Sound gap) (capacity : Nat) (text : String) :
    (Cache.needle? gap capacity text c).1 = makeNeedle? gap text ∧
      (Cache.needle? gap capacity text c).2.Sound gap := by
  unfold Cache.needle?
  split
  · next p hp => exact ⟨(h.needles text p hp).symm, h⟩
  · split
    · next hnone => exact ⟨hnone.symm, h⟩
    · next p hsome => exact ⟨hsome.symm, h.needles.put capacity hsome, h.literals⟩

/-- **Looking a regular expression up** gives what its text makes, and leaves
a sound cache. -/
theorem Sound.literal? {gap : Nat} {c : Cache} (h : c.Sound gap) (capacity : Nat)
    (source : String) :
    (Cache.literal? capacity source c).1 = compile? source ∧
      (Cache.literal? capacity source c).2.Sound gap := by
  unfold Cache.literal?
  split
  · next p hp => exact ⟨(h.literals source p hp).symm, h⟩
  · split
    · next hnone => exact ⟨hnone.symm, h⟩
    · next p hsome => exact ⟨hsome.symm, h.needles, h.literals.put capacity hsome⟩

end Cache

/-! ## Searches that agree -/

section Agree

variable [PatternCompiler]

/-- A search gives an answer from every sound cache, and leaves a sound one. -/
def Gives {α : Type} (gap : Nat) (x : Searching α) (a : α) : Prop :=
  ∀ c : Cache, c.Sound gap → (x.run c).1 = a ∧ (x.run c).2.Sound gap

/-- **Two searches agree** if both give one and the same answer, whatever
either finds remembered. -/
def Agree {α : Type} (gap : Nat) (x y : Searching α) : Prop :=
  ∃ a, Gives gap x a ∧ Gives gap y a

variable {α β : Type} {gap : Nat}

theorem Gives.pure (a : α) : Gives gap (Pure.pure a) a :=
  fun _ h => ⟨rfl, h⟩

theorem Gives.bind {x : Searching α} {f : α → Searching β} {a : α} {b : β} (hx : Gives gap x a)
    (hf : Gives gap (f a) b) : Gives gap (x >>= f) b := by
  intro c hc
  obtain ⟨hanswer, hsound⟩ := hx c hc
  obtain ⟨hanswer', hsound'⟩ := hf (x.run c).2 hsound
  have hrun : (x >>= f).run c = (f a).run (x.run c).2 := by
    rw [StateT.run_bind, ← hanswer]
    rfl
  rw [hrun]
  exact ⟨hanswer', hsound'⟩

/-- What looks nothing up agrees with itself. -/
theorem Agree.pure (a : α) : Agree gap (Pure.pure a) (Pure.pure a) :=
  ⟨a, .pure a, .pure a⟩

/-- **One search after another**: if the first ones agree, and the second ones
do after every answer, so do both together. -/
theorem Agree.bind {x y : Searching α} {f g : α → Searching β} (h : Agree gap x y)
    (hf : ∀ a, Agree gap (f a) (g a)) : Agree gap (x >>= f) (y >>= g) := by
  obtain ⟨a, hx, hy⟩ := h
  obtain ⟨b, hfa, hga⟩ := hf a
  exact ⟨b, hx.bind hfa, hy.bind hga⟩

/-- Evaluations agree as the searches that they are, for a result or an
error. -/
def EvalAgree (gap : Nat) (x y : Evaluation α) : Prop :=
  @Agree _ (Except EvalError α) gap x y

theorem EvalAgree.ofExcept (r : Except EvalError α) :
    EvalAgree gap (Evaluation.ofExcept r) (Evaluation.ofExcept r) :=
  @Agree.pure _ (Except EvalError α) gap r

theorem EvalAgree.pure (a : α) :
    EvalAgree gap (Pure.pure a : Evaluation α) (Pure.pure a : Evaluation α) :=
  EvalAgree.ofExcept (.ok a)

theorem EvalAgree.throw (e : EvalError) :
    EvalAgree gap (MonadExcept.throw e : Evaluation α) (MonadExcept.throw e : Evaluation α) :=
  EvalAgree.ofExcept (.error e)

theorem EvalAgree.ofSearch {x y : Searching α} (h : Agree gap x y) :
    EvalAgree gap (Evaluation.ofSearch x) (Evaluation.ofSearch y) :=
  h.bind fun a => @Agree.pure _ (Except EvalError α) gap (.ok a)

/-- What follows a result agrees, and so does what an error is passed on as. -/
theorem EvalAgree.bindCont {f g : α → Evaluation β} (hf : ∀ a, EvalAgree gap (f a) (g a))
    (r : Except EvalError α) :
    @Agree _ (Except EvalError β) gap (ExceptT.bindCont (m := Searching) f r)
      (ExceptT.bindCont (m := Searching) g r) := by
  cases r with
  | error e => exact EvalAgree.throw e
  | ok a => exact hf a

/-- One evaluation after another: an error of the first ends both alike. -/
theorem EvalAgree.bind {x y : Evaluation α} {f g : α → Evaluation β} (h : EvalAgree gap x y)
    (hf : ∀ a, EvalAgree gap (f a) (g a)) : EvalAgree gap (x >>= f) (y >>= g) :=
  @Agree.bind _ (Except EvalError α) (Except EvalError β) gap x y _ _ h (EvalAgree.bindCont hf)

end Agree

/-! ## Equality of values -/

namespace Equality

variable [PatternCompiler] {gap capacity capacity' : Nat}

theorem needle?_agree (needle : String) :
    @Agree _ (Option Pattern) gap (Cache.needle? gap capacity needle)
      (Cache.needle? gap capacity' needle) :=
  ⟨Cache.makeNeedle? gap needle, fun _ hc => hc.needle? capacity needle,
    fun _ hc => hc.needle? capacity' needle⟩

theorem finds_agree (needle text : String) :
    Agree gap (finds ⟨gap, capacity⟩ needle text) (finds ⟨gap, capacity'⟩ needle text) := by
  refine Agree.bind (needle?_agree needle) fun found => ?_
  cases found with
  | none => exact .pure false
  | some p => exact .pure (Needle.foundBy p text)

theorem texts_agree (mode : EqualityMode) (type : Option FieldType) (left right : String) :
    Agree gap (texts ⟨gap, capacity⟩ mode type left right)
      (texts ⟨gap, capacity'⟩ mode type left right) := by
  unfold texts
  dsimp only
  split
  · exact .pure _
  · cases mode with
    | loose => exact finds_agree _ _
    | strict => exact .pure _

theorem scalars_agree (mode : EqualityMode) (type : Option FieldType) (left right : Value) :
    Agree gap (scalars ⟨gap, capacity⟩ mode type left right)
      (scalars ⟨gap, capacity'⟩ mode type left right) := by
  unfold scalars
  split
  · exact .pure _
  split
  · exact .pure _
  split
  · exact .pure _
  · exact .pure _
  · exact .pure _
  · exact texts_agree mode type _ _
  · exact .pure _

mutual

theorem scalarWith_agree (mode : EqualityMode) (type : Option FieldType) (left v : Value) :
    Agree gap (scalarWith ⟨gap, capacity⟩ mode type left v)
      (scalarWith ⟨gap, capacity'⟩ mode type left v) := by
  cases v with
  | array items => exact scalarWithAny_agree mode type left items
  | _ => exact scalars_agree mode type left _

theorem scalarWithAny_agree (mode : EqualityMode) (type : Option FieldType) (left : Value)
    (items : List Value) :
    Agree gap (scalarWithAny ⟨gap, capacity⟩ mode type left items)
      (scalarWithAny ⟨gap, capacity'⟩ mode type left items) := by
  match items with
  | [] => exact .pure false
  | v :: rest =>
    refine Agree.bind (scalarWith_agree mode type left v) fun found => ?_
    cases found with
    | true => exact .pure true
    | false => exact scalarWithAny_agree mode type left rest

end

mutual

/-- **Equality of values** asks the cache for needles only. -/
theorem values_agree (mode : EqualityMode) (type : Option FieldType) (right v : Value) :
    Agree gap (values ⟨gap, capacity⟩ mode type right v)
      (values ⟨gap, capacity'⟩ mode type right v) := by
  cases v with
  | array items => exact anyWith_agree mode type right items
  | _ => exact scalarWith_agree mode type _ right

theorem anyWith_agree (mode : EqualityMode) (type : Option FieldType) (right : Value)
    (items : List Value) :
    Agree gap (anyWith ⟨gap, capacity⟩ mode type right items)
      (anyWith ⟨gap, capacity'⟩ mode type right items) := by
  match items with
  | [] => exact .pure false
  | v :: rest =>
    refine Agree.bind (values_agree mode type right v) fun found => ?_
    cases found with
    | true => exact .pure true
    | false => exact anyWith_agree mode type right rest

end

end Equality

/-! ## Evaluation -/

namespace Scope

variable {Card Context : Type}

/-- The same scope with other options of searching. -/
def withOptions (s : Scope Card Context) (options : SearchOptions) : Scope Card Context :=
  { s with options := options }

/-- The same scope with another capacity. -/
def withCapacity (s : Scope Card Context) (capacity : Nat) : Scope Card Context :=
  { s with options := ⟨s.options.gap, capacity⟩ }

variable (s : Scope Card Context) (options : SearchOptions) (capacity : Nat)

/-- Values do not depend on the options of searching. -/
theorem value_withOptions (card : Card) (e : Expr) :
    (s.withOptions options).value card e = s.value card e := by
  induction e with
  | literal v span => rw [value, value]
  | identifier name span => rw [value, value]; rfl
  | binary op l r span ihl ihr =>
    cases op with
    | arithmetic op => rw [value, value, ihl, ihr]
    | _ => rw [value, value] <;> exact fun _ h => by cases h
  | group body span ih => rw [value, value, ih]
  | list es span ih => rw [value, value]

theorem numbers_withOptions (card : Card) (l r : Expr) :
    (s.withOptions options).numbers card l r = s.numbers card l r := by
  rw [numbers, numbers, value_withOptions, value_withOptions]

theorem commonType_withOptions (l r : Expr) :
    (s.withOptions options).commonType l r = s.commonType l r := by
  have htype : ∀ e, (s.withOptions options).typeOf e = s.typeOf e := by
    intro e
    cases e <;> rfl
  rw [commonType, commonType, htype, htype]

/-- Values do not depend on the capacity. -/
theorem value_withCapacity (card : Card) (e : Expr) :
    (s.withCapacity capacity).value card e = s.value card e :=
  s.value_withOptions _ card e

theorem numbers_withCapacity (card : Card) (l r : Expr) :
    (s.withCapacity capacity).numbers card l r = s.numbers card l r :=
  s.numbers_withOptions _ card l r

theorem commonType_withCapacity (l r : Expr) :
    (s.withCapacity capacity).commonType l r = s.commonType l r :=
  s.commonType_withOptions _ l r

variable [PatternCompiler]

/-- A pattern is looked up, or refused, whatever is remembered. -/
theorem compile_agree (source : String) :
    EvalAgree s.options.gap (s.compile source) ((s.withCapacity capacity).compile source) := by
  have hlookup : @Agree _ (Option Pattern) s.options.gap
      (Cache.literal? s.options.capacity source) (Cache.literal? capacity source) :=
    ⟨Cache.compile? source, fun _ hc => hc.literal? _ source, fun _ hc => hc.literal? _ source⟩
  refine EvalAgree.bind (.ofSearch hlookup) fun found => ?_
  cases found with
  | none => exact .throw (.invalidRegex source)
  | some p => exact .pure p

theorem valueOperand_agree (card : Card) (e : Expr) :
    EvalAgree s.options.gap
      (do return Operand.value (← Evaluation.ofExcept (s.value card e)))
      (do
        let v ← Evaluation.ofExcept ((s.withCapacity capacity).value card e)
        return Operand.value v) := by
  rw [value_withCapacity]
  exact EvalAgree.bind (.ofExcept (s.value card e)) fun v => .pure (Operand.value v)

theorem operand_agree (card : Card) (e : Expr) :
    EvalAgree s.options.gap (s.operand card e) ((s.withCapacity capacity).operand card e) := by
  induction e with
  | group body span ih => exact ih
  | literal v span =>
    cases v with
    | regex source =>
      exact EvalAgree.bind (s.compile_agree capacity source) fun p => .pure (Operand.pattern p)
    | _ => exact s.valueOperand_agree capacity card _
  | _ => exact s.valueOperand_agree capacity card _

theorem operands_agree (card : Card) (es : List Expr) :
    EvalAgree s.options.gap (s.operands card es) ((s.withCapacity capacity).operands card es) := by
  induction es with
  | nil => exact .pure []
  | cons e es ih =>
    refine EvalAgree.bind (s.operand_agree capacity card e) fun first => ?_
    exact EvalAgree.bind ih fun others => .pure (first :: others)

theorem operandsEqual_agree (mode : EqualityMode) (type : Option FieldType) (l r : Operand) :
    Agree s.options.gap (s.operandsEqual mode type l r)
      ((s.withCapacity capacity).operandsEqual mode type l r) := by
  cases l with
  | value v =>
    cases r with
    | value w => exact Equality.values_agree mode type w v
    | pattern p => exact .pure (p.fits v)
  | pattern p =>
    cases r with
    | value w => exact .pure (p.fits w)
    | pattern q => exact .pure false

theorem anyEqual_agree (mode : EqualityMode) (type : Option FieldType) (l : Operand)
    (rs : List Operand) :
    Agree s.options.gap (s.anyEqual mode type l rs)
      ((s.withCapacity capacity).anyEqual mode type l rs) := by
  induction rs with
  | nil => exact .pure false
  | cons r rs ih =>
    refine Agree.bind (s.operandsEqual_agree capacity mode type l r) fun equal => ?_
    cases equal with
    | true => exact .pure true
    | false => exact ih

theorem compares_agree (card : Card) (mode : EqualityMode) (negated : Bool)
    (type : Option FieldType) (left right : Expr) :
    EvalAgree s.options.gap (s.compares card mode negated type left right)
      ((s.withCapacity capacity).compares card mode negated type left right) := by
  refine EvalAgree.bind (s.operand_agree capacity card left) fun l => ?_
  refine EvalAgree.bind (s.operand_agree capacity card right) fun r => ?_
  exact EvalAgree.bind (.ofSearch (s.operandsEqual_agree capacity mode type l r)) fun equal =>
    .pure (equal != negated)

theorem isMember_agree (card : Card) (mode : EqualityMode) (negated : Bool)
    (type : Option FieldType) (left right : Expr) :
    EvalAgree s.options.gap (s.isMember card mode negated type left right)
      ((s.withCapacity capacity).isMember card mode negated type left right) := by
  refine EvalAgree.bind (s.operand_agree capacity card left) fun l => ?_
  cases right with
  | list elements span =>
    refine EvalAgree.bind (s.operands_agree capacity card elements) fun rs => ?_
    exact EvalAgree.bind (.ofSearch (s.anyEqual_agree capacity mode type l rs)) fun found =>
      .pure (found != negated)
  | _ => exact .throw .expectedList

/-- **Conditions agree**: whatever is remembered, and however much may be,
evaluating a condition ends with the same answer or the same error. -/
theorem holds_agree (card : Card) (e : Expr) :
    EvalAgree s.options.gap (s.holds card e) ((s.withCapacity capacity).holds card e) := by
  induction e with
  | literal v span =>
    cases v with
    | regex source => exact .pure true
    | _ => exact EvalAgree.bind (.ofExcept _) fun v => .pure v.isTruthy
  | identifier name span =>
    exact EvalAgree.bind (.ofExcept (s.lookup card name)) fun v => .pure v.isTruthy
  | group body span ih => exact ih
  | list es span ih => exact .throw .listAsBoolean
  | binary op l r span ihl ihr =>
    -- the types are checked before any operand is evaluated
    rw [holds, holds, commonType_withCapacity]
    refine EvalAgree.bind (.ofExcept (s.commonType l r)) fun type => ?_
    cases op with
    | and =>
      refine EvalAgree.bind ihl fun left => ?_
      cases left with
      | true => exact ihr
      | false => exact .pure false
    | or =>
      refine EvalAgree.bind ihl fun left => ?_
      cases left with
      | true => exact .pure true
      | false => exact ihr
    | equality mode negated => exact s.compares_agree capacity card mode negated type l r
    | membership mode negated => exact s.isMember_agree capacity card mode negated type l r
    | relation relation =>
      show EvalAgree _ (Evaluation.ofExcept (s.related card relation l r))
        (Evaluation.ofExcept ((s.withCapacity capacity).related card relation l r))
      rw [related, related, numbers_withCapacity]
      exact .ofExcept _
    | arithmetic op =>
      show EvalAgree _ (Evaluation.ofExcept (s.computesTruth card op l r))
        (Evaluation.ofExcept ((s.withCapacity capacity).computesTruth card op l r))
      rw [computesTruth, computesTruth, numbers_withCapacity]
      exact .ofExcept _

end Scope

/-! ## Matchers -/

/-- **What a matcher may be asked.** A predicate made of a query asks
`fits` of every card it is given. -/
inductive Question (Card : Type) where
  /-- Whether a card fits a query. -/
  | fits (query : Expr) (card : Card)
  /-- Whether each of some cards fits a query. -/
  | fitsEach (query : Expr) (cards : List Card)
  /-- Which cards fit a query. -/
  | filter (query : Expr) (cards : List Card)
  /-- Whether two values are equal. -/
  | equal (mode : EqualityMode) (type : Option FieldType) (left right : Value)

/-- What a matcher answers. -/
inductive Answer (Card : Type) where
  | fits (result : Except EvalError Bool)
  | fitsEach (results : List (Except EvalError Bool))
  | filter (result : Except EvalError (List Card))
  | equal (result : Bool)

namespace Matcher

variable {Card Context : Type} [PatternCompiler]

/-- **The answer to one question**, and the matcher after it. -/
def answer (m : Matcher Card Context) : Question Card → Answer Card × Matcher Card Context
  | .fits query card => (m.matchCard query card).map .fits id
  | .fitsEach query cards => (m.matchEach query cards).map .fitsEach id
  | .filter query cards => (m.filter query cards).map .filter id
  | .equal mode type left right => (m.equalValues mode type left right).map .equal id

/-- **The answers to one question after another.** -/
def answers (m : Matcher Card Context) : List (Question Card) → List (Answer Card)
  | [] => []
  | q :: qs => (m.answer q).1 :: (m.answer q).2.answers qs

/-- A matcher of a scope that remembers only what would be made again. -/
structure Of (s : Scope Card Context) (m : Matcher Card Context) : Prop where
  scope : m.scope = s
  sound : m.cache.Sound s.options.gap

theorem Of.fresh (s : Scope Card Context) : Of s (fresh s) :=
  ⟨rfl, .empty _⟩

/-- Two results are one and the same, and the matchers after them are again of
their scopes. -/
def SameResult {α : Type} (s t : Scope Card Context) (a b : α × Matcher Card Context) : Prop :=
  a.1 = b.1 ∧ Of s a.2 ∧ Of t b.2

section SameResult

variable {s : Scope Card Context} {capacity : Nat} {m n : Matcher Card Context}

/-- What is computed from a result does not tell it from the same result. -/
theorem SameResult.map {α β : Type} {t : Scope Card Context} {a b : α × Matcher Card Context}
    (h : SameResult s t a b) (f : α → β) : SameResult s t (a.map f id) (b.map f id) :=
  ⟨congrArg f h.1, h.2.1, h.2.2⟩

theorem matchCard_same (hm : Of s m) (hn : Of (s.withCapacity capacity) n) (query : Expr)
    (card : Card) : SameResult s (s.withCapacity capacity) (m.matchCard query card)
      (n.matchCard query card) := by
  obtain ⟨rfl, hsound⟩ := hm
  obtain ⟨hscope, hsound'⟩ := hn
  obtain ⟨a, hx, hy⟩ := m.scope.holds_agree capacity card query
  unfold matchCard
  rw [hscope]
  obtain ⟨hanswer, hafter⟩ := hx m.cache hsound
  obtain ⟨hanswer', hafter'⟩ := hy n.cache hsound'
  exact ⟨hanswer.trans hanswer'.symm, ⟨rfl, hafter⟩, ⟨rfl, hafter'⟩⟩

theorem equalValues_same (hm : Of s m) (hn : Of (s.withCapacity capacity) n)
    (mode : EqualityMode) (type : Option FieldType) (left right : Value) :
    SameResult s (s.withCapacity capacity) (m.equalValues mode type left right)
      (n.equalValues mode type left right) := by
  obtain ⟨rfl, hsound⟩ := hm
  obtain ⟨hscope, hsound'⟩ := hn
  obtain ⟨a, hx, hy⟩ := @Equality.values_agree _ m.scope.options.gap m.scope.options.capacity
    capacity mode type right left
  unfold equalValues
  rw [hscope]
  obtain ⟨hanswer, hafter⟩ := hx m.cache hsound
  obtain ⟨hanswer', hafter'⟩ := hy n.cache hsound'
  exact ⟨hanswer.trans hanswer'.symm, ⟨rfl, hafter⟩, ⟨rfl, hafter'⟩⟩

theorem matchEach_same (hm : Of s m) (hn : Of (s.withCapacity capacity) n) (query : Expr)
    (cards : List Card) : SameResult s (s.withCapacity capacity) (m.matchEach query cards)
      (n.matchEach query cards) := by
  induction cards generalizing m n with
  | nil => exact ⟨rfl, hm, hn⟩
  | cons card cards ih =>
    obtain ⟨hfirst, hm', hn'⟩ := matchCard_same hm hn query card
    obtain ⟨hothers, hm'', hn''⟩ := ih hm' hn'
    have hall : (m.matchCard query card).1 :: ((m.matchCard query card).2.matchEach query cards).1
        = (n.matchCard query card).1 :: ((n.matchCard query card).2.matchEach query cards).1 := by
      rw [hfirst, hothers]
    exact ⟨hall, hm'', hn''⟩

theorem decideAll_same (hm : Of s m) (hn : Of (s.withCapacity capacity) n) (query : Expr)
    (cards : List Card) : SameResult s (s.withCapacity capacity) (m.decideAll query cards)
      (n.decideAll query cards) := by
  induction cards generalizing m n with
  | nil => exact ⟨rfl, hm, hn⟩
  | cons card cards ih =>
    unfold decideAll
    have hfirst := matchCard_same hm hn query card
    generalize m.matchCard query card = a at hfirst
    generalize n.matchCard query card = b at hfirst
    obtain ⟨result, m'⟩ := a
    obtain ⟨result', n'⟩ := b
    obtain ⟨rfl, hm', hn'⟩ : result = result' ∧ Of s m' ∧ Of (s.withCapacity capacity) n' := hfirst
    -- both matchers give one result for the first card, so both stop or both go on
    cases result with
    | error e => exact ⟨rfl, hm', hn'⟩
    | ok fits =>
      have hothers := ih hm' hn'
      dsimp only
      generalize m'.decideAll query cards = a at hothers
      generalize n'.decideAll query cards = b at hothers
      obtain ⟨others, m''⟩ := a
      obtain ⟨others', n''⟩ := b
      obtain ⟨rfl, hm'', hn''⟩ :
        others = others' ∧ Of s m'' ∧ Of (s.withCapacity capacity) n'' := hothers
      cases others with
      | error e => exact ⟨rfl, hm'', hn''⟩
      | ok answers => exact ⟨rfl, hm'', hn''⟩

/-- **One question** is answered alike, whatever is remembered, and leaves
what is remembered sound. -/
theorem answer_same (hm : Of s m) (hn : Of (s.withCapacity capacity) n) (q : Question Card) :
    SameResult s (s.withCapacity capacity) (m.answer q) (n.answer q) := by
  cases q with
  | fits query card => exact (matchCard_same hm hn query card).map Answer.fits
  | fitsEach query cards => exact (matchEach_same hm hn query cards).map Answer.fitsEach
  | filter query cards =>
    exact (decideAll_same hm hn query cards).map fun answers =>
      Answer.filter (answers.map (kept cards))
  | equal mode type left right =>
    exact (equalValues_same hm hn mode type left right).map Answer.equal

end SameResult

/-- A matcher that remembers only what would be made again answers every
question as one that was never asked any. -/
theorem Of.answers_eq {s : Scope Card Context} {m : Matcher Card Context} (hm : Of s m)
    (capacity : Nat) (questions : List (Question Card)) :
    m.answers questions
      = questions.map fun q => ((Matcher.fresh (s.withCapacity capacity)).answer q).1 := by
  induction questions generalizing m with
  | nil => rfl
  | cons q qs ih =>
    obtain ⟨hanswer, hm', -⟩ := answer_same hm (.fresh (s.withCapacity capacity)) q
    rw [answers, List.map_cons, hanswer, ih hm']

/-- **Remembering changes no answer.** Whatever a matcher is asked, one
question after another, it answers each as a matcher of the same fields,
context and gap that was never asked any, whatever the capacity of either. -/
theorem answers_eq_fresh (s : Scope Card Context) (capacity : Nat)
    (questions : List (Question Card)) :
    (fresh s).answers questions
      = questions.map fun q => ((fresh (s.withCapacity capacity)).answer q).1 :=
  (Of.fresh s).answers_eq capacity questions

end Matcher

end CardQuery
