import CardQuery.Proofs.Evaluation.Answer
import Mathlib

/-!
# How much is remembered

What is remembered changes in one way only: a pattern is looked up (`Lookup`). A lookup that finds
its pattern changes nothing, and neither does one whose text makes no pattern. Otherwise the
pattern that is made goes into the store of its kind, which is emptied first if it holds more than
the capacity, so that store has one entry more than before, or one entry in all
(`Lookup.Outcome`). A store that holds at most one entry more than the capacity therefore never
holds more.

Whatever a matcher is asked, it does nothing to its cache but look patterns up, one after another
(`LooksUp`). Which ones they are depends on the cards, on the answers before and on what is
remembered already; the bound does not, so it holds between any two of them
(`Matcher.lookups_within`).
-/

namespace CardQuery

/-! ## Stores -/

/-- An entry under a new name takes a place of its own. -/
theorem Catalog.length_insert_of_get?_eq_none {α : Type} {c : Catalog α} {name : String}
    (h : c.get? name = none) (value : α) : (c.insert name value).length = c.length + 1 := by
  induction c with
  | nil => rfl
  | cons e c ih =>
    obtain ⟨n, v⟩ := e
    rw [Catalog.get?_cons] at h
    have hne : n ≠ name := fun heq => by simp [heq] at h
    rw [if_neg hne] at h
    rw [Catalog.insert, if_neg hne.symm]
    split
    · rfl
    · rw [List.length_cons, ih h, List.length_cons]

/-- **A store after a new pattern was put in** holds that one only, if it had to be emptied, and
one more otherwise. -/
theorem PatternStore.length_put {store : PatternStore} {text : String}
    (h : store.get? text = none) (capacity : Nat) (p : Pattern) :
    (store.put capacity text p).length
      = if store.length > capacity then 1 else store.length + 1 := by
  unfold PatternStore.put
  split
  · rfl
  · exact Catalog.length_insert_of_get?_eq_none h p

/-- What was put into a store is found there. -/
theorem PatternStore.get?_put (store : PatternStore) (capacity : Nat) (text : String)
    (p : Pattern) : (store.put capacity text p).get? text = some p := by
  rw [PatternStore.put, Catalog.get?_insert, if_pos rfl]

/-! ## Single lookups -/

/-- **A pattern that is looked up.** -/
inductive Lookup where
  /-- The pattern that finds a needle. -/
  | needle (text : String)
  /-- The pattern of a regular expression as it is written. -/
  | literal (source : String)

namespace Lookup

/-- Looks the pattern up. -/
def run [PatternCompiler] (options : SearchOptions) : Lookup → Searching (Option Pattern)
  | needle text => Cache.needle? options.gap options.capacity text
  | literal source => Cache.literal? options.capacity source

/-- The text under which the pattern is remembered. -/
def text : Lookup → String
  | needle text => text
  | literal source => source

/-- The store of the patterns of this kind. -/
def own : Lookup → Cache → PatternStore
  | needle _, c => c.needles
  | literal _, c => c.literals

/-- The store of the patterns of the other kind. -/
def other : Lookup → Cache → PatternStore
  | needle _, c => c.literals
  | literal _, c => c.needles

/-- The pattern that is made where none is remembered, if its text makes one. -/
def make? [PatternCompiler] (gap : Nat) : Lookup → Option Pattern
  | needle text => Cache.makeNeedle? gap text
  | literal source => Cache.compile? source

/-- The cache with another store of the patterns of this kind. -/
def withOwn : Lookup → Cache → PatternStore → Cache
  | needle _, c, store => { c with needles := store }
  | literal _, c, store => { c with literals := store }

@[simp] theorem own_withOwn (l : Lookup) (c : Cache) (store : PatternStore) :
    l.own (l.withOwn c store) = store := by
  cases l <;> rfl

@[simp] theorem other_withOwn (l : Lookup) (c : Cache) (store : PatternStore) :
    l.other (l.withOwn c store) = l.other c := by
  cases l <;> rfl

variable [PatternCompiler]

/-- A needle without words makes no pattern. -/
theorem make?_needle_of_words {text : String} (h : Text.words (Needle.prepare text) = [])
    (gap : Nat) : (needle text).make? gap = none := by
  have htext : Needle.ofText? text gap = none := by
    rw [Needle.ofText?, h]
  rw [make?, Cache.makeNeedle?, htext]
  rfl

/-- **What a lookup makes of a cache.** -/
structure Outcome (options : SearchOptions) (l : Lookup) (before after : Cache) : Prop where
  /-- A pattern that is remembered is only read. -/
  hit : ∀ p, (l.own before).get? l.text = some p → after = before
  /-- Where the text makes no pattern, nothing is put in and nothing is thrown out. -/
  failure : (l.own before).get? l.text = none → l.make? options.gap = none → after = before
  /-- A pattern that is made is put into the store of its kind, which is emptied first if it holds
  more than the capacity. -/
  miss : ∀ p, (l.own before).get? l.text = none → l.make? options.gap = some p →
    l.other after = l.other before ∧ (l.own after).get? l.text = some p ∧
      (l.own after).length
        = if (l.own before).length > options.capacity then 1 else (l.own before).length + 1
  /-- A needle without words changes nothing. -/
  wordless : ∀ text, l = needle text → Text.words (Needle.prepare text) = [] → after = before

section Run

variable (options : SearchOptions) (l : Lookup) (c : Cache)

/-- A lookup in one equation for both kinds. -/
theorem run_eq : (l.run options).run c
    = match (l.own c).get? l.text with
      | some p => (some p, c)
      | none =>
        match l.make? options.gap with
        | none => (none, c)
        | some p => (some p, l.withOwn c ((l.own c).put options.capacity l.text p)) := by
  cases l with
  | needle text =>
    change Cache.needle? options.gap options.capacity text c = _
    rw [Cache.needle?]
    cases hget : c.needles.get? text with
    | some p => simp only [own, Lookup.text, hget]
    | none =>
      simp only [own, Lookup.text, hget, make?, Cache.makeNeedle?]
      cases (Needle.ofText? text options.gap).map Needle.pattern <;> rfl
  | literal source =>
    change Cache.literal? options.capacity source c = _
    rw [Cache.literal?]
    cases hget : c.literals.get? source with
    | some p => simp only [own, Lookup.text, hget]
    | none =>
      simp only [own, Lookup.text, hget, make?]
      cases Cache.compile? source <;> rfl

/-- **Every lookup** reads a pattern, fails, or puts a pattern in. -/
theorem outcome : Outcome options l c ((l.run options).run c).2 := by
  rw [run_eq]
  cases hget : (l.own c).get? l.text with
  | some p =>
    exact ⟨fun _ _ => rfl, fun _ _ => rfl, fun _ h => (by cases hget.symm.trans h),
      fun _ _ _ => rfl⟩
  | none =>
    cases hmake : l.make? options.gap with
    | none =>
      exact ⟨fun _ _ => rfl, fun _ _ => rfl, fun _ _ h => (by cases hmake.symm.trans h),
        fun _ _ _ => rfl⟩
    | some p =>
      refine ⟨fun _ h => ?_, fun _ h => ?_, fun q _ h => ?_, fun text heq h => ?_⟩
      · cases hget.symm.trans h
      · cases hmake.symm.trans h
      · obtain rfl : p = q := Option.some.inj (hmake.symm.trans h)
        rw [own_withOwn, other_withOwn]
        exact ⟨rfl, PatternStore.get?_put _ _ _ _, PatternStore.length_put hget _ p⟩
      · rw [heq, make?_needle_of_words h] at hmake
        cases hmake

end Run

end Lookup

/-! ## One lookup after another -/

/-- **A cache within a capacity**: neither store holds more than one entry beyond it. -/
structure Cache.Within (capacity : Nat) (c : Cache) : Prop where
  needles : c.needles.length ≤ capacity + 1
  literals : c.literals.length ≤ capacity + 1

namespace Cache

theorem Within.empty (capacity : Nat) : Within capacity .empty :=
  ⟨Nat.zero_le _, Nat.zero_le _⟩

theorem Within.size_le {capacity : Nat} {c : Cache} (h : c.Within capacity) :
    c.size ≤ 2 * (capacity + 1) := by
  have hneedles := h.needles
  have hliterals := h.literals
  unfold size
  omega

/-- A cache is within a capacity if the two stores are that a lookup tells apart. -/
theorem within_iff (l : Lookup) {capacity : Nat} {c : Cache} :
    c.Within capacity
      ↔ (l.own c).length ≤ capacity + 1 ∧ (l.other c).length ≤ capacity + 1 := by
  cases l with
  | needle text => exact ⟨fun h => ⟨h.needles, h.literals⟩, fun h => ⟨h.1, h.2⟩⟩
  | literal source => exact ⟨fun h => ⟨h.literals, h.needles⟩, fun h => ⟨h.2, h.1⟩⟩

variable [PatternCompiler]

/-- **One lookup stays within the capacity**: a store that is at its bound is emptied before
anything is put in. -/
theorem Within.lookup {options : SearchOptions} {l : Lookup} {c c' : Cache}
    (h : c.Within options.capacity) (ho : l.Outcome options c c') :
    c'.Within options.capacity := by
  cases hget : (l.own c).get? l.text with
  | some p => exact ho.hit p hget ▸ h
  | none =>
    cases hmake : l.make? options.gap with
    | none => exact ho.failure hget hmake ▸ h
    | some p =>
      obtain ⟨hother, -, hown⟩ := ho.miss p hget hmake
      have hsizes := (within_iff l).mp h
      refine (within_iff l).mpr ⟨?_, hother ▸ hsizes.2⟩
      rw [hown]
      split <;> omega

/-- The cache after some lookups. -/
def after (options : SearchOptions) (c : Cache) (lookups : List Lookup) : Cache :=
  lookups.foldl (fun c l => ((l.run options).run c).2) c

theorem after_append (options : SearchOptions) (c : Cache) (lookups lookups' : List Lookup) :
    c.after options (lookups ++ lookups') = (c.after options lookups).after options lookups' :=
  List.foldl_append

/-- **Any number of lookups** stay within the capacity. -/
theorem Within.after {options : SearchOptions} {c : Cache} (h : c.Within options.capacity)
    (lookups : List Lookup) : (c.after options lookups).Within options.capacity := by
  induction lookups generalizing c with
  | nil => exact h
  | cons l lookups ih => exact ih (h.lookup (l.outcome options c))

end Cache

/-- A store that holds more than the capacity is emptied for the next pattern. -/
example :
    let needles (texts : List String) := (Cache.empty.after ⟨20, 2⟩ (texts.map .needle)).size
    needles ["a", "b", "c"] = 3 ∧ needles ["a", "b", "c", "d"] = 1 := by
  decide +kernel

section Looks

variable [PatternCompiler]

/-- **The lookups that a search makes** from a cache on, in order. What only gives an answer makes
none, a lookup is one, and one search after another makes those of the first and then those of the
second, which starts with the answer and the cache that the first one leaves. -/
inductive LooksUp (options : SearchOptions) :
    {α : Type} → Searching α → Cache → List Lookup → Prop where
  | pure {α : Type} (a : α) (c : Cache) : LooksUp options (Pure.pure a) c []
  | lookup (l : Lookup) (c : Cache) : LooksUp options (l.run options) c [l]
  | bind {α β : Type} {x : Searching α} {f : α → Searching β} {c : Cache}
      {lookups lookups' : List Lookup} (first : LooksUp options x c lookups)
      (second : LooksUp options (f (x.run c).1) (x.run c).2 lookups') :
      LooksUp options (x >>= f) c (lookups ++ lookups')

/-- Nothing but its lookups changes what a search finds remembered. -/
theorem LooksUp.after_eq {options : SearchOptions} {α : Type} {x : Searching α} {c : Cache}
    {lookups : List Lookup} (h : LooksUp options x c lookups) :
    (x.run c).2 = c.after options lookups := by
  induction h with
  | pure a c => rfl
  | lookup l c => rfl
  | bind first second ih ih' =>
    rw [Cache.after_append, ← ih, ← ih']
    rfl

/-- A search that does nothing but look patterns up, wherever it starts. -/
def Looks {α : Type} (options : SearchOptions) (x : Searching α) : Prop :=
  ∀ c, ∃ lookups, LooksUp options x c lookups

variable {α β : Type} {options : SearchOptions}

theorem Looks.pure (a : α) : Looks options (Pure.pure a) :=
  fun c => ⟨[], .pure a c⟩

theorem Looks.lookup (l : Lookup) : Looks options (l.run options) :=
  fun c => ⟨[l], .lookup l c⟩

theorem Looks.bind {x : Searching α} {f : α → Searching β} (hx : Looks options x)
    (hf : ∀ a, Looks options (f a)) : Looks options (x >>= f) := by
  intro c
  obtain ⟨lookups, first⟩ := hx c
  obtain ⟨lookups', second⟩ := hf (x.run c).1 (x.run c).2
  exact ⟨lookups ++ lookups', .bind first second⟩

/-- An evaluation looks up what it does as the search that it is, for a result or an error. -/
def EvalLooks (options : SearchOptions) (x : Evaluation α) : Prop :=
  @Looks _ (Except EvalError α) options x

theorem EvalLooks.ofExcept (r : Except EvalError α) :
    EvalLooks options (Evaluation.ofExcept r) :=
  @Looks.pure _ (Except EvalError α) options r

theorem EvalLooks.pure (a : α) : EvalLooks options (Pure.pure a : Evaluation α) :=
  EvalLooks.ofExcept (.ok a)

theorem EvalLooks.throw (e : EvalError) :
    EvalLooks options (MonadExcept.throw e : Evaluation α) :=
  EvalLooks.ofExcept (.error e)

theorem EvalLooks.ofSearch {x : Searching α} (h : Looks options x) :
    EvalLooks options (Evaluation.ofSearch x) :=
  h.bind fun a => @Looks.pure _ (Except EvalError α) options (.ok a)

/-- An error ends an evaluation, and nothing is looked up behind it. -/
theorem EvalLooks.bind {x : Evaluation α} {f : α → Evaluation β} (h : EvalLooks options x)
    (hf : ∀ a, EvalLooks options (f a)) : EvalLooks options (x >>= f) := by
  have hcont : ∀ r : Except EvalError α,
      @Looks _ (Except EvalError β) options (ExceptT.bindCont (m := Searching) f r) := by
    intro r
    cases r with
    | error e => exact EvalLooks.throw e
    | ok a => exact hf a
  exact @Looks.bind _ (Except EvalError α) (Except EvalError β) options x _ h hcont

end Looks

/-! ## Equality of values -/

namespace Equality

variable [PatternCompiler] {options : SearchOptions}

theorem finds_looks (needle text : String) : Looks options (finds options needle text) := by
  refine Looks.bind (.lookup (.needle needle)) fun found => ?_
  cases found with
  | none => exact .pure false
  | some p => exact .pure (Needle.foundBy p text)

theorem texts_looks (mode : EqualityMode) (type : Option FieldType) (left right : String) :
    Looks options (texts options mode type left right) := by
  unfold texts
  dsimp only
  split
  · exact .pure _
  · cases mode with
    | loose => exact finds_looks _ _
    | strict => exact .pure _

theorem scalars_looks (mode : EqualityMode) (type : Option FieldType) (left right : Value) :
    Looks options (scalars options mode type left right) := by
  unfold scalars
  split
  · exact .pure _
  split
  · exact .pure _
  split
  · exact .pure _
  · exact .pure _
  · exact .pure _
  · exact texts_looks mode type _ _
  · exact .pure _

mutual

theorem scalarWith_looks (mode : EqualityMode) (type : Option FieldType) (left v : Value) :
    Looks options (scalarWith options mode type left v) := by
  cases v with
  | array items => exact scalarWithAny_looks mode type left items
  | _ => exact scalars_looks mode type left _

theorem scalarWithAny_looks (mode : EqualityMode) (type : Option FieldType) (left : Value)
    (items : List Value) : Looks options (scalarWithAny options mode type left items) := by
  match items with
  | [] => exact .pure false
  | v :: rest =>
    refine Looks.bind (scalarWith_looks mode type left v) fun found => ?_
    cases found with
    | true => exact .pure true
    | false => exact scalarWithAny_looks mode type left rest

end

mutual

/-- **Equality of values** looks up a needle for every two texts that it compares loosely, until
two values are equal. -/
theorem values_looks (mode : EqualityMode) (type : Option FieldType) (right v : Value) :
    Looks options (values options mode type right v) := by
  cases v with
  | array items => exact anyWith_looks mode type right items
  | _ => exact scalarWith_looks mode type _ right

theorem anyWith_looks (mode : EqualityMode) (type : Option FieldType) (right : Value)
    (items : List Value) : Looks options (anyWith options mode type right items) := by
  match items with
  | [] => exact .pure false
  | v :: rest =>
    refine Looks.bind (values_looks mode type right v) fun found => ?_
    cases found with
    | true => exact .pure true
    | false => exact anyWith_looks mode type right rest

end

end Equality

/-! ## Evaluation -/

namespace Scope

variable {Card Context : Type} [PatternCompiler] (s : Scope Card Context)

theorem compile_looks (source : String) : EvalLooks s.options (s.compile source) := by
  refine EvalLooks.bind (.ofSearch (.lookup (.literal source))) fun found => ?_
  cases found with
  | none => exact .throw (.invalidRegex source)
  | some p => exact .pure p

theorem operand_looks (card : Card) (e : Expr) : EvalLooks s.options (s.operand card e) := by
  have hvalue : ∀ e, EvalLooks s.options
      (do return Operand.value (← Evaluation.ofExcept (s.value card e))) :=
    fun e => .bind (.ofExcept (s.value card e)) fun v => .pure (Operand.value v)
  induction e with
  | group body span ih => exact ih
  | literal v span =>
    cases v with
    | regex source => exact .bind (s.compile_looks source) fun p => .pure (Operand.pattern p)
    | _ => exact hvalue _
  | _ => exact hvalue _

theorem operands_looks (card : Card) (es : List Expr) :
    EvalLooks s.options (s.operands card es) := by
  induction es with
  | nil => exact .pure []
  | cons e es ih =>
    refine EvalLooks.bind (s.operand_looks card e) fun first => ?_
    exact EvalLooks.bind ih fun others => .pure (first :: others)

theorem operandsEqual_looks (mode : EqualityMode) (type : Option FieldType) (l r : Operand) :
    Looks s.options (s.operandsEqual mode type l r) := by
  cases l with
  | value v =>
    cases r with
    | value w => exact Equality.values_looks mode type w v
    | pattern p => exact .pure (p.fits v)
  | pattern p =>
    cases r with
    | value w => exact .pure (p.fits w)
    | pattern q => exact .pure false

theorem anyEqual_looks (mode : EqualityMode) (type : Option FieldType) (l : Operand)
    (rs : List Operand) : Looks s.options (s.anyEqual mode type l rs) := by
  induction rs with
  | nil => exact .pure false
  | cons r rs ih =>
    refine Looks.bind (s.operandsEqual_looks mode type l r) fun equal => ?_
    cases equal with
    | true => exact .pure true
    | false => exact ih

theorem compares_looks (card : Card) (mode : EqualityMode) (negated : Bool)
    (type : Option FieldType) (left right : Expr) :
    EvalLooks s.options (s.compares card mode negated type left right) := by
  refine EvalLooks.bind (s.operand_looks card left) fun l => ?_
  refine EvalLooks.bind (s.operand_looks card right) fun r => ?_
  exact EvalLooks.bind (.ofSearch (s.operandsEqual_looks mode type l r)) fun equal =>
    .pure (equal != negated)

theorem isMember_looks (card : Card) (mode : EqualityMode) (negated : Bool)
    (type : Option FieldType) (left right : Expr) :
    EvalLooks s.options (s.isMember card mode negated type left right) := by
  refine EvalLooks.bind (s.operand_looks card left) fun l => ?_
  cases right with
  | list elements span =>
    refine EvalLooks.bind (s.operands_looks card elements) fun rs => ?_
    exact EvalLooks.bind (.ofSearch (s.anyEqual_looks mode type l rs)) fun found =>
      .pure (found != negated)
  | _ => exact .throw .expectedList

/-- **Conditions** do nothing to a cache but look patterns up. -/
theorem holds_looks (card : Card) (e : Expr) : EvalLooks s.options (s.holds card e) := by
  induction e with
  | literal v span =>
    cases v with
    | regex source => exact .pure true
    | _ => exact .bind (.ofExcept _) fun v => .pure v.isTruthy
  | identifier name span => exact .bind (.ofExcept (s.lookup card name)) fun v => .pure v.isTruthy
  | group body span ih => exact ih
  | list es span ih => exact .throw .listAsBoolean
  | binary op l r span ihl ihr =>
    rw [holds]
    refine EvalLooks.bind (.ofExcept (s.commonType l r)) fun type => ?_
    cases op with
    | and =>
      refine EvalLooks.bind ihl fun left => ?_
      cases left with
      | true => exact ihr
      | false => exact .pure false
    | or =>
      refine EvalLooks.bind ihl fun left => ?_
      cases left with
      | true => exact .pure true
      | false => exact ihr
    | equality mode negated => exact s.compares_looks card mode negated type l r
    | membership mode negated => exact s.isMember_looks card mode negated type l r
    | relation relation => exact .ofExcept (s.related card relation l r)
    | arithmetic op => exact .ofExcept (s.computesTruth card op l r)

end Scope

/-! ## Matchers -/

namespace Matcher

variable {Card Context : Type} [PatternCompiler]

/-- What a matcher of a scope does when it is asked something, as a search: it starts with what the
matcher remembers and leaves what the matcher remembers then. -/
def searching {α : Type} (s : Scope Card Context)
    (ask : Matcher Card Context → α × Matcher Card Context) : Searching α :=
  fun c => (ask ⟨s, c⟩).map id cache

/-- **The search that a matcher makes of some questions**, one after another. -/
def searchingAll (s : Scope Card Context) : List (Question Card) → Searching (List (Answer Card))
  | [] => return []
  | q :: qs => do
    let first ← searching s (·.answer q)
    let others ← searchingAll s qs
    return first :: others

/-- The matcher after some questions. -/
def asked (m : Matcher Card Context) (questions : List (Question Card)) : Matcher Card Context :=
  questions.foldl (fun m q => (m.answer q).2) m

section Looks

variable (s : Scope Card Context) (query : Expr)

theorem matchCard_looks (card : Card) :
    Looks s.options (searching s (·.matchCard query card)) :=
  s.holds_looks card query

theorem matchEach_looks (cards : List Card) :
    Looks s.options (searching s (·.matchEach query cards)) := by
  induction cards with
  | nil => exact .pure []
  | cons card cards ih =>
    exact Looks.bind (matchCard_looks s query card) fun first =>
      Looks.bind ih fun others => .pure (first :: others)

/-- The answers about some cards are found in one evaluation, which the first failure ends. -/
theorem searching_decideAll_cons (card : Card) (cards : List Card) :
    ExceptT.mk (searching s (·.decideAll query (card :: cards)))
      = (do
          let fits ← s.holds card query
          let others ← ExceptT.mk (searching s (·.decideAll query cards))
          return fits :: others) := by
  funext c
  change ((Matcher.mk s c).decideAll query (card :: cards)).map id cache
    = (s.holds card query >>= fun fits =>
        ExceptT.mk (searching s (·.decideAll query cards)) >>= fun others =>
          pure (fits :: others) : Evaluation (List Bool)).run.run c
  have hfirst : (Matcher.mk s c).matchCard query card
      = ((s.holds card query).run.run c).map id (mk s) := rfl
  rw [decideAll, hfirst, Evaluation.run_bind]
  generalize (s.holds card query).run.run c = first
  obtain ⟨e | fits, c⟩ := first
  · rfl
  · have hothers : (ExceptT.mk (searching s (·.decideAll query cards))).run.run c
        = ((Matcher.mk s c).decideAll query cards).map id cache := rfl
    dsimp only [Prod.map, id]
    rw [Evaluation.run_bind, hothers]
    generalize (Matcher.mk s c).decideAll query cards = others
    obtain ⟨e | others, m⟩ := others <;> rfl

theorem decideAll_looks (cards : List Card) :
    Looks s.options (searching s (·.decideAll query cards)) := by
  suffices h : EvalLooks s.options (ExceptT.mk (searching s (·.decideAll query cards))) from h
  induction cards with
  | nil => exact EvalLooks.pure []
  | cons card cards ih =>
    rw [searching_decideAll_cons]
    exact EvalLooks.bind (s.holds_looks card query) fun fits =>
      EvalLooks.bind ih fun others => .pure (fits :: others)

theorem answer_looks (q : Question Card) : Looks s.options (searching s (·.answer q)) := by
  cases q with
  | fits query card => exact (matchCard_looks s query card).bind fun r => .pure (Answer.fits r)
  | fitsEach query cards =>
    exact (matchEach_looks s query cards).bind fun r => .pure (Answer.fitsEach r)
  | filter query cards =>
    exact (decideAll_looks s query cards).bind fun r => .pure (Answer.filter (r.map (kept cards)))
  | equal mode type left right =>
    exact (Equality.values_looks mode type right left).bind fun r => .pure (Answer.equal r)

theorem searchingAll_looks (questions : List (Question Card)) :
    Looks s.options (searchingAll s questions) := by
  induction questions with
  | nil => exact .pure []
  | cons q qs ih =>
    exact Looks.bind (answer_looks s q) fun first => Looks.bind ih fun others =>
      .pure (first :: others)

end Looks

/-- A matcher that is asked some questions makes one search of them. -/
theorem Of.run_searchingAll {s : Scope Card Context} {m : Matcher Card Context} (hm : Of s m)
    (questions : List (Question Card)) :
    (searchingAll s questions).run m.cache = (m.answers questions, (m.asked questions).cache) := by
  induction questions generalizing m with
  | nil => rfl
  | cons q qs ih =>
    obtain ⟨-, hm', -⟩ := answer_same hm (.fresh (s.withCapacity 0)) q
    have hfirst : (searching s (·.answer q)).run m.cache = (m.answer q).map id cache := by
      obtain ⟨rfl, -⟩ := hm
      rfl
    have hothers := ih hm'
    change ((searchingAll s (q :: qs)).run m.cache : _ × _)
      = ((m.answer q).1 :: (m.answer q).2.answers qs, ((m.answer q).2.asked qs).cache)
    rw [searchingAll, StateT.run_bind, hfirst]
    change ((searchingAll s qs >>= fun others => pure ((m.answer q).1 :: others)).run
      (m.answer q).2.cache : _ × _) = _
    rw [StateT.run_bind, hothers]
    rfl

/-- **What is remembered stays within the capacity.** Whatever a matcher is asked, one question
after another, it does nothing but look patterns up, each of which is only read, or fails and
changes nothing, or is put into the store of its kind, which is emptied first if it holds more than
the capacity. So before and after every one of these lookups neither store holds more than one
entry beyond the capacity. -/
theorem lookups_within (s : Scope Card Context) (questions : List (Question Card)) :
    (searchingAll s questions).run .empty
        = ((fresh s).answers questions, ((fresh s).asked questions).cache) ∧
      ((fresh s).asked questions).cached ≤ 2 * (s.options.capacity + 1) ∧
      (∃ lookups, LooksUp s.options (searchingAll s questions) .empty lookups) ∧
      ∀ lookups, LooksUp s.options (searchingAll s questions) .empty lookups →
        ((fresh s).asked questions).cache = Cache.empty.after s.options lookups ∧
        ∀ before later, lookups = before ++ later →
          (Cache.empty.after s.options before).Within s.options.capacity ∧
          (Cache.empty.after s.options before).size ≤ 2 * (s.options.capacity + 1) ∧
          ∀ l ∈ later.head?, l.Outcome s.options (Cache.empty.after s.options before)
            (Cache.empty.after s.options (before ++ [l])) := by
  have hrun : (searchingAll s questions).run Cache.empty = _ :=
    (Of.fresh s).run_searchingAll questions
  have hafter : ∀ lookups, LooksUp s.options (searchingAll s questions) .empty lookups →
      ((fresh s).asked questions).cache = Cache.empty.after s.options lookups := by
    intro lookups hlookups
    rw [← hlookups.after_eq, hrun]
  have hwithin : ∀ lookups, (Cache.empty.after s.options lookups).Within s.options.capacity :=
    (Cache.Within.empty s.options.capacity).after
  obtain ⟨lookups, hlookups⟩ := searchingAll_looks s questions .empty
  refine ⟨hrun, ?_, ⟨lookups, hlookups⟩, fun lookups' hlookups' => ⟨hafter lookups' hlookups', ?_⟩⟩
  · rw [cached, hafter lookups hlookups]
    exact (hwithin lookups).size_le
  · rintro before later -
    refine ⟨hwithin before, (hwithin before).size_le, fun l _ => ?_⟩
    rw [Cache.after_append]
    exact l.outcome s.options _

end Matcher

end CardQuery
