import CardQuery.Proofs.Evaluation.Remembering

/-!
# What an evaluation answers

Remembering changes no answer, so a search has *the* answer, the one that it
gives when nothing is remembered (`answerOf`), and an evaluation has the same
result or error from every sound cache (`Evaluation.answer`). The answer of
two steps is that of the second after the answer of the first
(`Evaluation.answer_bind`), so what is proved of answers never speaks of a
cache.
-/

namespace CardQuery

variable {α β : Type} {gap : Nat}

/-- **The answer of a search**: the one that it gives when nothing is
remembered. -/
def answerOf (x : Searching α) : α := (x.run .empty).1

section Agree

variable [PatternCompiler]

/-- What a search gives from every sound cache is its answer. -/
theorem Gives.answerOf_eq {x : Searching α} {a : α} (h : Gives gap x a) : answerOf x = a :=
  (h .empty (.empty gap)).1

/-- A search that agrees with another gives its answer from every sound
cache. -/
theorem Agree.gives {x y : Searching α} (h : Agree gap x y) : Gives gap x (answerOf x) := by
  obtain ⟨a, hx, -⟩ := h
  rwa [hx.answerOf_eq]

/-- Searches that agree have one answer. -/
theorem Agree.answerOf_eq {x y : Searching α} (h : Agree gap x y) : answerOf x = answerOf y := by
  obtain ⟨a, hx, hy⟩ := h
  rw [hx.answerOf_eq, hy.answerOf_eq]

/-- **The answer of one search after another.** -/
theorem answerOf_bind {x : Searching α} {f : α → Searching β} (hx : Agree gap x x)
    (hf : ∀ a, Agree gap (f a) (f a)) : answerOf (x >>= f) = answerOf (f (answerOf x)) :=
  (hx.gives.bind (hf (answerOf x)).gives).answerOf_eq

/-- **A search through a list** that stops at the first success succeeds if any
of its steps does. -/
theorem answerOf_any {test : α → Searching Bool} {search : List α → Searching Bool}
    (hnil : search [] = Pure.pure false)
    (hcons : ∀ a rest, search (a :: rest)
      = test a >>= fun found => if found then Pure.pure true else search rest)
    (htest : ∀ a, Agree gap (test a) (test a)) (items : List α) :
    Agree gap (search items) (search items) ∧
      answerOf (search items) = items.any fun a => answerOf (test a) := by
  induction items with
  | nil =>
    rw [hnil]
    exact ⟨.pure false, rfl⟩
  | cons a rest ih =>
    obtain ⟨hagree, hanswer⟩ := ih
    have hstep : ∀ found : Bool,
        Agree gap (if found then Pure.pure true else search rest)
          (if found then Pure.pure true else search rest) := by
      intro found
      cases found with
      | true => exact .pure true
      | false => exact hagree
    rw [hcons]
    refine ⟨(htest a).bind hstep, ?_⟩
    rw [answerOf_bind (htest a) hstep, List.any_cons]
    cases answerOf (test a) with
    | true => rfl
    | false => exact hanswer

end Agree

/-- Two steps give a result if both do. -/
theorem EvalError.bind_eq_ok {x : Except EvalError α} {f : α → Except EvalError β} {b : β} :
    (x >>= f) = .ok b ↔ ∃ a, x = .ok a ∧ f a = .ok b := by
  cases x with
  | error e =>
    constructor
    · intro h
      have herror : (Except.error e : Except EvalError β) = .ok b := h
      cases herror
    · rintro ⟨a, ha, -⟩
      cases ha
  | ok a =>
    constructor
    · intro h
      exact ⟨a, rfl, h⟩
    · rintro ⟨_, ⟨⟩, h⟩
      exact h

/-- Two steps fail if the first one does, or the second one on its result. -/
theorem EvalError.bind_eq_error {x : Except EvalError α} {f : α → Except EvalError β}
    {e : EvalError} :
    (x >>= f) = .error e ↔ x = .error e ∨ ∃ a, x = .ok a ∧ f a = .error e := by
  cases x with
  | error e' =>
    constructor
    · intro h
      have herror : (Except.error e' : Except EvalError β) = .error e := h
      cases herror
      exact .inl rfl
    · rintro (h | ⟨a, ha, -⟩)
      · cases h
        rfl
      · cases ha
  | ok a =>
    constructor
    · intro h
      exact .inr ⟨a, rfl, h⟩
    · rintro (h | ⟨_, ⟨⟩, h⟩)
      · cases h
      · exact h

/-- **The answer of an evaluation**: its result or its error. -/
def Evaluation.answer (x : Evaluation α) : Except EvalError α := answerOf x.run

namespace Evaluation

/-- **The answer of one evaluation after another.** -/
theorem answer_bind [PatternCompiler] {x : Evaluation α} {f : α → Evaluation β}
    (hx : EvalAgree gap x x) (hf : ∀ a, EvalAgree gap (f a) (f a)) :
    (x >>= f).answer = x.answer >>= fun a => (f a).answer := by
  have hbind : (x >>= f).answer
      = answerOf (ExceptT.bindCont (m := Searching) f x.answer) :=
    @answerOf_bind (Except EvalError α) (Except EvalError β) gap _ x _ hx (EvalAgree.bindCont hf)
  rw [hbind]
  cases x.answer <;> rfl

/-- **One evaluation after another** from a given cache. An error ends both, and
what was remembered before it stays remembered. -/
theorem run_bind (x : Evaluation α) (f : α → Evaluation β) (c : Cache) :
    (x >>= f).run.run c = match x.run.run c with
      | (.ok a, c) => (f a).run.run c
      | (.error e, c) => (.error e, c) := by
  rw [ExceptT.run_bind, StateT.run_bind]
  generalize x.run.run c = step
  obtain ⟨_ | a, c⟩ := step <;> rfl

/-- A search that is part of an evaluation gives its answer. -/
theorem answer_ofSearch (x : Searching α) : (ofSearch x).answer = .ok (answerOf x) := rfl

end Evaluation

/-! ## Equality -/

namespace Equality

variable [PatternCompiler] (options : SearchOptions) (mode : EqualityMode) (type : Option FieldType)

/-- A value is equal to one of several if it is to any. -/
theorem answerOf_scalarWithAny (left : Value) (items : List Value) :
    answerOf (scalarWithAny options mode type left items)
      = items.any fun v => answerOf (scalarWith options mode type left v) :=
  (answerOf_any rfl (fun _ _ => rfl) (fun v => scalarWith_agree mode type left v) items).2

/-- One of several values is equal to a value if any is. -/
theorem answerOf_anyWith (right : Value) (items : List Value) :
    answerOf (anyWith options mode type right items)
      = items.any fun v => answerOf (values options mode type right v) :=
  (answerOf_any rfl (fun _ _ => rfl) (fun v => values_agree mode type right v) items).2

end Equality

/-! ## Evaluation -/

/-- Whether an operator joins two conditions. -/
def Operator.isJunction : Operator → Bool
  | .and | .or => true
  | _ => false

/-- Whether a node joins two conditions. -/
def Expr.isJunction : Expr → Bool
  | .binary op _ _ _ => op.isJunction
  | _ => false

/-- Whether a node, as a condition, is not made of other conditions. -/
def Expr.isAtom : Expr → Bool
  | .group _ _ => false
  | e => !e.isJunction

namespace Scope

variable {Card Context : Type} [PatternCompiler] (s : Scope Card Context)

/-- An operand is equal to one of some operands if it is to any. -/
theorem answerOf_anyEqual (mode : EqualityMode) (type : Option FieldType) (l : Operand)
    (rs : List Operand) :
    answerOf (s.anyEqual mode type l rs)
      = rs.any fun r => answerOf (s.operandsEqual mode type l r) :=
  (answerOf_any rfl (fun _ _ => rfl)
    (fun r => s.operandsEqual_agree s.options.capacity mode type l r) rs).2

variable (card : Card)

theorem answer_operands_cons (e : Expr) (es : List Expr) :
    (s.operands card (e :: es)).answer = do
      let first ← (s.operand card e).answer
      let others ← (s.operands card es).answer
      return first :: others := by
  have hothers := s.operands_agree s.options.capacity card es
  rw [operands, Evaluation.answer_bind (s.operand_agree s.options.capacity card e) fun first =>
    EvalAgree.bind hothers fun others => .pure (first :: others)]
  refine bind_congr fun first => ?_
  exact Evaluation.answer_bind hothers fun others => .pure (first :: others)

theorem answer_compares (mode : EqualityMode) (negated : Bool) (type : Option FieldType)
    (left right : Expr) :
    (s.compares card mode negated type left right).answer = do
      let l ← (s.operand card left).answer
      let r ← (s.operand card right).answer
      return answerOf (s.operandsEqual mode type l r) != negated := by
  have hequal : ∀ l r, EvalAgree s.options.gap
      (do return (← Evaluation.ofSearch (s.operandsEqual mode type l r)) != negated)
      (do return (← Evaluation.ofSearch (s.operandsEqual mode type l r)) != negated) :=
    fun l r => EvalAgree.bind (.ofSearch (s.operandsEqual_agree s.options.capacity mode type l r))
      fun equal => .pure (equal != negated)
  have hright := s.operand_agree s.options.capacity card right
  rw [compares, Evaluation.answer_bind (s.operand_agree s.options.capacity card left) fun l =>
    EvalAgree.bind hright (hequal l)]
  refine bind_congr fun l => ?_
  rw [Evaluation.answer_bind hright (hequal l)]
  exact bind_congr fun r => Evaluation.answer_bind
    (.ofSearch (s.operandsEqual_agree s.options.capacity mode type l r)) fun equal =>
      .pure (equal != negated)

theorem answer_isMember_list (mode : EqualityMode) (negated : Bool) (type : Option FieldType)
    (left : Expr) (elements : List Expr) (span : Span) :
    (s.isMember card mode negated type left (.list elements span)).answer = do
      let l ← (s.operand card left).answer
      let rs ← (s.operands card elements).answer
      return (rs.any fun r => answerOf (s.operandsEqual mode type l r)) != negated := by
  have hfound : ∀ l rs, EvalAgree s.options.gap
      (do return (← Evaluation.ofSearch (s.anyEqual mode type l rs)) != negated)
      (do return (← Evaluation.ofSearch (s.anyEqual mode type l rs)) != negated) :=
    fun l rs => EvalAgree.bind (.ofSearch (s.anyEqual_agree s.options.capacity mode type l rs))
      fun found => .pure (found != negated)
  have helements := s.operands_agree s.options.capacity card elements
  rw [isMember, Evaluation.answer_bind (s.operand_agree s.options.capacity card left) fun l =>
    EvalAgree.bind helements (hfound l)]
  refine bind_congr fun l => ?_
  rw [Evaluation.answer_bind helements (hfound l)]
  refine bind_congr fun rs => ?_
  rw [← answerOf_anyEqual]
  exact Evaluation.answer_bind
    (.ofSearch (s.anyEqual_agree s.options.capacity mode type l rs)) fun found =>
      .pure (found != negated)

/-- A regular expression is the pattern that its text makes, if it makes one. -/
theorem answer_operand_regex (source : String) (span : Span) :
    (s.operand card (.literal (.regex source) span)).answer
      = match Cache.compile? source with
        | some p => .ok (.pattern p)
        | none => .error (.invalidRegex source) := by
  have hlookup : @Gives _ (Option Pattern) s.options.gap
      (Cache.literal? s.options.capacity source) (Cache.compile? source) :=
    fun _ hc => hc.literal? s.options.capacity source
  have hcompile : (s.compile source).answer = match Cache.compile? source with
      | some p => .ok p
      | none => .error (.invalidRegex source) := by
    refine (Evaluation.answer_bind (.ofSearch ⟨_, hlookup, hlookup⟩) fun found => ?_).trans ?_
    · cases found with
      | none => exact .throw (.invalidRegex source)
      | some p => exact .pure p
    · rw [Evaluation.answer_ofSearch, hlookup.answerOf_eq]
      cases Cache.compile? source <;> rfl
  rw [operand, Evaluation.answer_bind (s.compile_agree s.options.capacity source) fun p =>
    .pure (Operand.pattern p), hcompile]
  cases Cache.compile? source <;> rfl

omit [PatternCompiler] in
/-- The answer of an operand that is a value. -/
theorem answer_value (r : Except EvalError Value) :
    (do return Operand.value (← Evaluation.ofExcept r) : Evaluation Operand).answer
      = r >>= fun v => .ok (.value v) := by
  cases r <;> rfl

/-- Membership in anything but a list is an error. -/
theorem exists_list_of_answer_isMember {mode : EqualityMode} {negated : Bool}
    {type : Option FieldType} {left right : Expr} {b : Bool}
    (h : (s.isMember card mode negated type left right).answer = .ok b) :
    ∃ elements span, right = .list elements span := by
  have hleft := s.operand_agree s.options.capacity card left
  cases right with
  | list elements span => exact ⟨elements, span, rfl⟩
  | _ =>
    rw [isMember, Evaluation.answer_bind hleft fun l => .throw .expectedList,
      EvalError.bind_eq_ok] at h
    obtain ⟨l, -, hthrow⟩ := h
    cases hthrow

/-- The answer of a field that stands for a condition. -/
theorem answer_holds_identifier (name : String) (span : Span) :
    (s.holds card (.identifier name span)).answer
      = s.lookup card name >>= fun v => .ok v.isTruthy := by
  rw [holds]
  cases s.lookup card name <;> rfl

/-- **The answer of a condition with an operator** at its top. -/
theorem answer_holds_binary (op : Operator) (left right : Expr) (span : Span) :
    (s.holds card (.binary op left right span)).answer = (do
      let type ← s.commonType left right
      match op with
      | .and =>
        let l ← (s.holds card left).answer
        if l then (s.holds card right).answer else return false
      | .or =>
        let l ← (s.holds card left).answer
        if l then return true else (s.holds card right).answer
      | .equality mode negated => (s.compares card mode negated type left right).answer
      | .membership mode negated => (s.isMember card mode negated type left right).answer
      | .relation r => s.related card r left right
      | .arithmetic op => s.computesTruth card op left right) := by
  have hleft := s.holds_agree s.options.capacity card left
  have hright := s.holds_agree s.options.capacity card right
  rw [holds]
  cases htype : s.commonType left right with
  | error e => rfl
  | ok type =>
    show Evaluation.answer (match op with
      | .and => do if ← s.holds card left then s.holds card right else return false
      | .or => do if ← s.holds card left then return true else s.holds card right
      | .equality mode negated => s.compares card mode negated type left right
      | .membership mode negated => s.isMember card mode negated type left right
      | .relation r => Evaluation.ofExcept (s.related card r left right)
      | .arithmetic op => Evaluation.ofExcept (s.computesTruth card op left right)) = _
    cases op with
    | and =>
      refine (Evaluation.answer_bind hleft fun l => ?_).trans (bind_congr fun l => ?_)
      · cases l with
        | true => exact hright
        | false => exact .pure false
      · cases l <;> rfl
    | or =>
      refine (Evaluation.answer_bind hleft fun l => ?_).trans (bind_congr fun l => ?_)
      · cases l with
        | true => exact .pure true
        | false => exact hright
      · cases l <;> rfl
    | _ => rfl

/-! ## Conditions that go on to hold -/

/-- Whether a condition that holds in one scope holds in another too, if it has
an answer there. -/
def KeepsTruth (t : Scope Card Context) (e : Expr) : Prop :=
  (s.holds card e).answer = .ok true → ∀ b, (t.holds card e).answer = .ok b → b = true

variable {s card} in
/-- **A condition goes on to hold if its atoms do.** Groups and the operators
that join conditions add nothing that could be lost. -/
theorem keepsTruth_of_atoms {t : Scope Card Context} {e : Expr} (depth : Nat)
    (hatoms : ∀ node ∈ e.nodesFrom depth, node.2.isAtom = true → s.KeepsTruth card t node.2) :
    s.KeepsTruth card t e := by
  induction e generalizing depth with
  | literal v span => exact hatoms (depth, _) List.mem_cons_self rfl
  | identifier name span => exact hatoms (depth, _) List.mem_cons_self rfl
  | list es span ih => exact hatoms (depth, _) List.mem_cons_self rfl
  | group body span ih => exact ih (depth + 1) (List.forall_mem_cons.mp hatoms).2
  | binary op l r span ihl ihr =>
    obtain ⟨hself, hrest⟩ := List.forall_mem_cons.mp hatoms
    obtain ⟨hatomsl, hatomsr⟩ := List.forall_mem_append.mp hrest
    cases op with
    | and =>
      intro h b h'
      rw [answer_holds_binary, EvalError.bind_eq_ok] at h h'
      obtain ⟨_, -, h⟩ := h
      obtain ⟨_, -, h'⟩ := h'
      obtain ⟨left, hleft, h⟩ := EvalError.bind_eq_ok.mp h
      obtain ⟨left', hleft', h'⟩ := EvalError.bind_eq_ok.mp h'
      cases left with
      | false => cases h
      | true =>
        obtain rfl := ihl (depth + 1) hatomsl hleft left' hleft'
        exact ihr (depth + 1) hatomsr h b h'
    | or =>
      intro h b h'
      rw [answer_holds_binary, EvalError.bind_eq_ok] at h h'
      obtain ⟨_, -, h⟩ := h
      obtain ⟨_, -, h'⟩ := h'
      obtain ⟨left, hleft, h⟩ := EvalError.bind_eq_ok.mp h
      obtain ⟨left', hleft', h'⟩ := EvalError.bind_eq_ok.mp h'
      cases left' with
      | true => exact (Except.ok.inj h').symm
      | false =>
        cases left with
        | true => cases ihl (depth + 1) hatomsl hleft false hleft'
        | false => exact ihr (depth + 1) hatomsr h b h'
    | _ => exact hself rfl

end Scope

/-- **What a matcher says of a card** is the answer to the query, whatever it
was asked before and however much it remembers. -/
theorem Matcher.Of.matchCard_eq [PatternCompiler] {Card Context : Type} {s : Scope Card Context}
    {m : Matcher Card Context} (h : Matcher.Of s m) (query : Expr) (card : Card) :
    (m.matchCard query card).1 = (s.holds card query).answer := by
  obtain ⟨rfl, hsound⟩ := h
  have hagree : @Agree _ (Except EvalError Bool) m.scope.options.gap (m.scope.holds card query)
      (m.scope.holds card query) := m.scope.holds_agree m.scope.options.capacity card query
  exact (hagree.gives m.cache hsound).1

end CardQuery
