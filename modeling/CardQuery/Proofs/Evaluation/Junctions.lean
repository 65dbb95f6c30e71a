import CardQuery.Proofs.Evaluation.Sense

/-!
# The check that every operator makes

Two fields of different types are not to be compared, so a comparison looks at
the types of its operands before it evaluates them. The operators `&` and `|`
compare nothing, and neither does arithmetic. What they say of a card should be
told by their operands alone: the answers of both sides in the one case
(`Matcher.conjunction`, `Matcher.disjunction`), and in the other the value that
the same operation has where a value is expected.

But all operators make the same check. Where it fails, the operator fails,
whatever its operands would have given. The check does not show if there is
nothing to find, or if what it finds would have been found without it
(`Scope.CheckIsSilent`), and these are exactly the cases in which an operator
that compares nothing says what its operands do
(`Matcher.matchCard_eq_of_operands_iff`).
-/

namespace CardQuery

namespace Scope

variable {Card Context : Type} (s : Scope Card Context)

/-! ## What the check finds -/

variable {s} in
/-- The check finds names that no field has, and so does every look at a card. -/
theorem exists_of_typeOf_eq_error {expr : Expr} {e : EvalError} (h : s.typeOf expr = .error e) :
    ∃ name span, expr = .identifier name span ∧ ∀ card, s.lookup card name = .error e := by
  cases expr with
  | identifier name span =>
    refine ⟨name, span, rfl, fun card => ?_⟩
    cases hget : s.fields.get? name with
    | none =>
      rw [typeOf, Registry.fieldType?, hget] at h
      cases h
      rw [lookup, hget]
    | some f =>
      rw [typeOf, Registry.fieldType?, hget] at h
      cases h
  | _ => cases h

variable {s} in
/-- Only a field has a type, and every card has a value of it. -/
theorem exists_of_typeOf_eq_some {expr : Expr} {t : FieldType}
    (h : s.typeOf expr = .ok (some t)) :
    ∃ name span, expr = .identifier name span ∧ ∀ card, ∃ v, s.lookup card name = .ok v := by
  cases expr with
  | identifier name span =>
    refine ⟨name, span, rfl, fun card => ?_⟩
    cases hget : s.fields.get? name with
    | none =>
      rw [typeOf, Registry.fieldType?, hget] at h
      cases h
    | some f => exact ⟨f.lookup card s.context, by rw [lookup, hget]⟩
  | _ => cases h

/-- **What the check of two operands finds**: a name that no field has, the left
one first, or two fields of different types. -/
theorem commonType_eq_error_iff {left right : Expr} {e : EvalError} :
    s.commonType left right = .error e ↔
      s.typeOf left = .error e ∨
      (∃ type, s.typeOf left = .ok type ∧ s.typeOf right = .error e) ∨
      ∃ t u, s.typeOf left = .ok (some t) ∧ s.typeOf right = .ok (some u) ∧ t ≠ u ∧
        e = .typeMismatch t u := by
  rw [commonType, EvalError.bind_eq_error]
  refine or_congr_right ⟨?_, ?_⟩
  · rintro ⟨l, hl, h⟩
    rcases EvalError.bind_eq_error.mp h with hr | ⟨r, hr, h⟩
    · exact .inl ⟨l, hl, hr⟩
    · split at h
      · split at h
        · cases h
        · next hne =>
          cases h
          exact .inr ⟨_, _, hl, hr, hne, rfl⟩
      · cases h
  · rintro (⟨l, hl, hr⟩ | ⟨t, u, hl, hr, hne, rfl⟩)
    · exact ⟨l, hl, EvalError.bind_eq_error.mpr (.inl hr)⟩
    · exact ⟨_, hl, EvalError.bind_eq_error.mpr (.inr ⟨_, hr, if_neg hne⟩)⟩

/-- **Whether the check of types does not show** at an operator. It shows at two
fields of different types. At a right operand that is a name which no field has
it does not show if the operator would have come to that name, or to the same
error before it. -/
structure CheckIsSilent (left right : Expr) (comesTo : EvalError → Prop) : Prop where
  types : ∀ t u, s.typeOf left = .ok (some t) → s.typeOf right = .ok (some u) → t = u
  names : ∀ type e, s.typeOf left = .ok type → s.typeOf right = .error e → comesTo e

variable {s} in
/-- **A check that comes first** leaves what there would be without it as it is
exactly where it is silent. For this a name on the left that no field has must be
found without the check too, and two different types must not be. -/
theorem check_bind_eq_iff {left right : Expr} {plain : Except EvalError Bool}
    {comesTo : EvalError → Prop} (hleft : ∀ e, s.typeOf left = .error e → plain = .error e)
    (hright : ∀ type e, s.typeOf left = .ok type → s.typeOf right = .error e →
      (plain = .error e ↔ comesTo e))
    (htypes : ∀ t u, s.typeOf left = .ok (some t) → s.typeOf right = .ok (some u) →
      plain ≠ .error (.typeMismatch t u)) :
    (s.commonType left right >>= fun _ => plain) = plain ↔
      s.CheckIsSilent left right comesTo := by
  have hsilent : (s.commonType left right >>= fun _ => plain) = plain ↔
      ∀ e, s.commonType left right = .error e → plain = .error e := by
    cases hcheck : s.commonType left right with
    | ok type => exact iff_of_true rfl fun e h => by cases h
    | error e =>
      constructor
      · rintro h e' ⟨⟩
        exact h.symm
      · exact fun h => (h e rfl).symm
  rw [hsilent]
  constructor
  · intro h
    refine ⟨fun t u ht hu => ?_, fun type e htype he => ?_⟩
    · refine Classical.byContradiction fun hne => htypes t u ht hu ?_
      exact h _ (s.commonType_eq_error_iff.mpr (.inr (.inr ⟨t, u, ht, hu, hne, rfl⟩)))
    · refine (hright type e htype he).mp (h e ?_)
      exact s.commonType_eq_error_iff.mpr (.inr (.inl ⟨type, htype, he⟩))
  · intro h e he
    rcases s.commonType_eq_error_iff.mp he with he | ⟨type, htype, he⟩ | ⟨t, u, ht, hu, hne, -⟩
    · exact hleft e he
    · exact (hright type e htype he).mpr (h.names type e htype he)
    · exact absurd (h.types t u ht hu) hne

/-! ## Arithmetic -/

/-- The number that an operand stands for, if any. -/
def number (card : Card) (e : Expr) : Except EvalError (Option Float) :=
  s.value card e >>= Value.toNumber

theorem number_identifier (card : Card) (name : String) (span : Span) :
    s.number card (.identifier name span) = s.lookup card name >>= Value.toNumber := by
  rw [number, value]

theorem numbers_eq_bind (card : Card) (left right : Expr) :
    s.numbers card left right
      = s.number card left >>= fun x => s.number card right >>= fun y => .ok (x, y) := by
  simp only [numbers, number, bind_assoc]
  rfl

/-- **The truth of an operation's value.** -/
def truthOfValue (card : Card) (e : Expr) : Except EvalError Bool :=
  (s.value card e).map Value.isTruthy

/-- Where a condition is expected an operation gives the truth of its value. -/
theorem truthOfValue_arithmetic (card : Card) (op : Arithmetic) (left right : Expr) (span : Span) :
    s.truthOfValue card (.binary (.arithmetic op) left right span)
      = s.computesTruth card op left right := by
  rw [truthOfValue, value_arithmetic, computesTruth]
  cases s.numbers card left right with
  | error e => rfl
  | ok p =>
    obtain ⟨_ | x, _ | y⟩ := p
    · rfl
    · rfl
    · rfl
    · show (op.apply x y >>= fun z => .ok (.number z)).map Value.isTruthy
        = (op.apply x y >>= fun z => .ok (Number.isTruthy z))
      cases op.apply x y <;> rfl

variable {s} in
/-- An operand that has no number ends the operation. -/
theorem computesTruth_of_error {card : Card} {left : Expr} {e : EvalError}
    (h : s.number card left = .error e) (op : Arithmetic) (right : Expr) :
    s.computesTruth card op left right = .error e := by
  rw [computesTruth, numbers_eq_bind, h]
  rfl

variable {s} in
theorem computesTruth_of_error_right {card : Card} {left right : Expr} {x : Option Float}
    {e : EvalError} (hleft : s.number card left = .ok x) (hright : s.number card right = .error e)
    (op : Arithmetic) : s.computesTruth card op left right = .error e := by
  rw [computesTruth, numbers_eq_bind, hleft, hright]
  rfl

variable {s} in
/-- An operation on two values fails on account of the card only. -/
theorem isOfCard_of_computesTruth {card : Card} {op : Arithmetic} {left right : Expr} {v w : Value}
    {e : EvalError} (hv : s.value card left = .ok v) (hw : s.value card right = .ok w)
    (h : s.computesTruth card op left right = .error e) : e.isOfCard = true := by
  rw [computesTruth, numbers_eq_bind, number, number, hv, hw] at h
  rcases EvalError.bind_eq_error.mp h with h | ⟨p, -, h⟩
  · rcases EvalError.bind_eq_error.mp h with h | ⟨x, -, h⟩
    · exact Value.isOfCard_of_toNumber h
    · rcases EvalError.bind_eq_error.mp h with h | ⟨y, -, h⟩
      · exact Value.isOfCard_of_toNumber h
      · cases h
  · obtain ⟨_ | x, _ | y⟩ := p
    · cases h
    · cases h
    · cases h
    · exact Arithmetic.isOfCard_of_apply_bind h

end Scope

/-! ## What the operators should say -/

namespace Matcher

section Operands

variable {Card Context : Type} [PatternCompiler] (m : Matcher Card Context) (left right : Expr)
  (card : Card)

/-- **What two sides say together**: the left one is asked, and the right one only
where the left one gives the answer that decides nothing. -/
def askBoth (goesOn : Bool) : Except EvalError Bool × Matcher Card Context :=
  match m.matchCard left card with
  | (.ok answer, m) => if answer = goesOn then m.matchCard right card else (.ok answer, m)
  | (.error e, m) => (.error e, m)

/-- **The conjunction of two sides**, the right one asked where the left one
holds. -/
def conjunction : Except EvalError Bool × Matcher Card Context := m.askBoth left right card true

/-- **The disjunction of two sides**, the right one asked where the left one does
not hold. -/
def disjunction : Except EvalError Bool × Matcher Card Context := m.askBoth left right card false

/-- What the check makes of what an operator would say without it. -/
def checked (plain : Except EvalError Bool × Matcher Card Context) :
    Except EvalError Bool × Matcher Card Context :=
  match m.scope.commonType left right with
  | .ok _ => plain
  | .error e => (.error e, m)

omit [PatternCompiler] in
theorem fst_checked (plain : Except EvalError Bool × Matcher Card Context) :
    (m.checked left right plain).1 = m.scope.commonType left right >>= fun _ => plain.1 := by
  unfold checked
  cases m.scope.commonType left right <;> rfl

theorem matchCard_identifier (name : String) (span : Span) :
    m.matchCard (.identifier name span) card
      = ((m.scope.lookup card name).map Value.isTruthy, m) := by
  unfold matchCard
  rw [Scope.holds]
  cases m.scope.lookup card name <;> rfl

/-- The operator that goes on to its right side where the left one gives an
answer. -/
def junction (goesOn : Bool) : Operator := if goesOn then .and else .or

/-- **What `&` and `|` say** is what their sides say together, behind the
check. -/
theorem matchCard_junction (goesOn : Bool) (span : Span) :
    m.matchCard (.binary (junction goesOn) left right span) card
      = m.checked left right (m.askBoth left right card goesOn) := by
  have hholds : m.scope.holds card (.binary (junction goesOn) left right span)
      = Evaluation.ofExcept (m.scope.commonType left right) >>= fun _ =>
        m.scope.holds card left >>= fun answer =>
          if answer = goesOn then m.scope.holds card right else return answer := by
    rw [Scope.holds]
    refine bind_congr fun _ => ?_
    cases goesOn <;> exact bind_congr fun answer => by cases answer <;> rfl
  unfold matchCard checked askBoth
  rw [hholds]
  cases m.scope.commonType left right with
  | error e => rfl
  | ok type =>
    show (fun step : Except EvalError Bool × Cache => (step.1, Matcher.mk m.scope step.2))
      ((m.scope.holds card left >>= _).run.run m.cache) = _
    rw [Evaluation.run_bind]
    unfold matchCard
    generalize (m.scope.holds card left).run.run m.cache = step
    obtain ⟨_ | answer, c⟩ := step
    · rfl
    · dsimp only
      by_cases h : answer = goesOn
      · rw [if_pos h, if_pos h]
        rfl
      · rw [if_neg h, if_neg h]
        rfl

/-- **What an operation says** is the truth of its value, behind the check. -/
theorem matchCard_arithmetic (op : Arithmetic) (span : Span) :
    m.matchCard (.binary (.arithmetic op) left right span) card
      = m.checked left right
        (m.scope.truthOfValue card (.binary (.arithmetic op) left right span), m) := by
  rw [Scope.truthOfValue_arithmetic]
  unfold matchCard checked
  rw [Scope.holds]
  cases m.scope.commonType left right <;> rfl

/-! ## When they say it -/

section Ask

variable {m left right card} {goesOn : Bool}

theorem askBoth_of_error {e : EvalError} (h : (m.matchCard left card).1 = .error e) :
    (m.askBoth left right card goesOn).1 = .error e := by
  unfold askBoth
  generalize m.matchCard left card = step at h ⊢
  obtain ⟨result, n⟩ := step
  obtain rfl : result = .error e := h
  rfl

/-- What is said where the right side fails whatever is remembered. -/
theorem askBoth_eq_error_iff {e : EvalError}
    (h : ∀ n : Matcher Card Context, n.scope = m.scope → (n.matchCard right card).1 = .error e) :
    (m.askBoth left right card goesOn).1 = .error e ↔
      (m.matchCard left card).1 = .ok goesOn ∨ (m.matchCard left card).1 = .error e := by
  have hscope : (m.matchCard left card).2.scope = m.scope := rfl
  unfold askBoth
  generalize m.matchCard left card = step at hscope ⊢
  obtain ⟨e' | answer, n⟩ := step
  · simp
  · dsimp only
    by_cases hanswer : answer = goesOn
    · rw [if_pos hanswer, h n hscope, hanswer]
      simp
    · rw [if_neg hanswer]
      simp [hanswer]

end Ask

variable {m left right card} in
/-- Two fields are never of the wrong type for what they say together. -/
theorem askBoth_ne_typeMismatch {goesOn : Bool} {t u : FieldType}
    (ht : m.scope.typeOf left = .ok (some t)) (hu : m.scope.typeOf right = .ok (some u)) :
    (m.askBoth left right card goesOn).1 ≠ .error (.typeMismatch t u) := by
  obtain ⟨name, span, rfl, hv⟩ := Scope.exists_of_typeOf_eq_some ht
  obtain ⟨name', span', rfl, hw⟩ := Scope.exists_of_typeOf_eq_some hu
  obtain ⟨v, hv⟩ := hv card
  obtain ⟨w, hw⟩ := hw card
  intro h
  rw [askBoth, matchCard_identifier, hv] at h
  dsimp only [Except.map] at h
  split at h
  · rw [matchCard_identifier, hw] at h
    cases h
  · cases h

/-- `&` and `|` say what their sides say together where the check does not show:
what it finds on the right is found without it if the left side goes on to the
right one, or fails in the same way before. -/
theorem matchCard_junction_eq_iff (goesOn : Bool) (span : Span) :
    (m.matchCard (.binary (junction goesOn) left right span) card).1
        = (m.askBoth left right card goesOn).1 ↔
      m.scope.CheckIsSilent left right fun e =>
        (m.matchCard left card).1 = .ok goesOn ∨ (m.matchCard left card).1 = .error e := by
  rw [matchCard_junction, fst_checked]
  refine Scope.check_bind_eq_iff (fun e he => ?_) (fun _ e _ he => ?_)
    fun t u ht hu => askBoth_ne_typeMismatch ht hu
  · obtain ⟨name, span, rfl, hname⟩ := Scope.exists_of_typeOf_eq_error he
    refine askBoth_of_error ?_
    rw [matchCard_identifier, hname]
    rfl
  · obtain ⟨name, span, rfl, hname⟩ := Scope.exists_of_typeOf_eq_error he
    refine askBoth_eq_error_iff fun n hn => ?_
    rw [matchCard_identifier, hn, hname]
    rfl

/-- An operation says what its value does where the check does not show: what it
finds on the right is found without it if the left operand has a number or
nothing, or fails in the same way before. -/
theorem matchCard_arithmetic_eq_iff (op : Arithmetic) (span : Span) :
    (m.matchCard (.binary (.arithmetic op) left right span) card).1
        = m.scope.truthOfValue card (.binary (.arithmetic op) left right span) ↔
      m.scope.CheckIsSilent left right fun e =>
        (∃ x, m.scope.number card left = .ok x) ∨ m.scope.number card left = .error e := by
  rw [matchCard_arithmetic, fst_checked]
  dsimp only
  rw [Scope.truthOfValue_arithmetic]
  refine Scope.check_bind_eq_iff (fun e he => ?_) (fun _ e _ he => ?_) fun t u ht hu h => ?_
  · obtain ⟨name, span, rfl, hname⟩ := Scope.exists_of_typeOf_eq_error he
    refine Scope.computesTruth_of_error ?_ op right
    rw [Scope.number_identifier, hname]
    rfl
  · obtain ⟨name, span, rfl, hname⟩ := Scope.exists_of_typeOf_eq_error he
    have hright : m.scope.number card (.identifier name span) = .error e := by
      rw [Scope.number_identifier, hname]
      rfl
    cases hleft : m.scope.number card left with
    | error e' =>
      rw [Scope.computesTruth_of_error hleft]
      simp
    | ok x =>
      rw [Scope.computesTruth_of_error_right hleft hright]
      simp
  · -- Two fields have values, and what an operation on values can fail with is
    -- never a matter of types.
    obtain ⟨name, span, rfl, hv⟩ := Scope.exists_of_typeOf_eq_some ht
    obtain ⟨name', span', rfl, hw⟩ := Scope.exists_of_typeOf_eq_some hu
    obtain ⟨v, hv⟩ := hv card
    obtain ⟨w, hw⟩ := hw card
    cases Scope.isOfCard_of_computesTruth (v := v) (w := w)
      (by rw [Scope.value, hv]) (by rw [Scope.value, hw]) h

/-- **The operators that compare nothing** say what their operands do exactly where
the check does not show: `&` and `|` what their sides say together, and arithmetic
the truth of its value. -/
theorem matchCard_eq_of_operands_iff (span : Span) :
    ((m.matchCard (.binary .and left right span) card).1 = (m.conjunction left right card).1 ↔
      m.scope.CheckIsSilent left right fun e =>
        (m.matchCard left card).1 = .ok true ∨ (m.matchCard left card).1 = .error e) ∧
    ((m.matchCard (.binary .or left right span) card).1 = (m.disjunction left right card).1 ↔
      m.scope.CheckIsSilent left right fun e =>
        (m.matchCard left card).1 = .ok false ∨ (m.matchCard left card).1 = .error e) ∧
    ∀ op, ((m.matchCard (.binary (.arithmetic op) left right span) card).1
        = m.scope.truthOfValue card (.binary (.arithmetic op) left right span) ↔
      m.scope.CheckIsSilent left right fun e =>
        (∃ x, m.scope.number card left = .ok x) ∨ m.scope.number card left = .error e) :=
  ⟨m.matchCard_junction_eq_iff left right card true span,
    m.matchCard_junction_eq_iff left right card false span,
    fun op => m.matchCard_arithmetic_eq_iff left right card op span⟩

end Operands

/-- A number and a text that both sides of `&` and `|` hold of, and that have a
difference, are of different types for all three operators; and a name that no
field has is found behind a side that decides. -/
theorem matchCard_ne_of_operands :
    let fields : Registry (Value × Value) Unit :=
      (Registry.empty.insert "cost" ⟨.number, fun card _ => card.1⟩).insert "size"
        ⟨.string, fun card _ => card.2⟩
    let m : Matcher (Value × Value) Unit := fresh ⟨fields, (), .standard⟩
    let cost : Expr := .identifier "cost" (.point .start)
    let size : Expr := .identifier "size" (.point .start)
    let color : Expr := .identifier "color" (.point .start)
    let card : Value × Value := (.number 3, .string "2")
    let outcome (op : Operator) (left right : Expr) : Except EvalError Bool :=
      (m.matchCard (.binary op left right (.point .start)) card).1
    ((m.conjunction cost size card).1 = .ok true ∧
        outcome .and cost size = .error (.typeMismatch .number .string)) ∧
      ((m.disjunction cost size card).1 = .ok true ∧
        outcome .or cost size = .error (.typeMismatch .number .string)) ∧
      ((m.disjunction cost color card).1 = .ok true ∧
        outcome .or cost color = .error (.unknownField "color")) ∧
      m.scope.truthOfValue card (.binary (.arithmetic .subtract) cost size (.point .start))
          = .ok true ∧
        outcome (.arithmetic .subtract) cost size = .error (.typeMismatch .number .string) := by
  decide +kernel

end Matcher

end CardQuery
