import CardQuery.Card.Schema
import CardQuery.Proofs.Evaluation.Backs

/-!
# Queries that make sense

Some errors are the card's: a string that stands for no number, a value of
a kind that never does, a zero to divide by. All others are the query's: a
name that no field has, fields of two types side by side, a list or a regular
expression out of place.

A query without `&` and `|` is evaluated from one end to the other on every
card. A number that is missing makes an answer false, but it keeps nothing
from being evaluated. So a single card on which such a query has an answer
shows that there is nothing wrong with the query, and on any other card it
fails on account of that card or not at all (`Matcher.answers_of_answers`).

Two evaluations of one query run side by side in the proof. The first clears
the second (`Clears`) if it has a result only where the second fails on
account of its card. This is kept from one step to the next whatever the
results of the steps are, so nothing need be known about the values of
either card.
-/

namespace CardQuery

/-! ## Errors of the card -/

/-- **Whether an error is the card's** and not the query's. -/
def EvalError.isOfCard : EvalError → Bool
  | .notNumeric _ | .invalidNumericOperand _ | .divisionByZero | .moduloByZero => true
  | _ => false

/-- A string stands for a number, for none, or for nothing that could be one. -/
theorem Value.numberOfText_cases (s : String) :
    (∃ x, numberOfText s = .ok x) ∨ numberOfText s = .error (.notNumeric s) := by
  unfold numberOfText
  split
  · exact .inl ⟨_, rfl⟩
  · exact .inl ⟨_, rfl⟩
  · exact .inl ⟨_, rfl⟩
  · exact .inl ⟨_, rfl⟩
  · split
    · exact .inl ⟨_, rfl⟩
    · exact .inr rfl

/-- A value that has no number is the card's fault. -/
theorem Value.isOfCard_of_toNumber {v : Value} {e : EvalError} (h : v.toNumber = .error e) :
    e.isOfCard = true := by
  cases v with
  | null => cases h
  | number x => cases h
  | boolean b =>
    cases h
    rfl
  | array items =>
    cases h
    rfl
  | string s =>
    rw [toNumber] at h
    rcases numberOfText_cases s with ⟨x, hx⟩ | herror
    · rw [hx] at h
      cases h
    · rw [herror] at h
      cases h
      rfl

/-- Numbers that an operation refuses are the card's fault. -/
theorem Arithmetic.isOfCard_of_apply {op : Arithmetic} {x y : Float} {e : EvalError}
    (h : op.apply x y = .error e) : e.isOfCard = true := by
  cases op with
  | divide | modulo =>
    unfold apply zeroError? at h
    dsimp only at h
    split at h
    · cases h
      rfl
    · cases h
  | _ => cases h

/-! ## One computation beside another -/

/-- **Whether one computation clears another**: if the first gives a result,
the second fails on account of its card only. -/
def Clears {α β : Type} (x : Except EvalError α) (y : Except EvalError β) : Prop :=
  ∀ a, x = .ok a → ∀ e, y = .error e → e.isOfCard = true

namespace Clears

variable {α β γ δ : Type}

/-- A failure clears anything. -/
theorem error (e : EvalError) (y : Except EvalError β) :
    Clears (.error e : Except EvalError α) y := by
  intro a h
  cases h

/-- What fails on account of its card only is cleared by anything. -/
theorem of_isOfCard {x : Except EvalError α} {y : Except EvalError β}
    (h : ∀ e, y = .error e → e.isOfCard = true) : Clears x y :=
  fun _ _ => h

theorem ok (x : Except EvalError α) (b : β) : Clears x (.ok b) :=
  .of_isOfCard fun _ h => by cases h

/-- A computation clears itself. -/
theorem refl (x : Except EvalError α) : Clears x x := by
  intro a ha e he
  rw [ha] at he
  cases he

/-- **One step after another** clears the same steps on the other card, if
each step clears its counterpart whatever the results before it are. -/
theorem bind {x : Except EvalError α} {y : Except EvalError β} {f : α → Except EvalError γ}
    {g : β → Except EvalError δ} (h : Clears x y) (hfg : ∀ a b, Clears (f a) (g b)) :
    Clears (x >>= f) (y >>= g) := by
  intro c hc e he
  obtain ⟨a, ha, hfa⟩ := EvalError.bind_eq_ok.mp hc
  rcases EvalError.bind_eq_error.mp he with hy | ⟨b, -, hgb⟩
  · exact h a ha e hy
  · exact hfg a b c hfa e hgb

/-- A step that has the same result on both cards. -/
theorem bind_same {x : Except EvalError α} {f : α → Except EvalError γ}
    {g : α → Except EvalError δ} (hfg : ∀ a, Clears (f a) (g a)) :
    Clears (x >>= f) (x >>= g) := by
  cases x with
  | error e => exact .error e _
  | ok a => exact hfg a

/-- What is computed from two numbers, if both are there, is cleared if it fails
on account of its card only. -/
theorem numbers {x : Except EvalError α} {f : Float → Float → Except EvalError β} {b : β}
    (hf : ∀ x y e, f x y = .error e → e.isOfCard = true) (p : Option Float × Option Float) :
    Clears x (match p with
      | (some x, some y) => f x y
      | _ => .ok b) := by
  obtain ⟨_ | a, _ | b⟩ := p
  · exact .ok _ _
  · exact .ok _ _
  · exact .ok _ _
  · exact .of_isOfCard (hf a b)

end Clears

/-- What is made of the result of an operation fails as the operation does. -/
theorem Arithmetic.isOfCard_of_apply_bind {α : Type} {op : Arithmetic} {x y : Float}
    {make : Float → α} {e : EvalError}
    (h : (op.apply x y >>= fun z => .ok (make z)) = .error e) : e.isOfCard = true := by
  rcases EvalError.bind_eq_error.mp h with happly | ⟨z, -, hz⟩
  · exact isOfCard_of_apply happly
  · cases hz

/-! ## One query on two cards -/

namespace Scope

variable {Card Context : Type} (s : Scope Card Context) (card card' : Card)

theorem lookup_clears (name : String) : Clears (s.lookup card name) (s.lookup card' name) := by
  unfold lookup
  cases s.fields.get? name with
  | none => exact .error _ _
  | some f => exact .ok _ _

variable {s card card'} in
/-- Both numbers are computed, whether or not the first one is there. -/
theorem numbers_clears {left right : Expr}
    (hleft : Clears (s.value card left) (s.value card' left))
    (hright : Clears (s.value card right) (s.value card' right)) :
    Clears (s.numbers card left right) (s.numbers card' left right) := by
  have hnumber : ∀ v w : Value, Clears v.toNumber w.toNumber := fun _ _ =>
    .of_isOfCard fun _ => Value.isOfCard_of_toNumber
  unfold numbers
  refine hleft.bind fun v w => (hnumber v w).bind fun x y => ?_
  exact hright.bind fun v w => (hnumber v w).bind fun _ _ => .ok _ _

theorem value_clears (e : Expr) : Clears (s.value card e) (s.value card' e) := by
  induction e with
  | literal v span =>
    rw [value, value]
    exact .refl _
  | identifier name span =>
    rw [value, value]
    exact s.lookup_clears card card' name
  | binary op l r span ihl ihr =>
    cases op with
    | arithmetic op =>
      rw [value_arithmetic, value_arithmetic]
      exact (numbers_clears ihl ihr).bind fun _ q => .numbers
        (fun _ _ _ => Arithmetic.isOfCard_of_apply_bind) q
    | _ =>
      rw [value]
      · exact .error _ _
      · exact fun _ h => by cases h
  | group body span ih =>
    rw [value, value]
    exact ih
  | list es span ih =>
    rw [value]
    exact .error _ _

theorem valueOperand_clears (e : Expr) :
    Clears (do return Operand.value (← Evaluation.ofExcept (s.value card e))
        : Evaluation Operand).answer
      (do return Operand.value (← Evaluation.ofExcept (s.value card' e))
        : Evaluation Operand).answer := by
  rw [answer_value, answer_value]
  exact (s.value_clears card card' e).bind fun _ _ => .ok _ _

variable [PatternCompiler]

theorem operand_clears (e : Expr) :
    Clears (s.operand card e).answer (s.operand card' e).answer := by
  induction e with
  | group body span ih => exact ih
  | literal v span =>
    cases v with
    | regex source => exact .refl (s.operand card (.literal (.regex source) span)).answer
    | _ => exact s.valueOperand_clears card card' _
  | _ => exact s.valueOperand_clears card card' _

/-- Every element of a list is evaluated, whichever of them are equal to
something. -/
theorem operands_clears (es : List Expr) :
    Clears (s.operands card es).answer (s.operands card' es).answer := by
  induction es with
  | nil => exact .refl (s.operands card []).answer
  | cons e es ih =>
    rw [answer_operands_cons, answer_operands_cons]
    exact (s.operand_clears card card' e).bind fun _ _ => ih.bind fun _ _ => .ok _ _

theorem compares_clears (mode : EqualityMode) (negated : Bool) (type : Option FieldType)
    (left right : Expr) :
    Clears (s.compares card mode negated type left right).answer
      (s.compares card' mode negated type left right).answer := by
  rw [answer_compares, answer_compares]
  exact (s.operand_clears card card' left).bind fun _ _ =>
    (s.operand_clears card card' right).bind fun _ _ => .ok _ _

theorem isMember_clears (mode : EqualityMode) (negated : Bool) (type : Option FieldType)
    (left right : Expr) :
    Clears (s.isMember card mode negated type left right).answer
      (s.isMember card' mode negated type left right).answer := by
  intro b h
  obtain ⟨elements, span, rfl⟩ := s.exists_list_of_answer_isMember card h
  have hlist : Clears (s.isMember card mode negated type left (.list elements span)).answer
      (s.isMember card' mode negated type left (.list elements span)).answer := by
    rw [answer_isMember_list, answer_isMember_list]
    exact (s.operand_clears card card' left).bind fun _ _ =>
      (s.operands_clears card card' elements).bind fun _ _ => .ok _ _
  exact hlist b h

/-- **A condition without `&` and `|`** that has an answer on one card fails on
another on account of that card only. -/
theorem holds_clears {e : Expr} (depth : Nat)
    (hplain : ∀ node ∈ e.nodesFrom depth, node.2.isJunction = false) :
    Clears (s.holds card e).answer (s.holds card' e).answer := by
  induction e generalizing depth with
  | literal v span =>
    have hsame : s.holds card' (.literal v span) = s.holds card (.literal v span) := by
      cases v <;> rfl
    rw [hsame]
    exact .refl _
  | identifier name span =>
    rw [answer_holds_identifier, answer_holds_identifier]
    exact (s.lookup_clears card card' name).bind fun _ _ => .ok _ _
  | group body span ih => exact ih (depth + 1) (List.forall_mem_cons.mp hplain).2
  | list es span ih => exact .error _ _
  | binary op l r span ihl ihr =>
    obtain ⟨hop, -⟩ := List.forall_mem_cons.mp hplain
    have hnumbers := numbers_clears (s.value_clears card card' l) (s.value_clears card card' r)
    rw [answer_holds_binary, answer_holds_binary]
    -- the types of the operands are those of the fields, whatever the card
    refine .bind_same fun type => ?_
    cases op with
    | and => cases hop
    | or => cases hop
    | equality mode negated => exact s.compares_clears card card' mode negated type l r
    | membership mode negated => exact s.isMember_clears card card' mode negated type l r
    | relation relation =>
      refine hnumbers.bind fun _ q => .numbers (fun x y e h => ?_) q
      cases h
    | arithmetic op =>
      exact hnumbers.bind fun _ q => .numbers
        (fun _ _ _ => Arithmetic.isOfCard_of_apply_bind) q

end Scope

/-! ## What a matcher says -/

/-- **Whether a query makes sense does not depend on the card.** A query
without `&` and `|` that has an answer on one card has one on every other card
too, or fails there because of a string or another value that is no number, or
because of a zero to divide by. This holds of any two matchers of one scope,
whatever they were asked before. -/
theorem Matcher.answers_of_answers [PatternCompiler] {Card Context : Type} {s : Scope Card Context}
    {m n : Matcher Card Context} (hm : Of s m) (hn : Of s n) {query : Expr}
    (hplain : ∀ node ∈ query.nodes, node.2.isJunction = false) {card : Card} {answer : Bool}
    (h : (m.matchCard query card).1 = .ok answer) (card' : Card) :
    (∃ answer', (n.matchCard query card').1 = .ok answer') ∨
      (∃ text, (n.matchCard query card').1 = .error (.notNumeric text)) ∨
      (∃ kind, (n.matchCard query card').1 = .error (.invalidNumericOperand kind)) ∨
      (n.matchCard query card').1 = .error .divisionByZero ∨
      (n.matchCard query card').1 = .error .moduloByZero := by
  rw [hm.matchCard_eq] at h
  rw [hn.matchCard_eq]
  have hclears := s.holds_clears card card' 0 hplain answer h
  cases hanswer : (s.holds card' query).answer with
  | ok answer' => exact .inl ⟨answer', rfl⟩
  | error e =>
    have hcard := hclears e hanswer
    cases e with
    | notNumeric text => exact .inr (.inl ⟨text, rfl⟩)
    | invalidNumericOperand kind => exact .inr (.inr (.inl ⟨kind, rfl⟩))
    | divisionByZero => exact .inr (.inr (.inr (.inl rfl)))
    | moduloByZero => exact .inr (.inr (.inr (.inr rfl)))
    | _ => cases hcard

/-- A quotient that has a value on one card is no error of the query's on a card
where the divisor is a word. -/
theorem Matcher.answers_of_answers_quotient :
    let fields : Registry (Value × Value) Unit :=
      (Registry.empty.insert "xp" ⟨.number, fun card _ => card.1⟩).insert "cost"
        ⟨.number, fun card _ => card.2⟩
    let m : Matcher (Value × Value) Unit := fresh ⟨fields, (), .standard⟩
    let query : Expr := .binary (.relation .greater)
      (.binary (.arithmetic .divide) (.identifier "xp" (.point .start))
        (.identifier "cost" (.point .start)) (.point .start))
      (.literal (.number 1) (.point .start)) (.point .start)
    (m.matchCard query (.number 4, .number 2)).1 = .ok true ∧
      (m.matchCard query (.number 4, .string "free")).1 = .error (.notNumeric "free") ∧
      ∀ name, (m.matchCard query (.number 4, .string "free")).1 ≠ .error (.unknownField name) := by
  intro fields m query
  have hanswer : (m.matchCard query (.number 4, .number 2)).1 = .ok true := by
    decide +kernel
  refine ⟨hanswer, by decide +kernel, fun name hname => ?_⟩
  have hm : Of m.scope m := .fresh m.scope
  have hplain : ∀ node ∈ query.nodes, node.2.isJunction = false := by decide
  rcases answers_of_answers hm hm hplain hanswer (.number 4, .string "free") with
    ⟨_, h⟩ | ⟨_, h⟩ | ⟨_, h⟩ | h | h
  all_goals
    rw [hname] at h
    cases h

end CardQuery
