import CardQuery.Proofs.Evaluation.Parentheses
import CardQuery.Proofs.Query.Slicing

/-!
# What an error is about

An error names what is wrong: a field, two types, a text, a kind of value, an operator,
a regular expression. Whoever reads it looks for that in the query, or on the card. It
is there (`Matcher.hasCulprit_of_error`): every error has a culprit
(`Scope.HasCulprit`), which is a node of the query or the value of a field that the
query names, with the very text of the query or the card and not what was made of it on
the way.

The proof follows the evaluation through the query, which is one fixed tree throughout,
and only says of a node where it stands in that tree: somewhere in it (`Expr.PartOf`),
or below an operator (`Expr.IsNested`), which is where values are expected.
-/

namespace CardQuery

namespace Expr

/-! ## Where a node stands -/

/-- **Whether a node is part of a tree**: its top, or part of a child. -/
inductive PartOf (node : Expr) : Expr → Prop where
  | top : PartOf node node
  | inChild {c e : Expr} (hchild : c ∈ e.children) (h : node.PartOf c) : PartOf node e

theorem PartOf.trans {a b c : Expr} (hab : a.PartOf b) (hbc : b.PartOf c) : a.PartOf c := by
  induction hbc with
  | top => exact hab
  | inChild hchild _ ih => exact .inChild hchild ih

theorem PartOf.child {c e query : Expr} (h : e.PartOf query) (hchild : c ∈ e.children) :
    c.PartOf query :=
  (PartOf.inChild hchild .top).trans h

/-- **Whether a node stands below an operator** in a tree. -/
inductive IsNested (node query : Expr) : Prop where
  | intro {op : Operator} {left right side : Expr} {span : Span}
    (hbinary : (binary op left right span).PartOf query) (hside : side ∈ [left, right])
    (h : node.PartOf side)

namespace IsNested

variable {c e query : Expr}

theorem partOf (h : e.IsNested query) : e.PartOf query := by
  obtain ⟨hbinary, hside, hpart⟩ := h
  exact hpart.trans (hbinary.child hside)

theorem child (h : e.IsNested query) (hchild : c ∈ e.children) : c.IsNested query := by
  obtain ⟨hbinary, hside, hpart⟩ := h
  exact ⟨hbinary, hside, hpart.child hchild⟩

end IsNested

section Binary

variable {op : Operator} {l r query : Expr} {span : Span}
  (h : (binary op l r span).PartOf query)
include h

theorem PartOf.left : l.PartOf query := h.child List.mem_cons_self

theorem PartOf.right : r.PartOf query := h.child (List.mem_cons_of_mem l List.mem_cons_self)

theorem PartOf.isNested_left : l.IsNested query := ⟨h, List.mem_cons_self, .top⟩

theorem PartOf.isNested_right : r.IsNested query :=
  ⟨h, List.mem_cons_of_mem l List.mem_cons_self, .top⟩

end Binary

end Expr

/-- A value has no number where it is a text that writes none, a truth value, or several
values. -/
theorem Value.toNumber_eq_error {v : Value} {e : EvalError} (h : v.toNumber = .error e) :
    (∃ text, v = .string text ∧ e = .notNumeric text) ∨
      ((v.kind = .boolean ∨ v.kind = .array) ∧ e = .invalidNumericOperand v.kind) := by
  cases v with
  | null => cases h
  | number x => cases h
  | boolean b => exact .inr ⟨.inl rfl, (Except.error.inj h).symm⟩
  | array items => exact .inr ⟨.inr rfl, (Except.error.inj h).symm⟩
  | string text =>
    rw [toNumber] at h
    rcases numberOfText_cases text with ⟨x, hx⟩ | herror
    · rw [hx] at h
      cases h
    · rw [herror] at h
      exact .inl ⟨text, rfl, (Except.error.inj h).symm⟩

/-- An operation fails where it is not to be done with a second operand of zero, and only
there. -/
theorem Arithmetic.apply_eq_error_iff {op : Arithmetic} {x y : Float} {e : EvalError} :
    op.apply x y = .error e ↔ op.zeroError? = some e ∧ (y == 0) = true := by
  rw [apply]
  cases op.zeroError? with
  | none => simp
  | some zeroError =>
    cases hy : y == 0 with
    | true => simp
    | false => simp

namespace Scope

variable {Card Context : Type} (s : Scope Card Context) (card : Card) (query : Expr)

/-! ## Culprits -/

/-- **Whether a query supplies a value** on a card: as a literal, or as the value of a
field that it names. -/
inductive Supplies (v : Value) : Prop where
  | literal {l : Literal} {span : Span} (hpart : (Expr.literal l span).PartOf query)
    (h : l.toValue = .ok v)
  | field {name : String} {span : Span} (hpart : (Expr.identifier name span).PartOf query)
    (h : s.lookup card name = .ok v)

/-- Whether an operation in a query has zero for its second operand. -/
def HasZeroOperand (op : Arithmetic) : Prop :=
  ∃ left right span y, (Expr.binary (.arithmetic op) left right span).PartOf query ∧
    s.number card right = .ok (some y) ∧ (y == 0) = true

variable [PatternCompiler]

/-- **Whether an error has a culprit**, in the query or on the card. -/
def HasCulprit : EvalError → Prop
  | .unknownField name =>
    (∃ span, (Expr.identifier name span).PartOf query) ∧ s.fields.get? name = none
  | .typeMismatch t u =>
    ∃ op x y p q r, (Expr.binary op (.identifier x p) (.identifier y q) r).PartOf query ∧
      s.fields.fieldType? x = some t ∧ s.fields.fieldType? y = some u ∧ t ≠ u
  | .divisionByZero => s.HasZeroOperand card query .divide
  | .moduloByZero => s.HasZeroOperand card query .modulo
  | .listAsBoolean | .listAsValue => ∃ es span, (Expr.list es span).PartOf query
  | .notAValue op =>
    op.isArithmetic = false ∧ ∃ left right span, (Expr.binary op left right span).IsNested query
  | .expectedList =>
    ∃ mode negated left right span,
      (Expr.binary (.membership mode negated) left right span).PartOf query ∧
        right.isList = false
  | .notNumeric text =>
    s.Supplies card query (.string text) ∧ ∀ number, (Value.string text).toNumber ≠ .ok number
  | .invalidNumericOperand kind =>
    (kind = .boolean ∨ kind = .array) ∧ ∃ v, s.Supplies card query v ∧ v.kind = kind
  | .regexAsValue => ∃ source span, (Expr.literal (.regex source) span).PartOf query
  | .invalidRegex source =>
    (∃ span, (Expr.literal (.regex source) span).PartOf query) ∧ Cache.compile? source = none

variable {s card query} {e : EvalError}

/-! ## Names and types -/

theorem hasCulprit_of_lookup {name : String} {span : Span}
    (hpart : (Expr.identifier name span).PartOf query) (h : s.lookup card name = .error e) :
    s.HasCulprit card query e := by
  rw [lookup] at h
  cases hget : s.fields.get? name with
  | some f =>
    rw [hget] at h
    cases h
  | none =>
    rw [hget] at h
    cases h
    exact ⟨⟨span, hpart⟩, hget⟩

theorem hasCulprit_of_typeOf {node : Expr} (hpart : node.PartOf query)
    (h : s.typeOf node = .error e) : s.HasCulprit card query e := by
  obtain ⟨name, span, rfl, hlookup⟩ := exists_of_typeOf_eq_error h
  exact hasCulprit_of_lookup hpart (hlookup card)

omit [PatternCompiler] in
/-- Only a name has a type, that of its field. -/
theorem exists_fieldType_of_typeOf {node : Expr} {t : FieldType}
    (h : s.typeOf node = .ok (some t)) :
    ∃ name span, node = .identifier name span ∧ s.fields.fieldType? name = some t := by
  cases node with
  | identifier name span =>
    refine ⟨name, span, rfl, ?_⟩
    rw [typeOf] at h
    cases htype : s.fields.fieldType? name with
    | none =>
      rw [htype] at h
      cases h
    | some u =>
      rw [htype] at h
      cases h
      rfl
  | _ => cases h

/-- What the check of two operands finds has a culprit. -/
theorem hasCulprit_of_commonType {op : Operator} {left right : Expr} {span : Span}
    (hpart : (Expr.binary op left right span).PartOf query)
    (h : s.commonType left right = .error e) : s.HasCulprit card query e := by
  rcases s.commonType_eq_error_iff.mp h with h | ⟨-, -, h⟩ | ⟨t, u, ht, hu, hne, rfl⟩
  · exact hasCulprit_of_typeOf hpart.left h
  · exact hasCulprit_of_typeOf hpart.right h
  · obtain ⟨x, p, rfl, hx⟩ := exists_fieldType_of_typeOf ht
    obtain ⟨y, q, rfl, hy⟩ := exists_fieldType_of_typeOf hu
    exact ⟨op, x, y, p, q, span, hpart, hx, hy, hne⟩

/-! ## Values -/

omit [PatternCompiler] in
/-- **A value is computed or supplied.** What is computed is a number or nothing. -/
theorem supplies_of_value {node : Expr} (hpart : node.PartOf query) {v : Value}
    (h : s.value card node = .ok v) :
    s.Supplies card query v ∨ v = .null ∨ ∃ x, v = .number x := by
  induction node with
  | literal l span =>
    rw [value] at h
    exact .inl (.literal hpart h)
  | identifier name span =>
    rw [value] at h
    exact .inl (.field hpart h)
  | binary op l r span ihl ihr =>
    cases op with
    | arithmetic op =>
      rw [value_arithmetic, EvalError.bind_eq_ok] at h
      obtain ⟨⟨_ | x, _ | y⟩, -, h⟩ := h
      · exact .inr (.inl (Except.ok.inj h).symm)
      · exact .inr (.inl (Except.ok.inj h).symm)
      · exact .inr (.inl (Except.ok.inj h).symm)
      · obtain ⟨z, -, hz⟩ := EvalError.bind_eq_ok.mp h
        exact .inr (.inr ⟨z, (Except.ok.inj hz).symm⟩)
    | _ =>
      rw [value] at h
      · cases h
      · exact fun _ h => by cases h
  | group body span ih =>
    rw [value] at h
    exact ih (hpart.child List.mem_cons_self) h
  | list es span ih =>
    rw [value] at h
    cases h

/-- A value that has no number is supplied as it is named. -/
theorem hasCulprit_of_toNumber {node : Expr} (hpart : node.PartOf query) {v : Value}
    (hv : s.value card node = .ok v) (h : v.toNumber = .error e) : s.HasCulprit card query e := by
  have hsupplies : s.Supplies card query v := by
    rcases supplies_of_value hpart hv with hsupplies | rfl | ⟨x, rfl⟩
    · exact hsupplies
    · cases h
    · cases h
  rcases Value.toNumber_eq_error h with ⟨text, rfl, rfl⟩ | ⟨hkind, rfl⟩
  · refine ⟨hsupplies, fun number hnumber => ?_⟩
    rw [h] at hnumber
    cases hnumber
  · exact ⟨hkind, v, hsupplies, rfl⟩

/-- There is no number of an operand that has no value, or one that has no number. -/
theorem hasCulprit_of_number {node : Expr} (hpart : node.PartOf query)
    (hvalue : ∀ {e}, s.value card node = .error e → s.HasCulprit card query e)
    (h : s.number card node = .error e) : s.HasCulprit card query e := by
  rcases EvalError.bind_eq_error.mp h with h | ⟨v, hv, h⟩
  · exact hvalue h
  · exact hasCulprit_of_toNumber hpart hv h

/-- The numbers of two operands fail as the number of one of them does. -/
theorem hasCulprit_of_numbers {left right : Expr} (hleft : left.PartOf query)
    (hright : right.PartOf query)
    (hl : ∀ {e}, s.value card left = .error e → s.HasCulprit card query e)
    (hr : ∀ {e}, s.value card right = .error e → s.HasCulprit card query e)
    (h : s.numbers card left right = .error e) : s.HasCulprit card query e := by
  rw [numbers_eq_bind] at h
  rcases EvalError.bind_eq_error.mp h with h | ⟨x, -, h⟩
  · exact hasCulprit_of_number hleft hl h
  · rcases EvalError.bind_eq_error.mp h with h | ⟨y, -, h⟩
    · exact hasCulprit_of_number hright hr h
    · cases h

/-- An operation that is not to be done has zero for its second operand. -/
theorem hasCulprit_of_apply {op : Arithmetic} {left right : Expr} {span : Span}
    (hpart : (Expr.binary (.arithmetic op) left right span).PartOf query) {x y : Float}
    (hnumbers : s.numbers card left right = .ok (some x, some y))
    (h : op.apply x y = .error e) : s.HasCulprit card query e := by
  obtain ⟨hzero, hy⟩ := Arithmetic.apply_eq_error_iff.mp h
  obtain ⟨v, w, -, -, hw, hnumber⟩ := numbers_eq_ok.mp hnumbers
  have hright : s.number card right = .ok (some y) := by
    rw [number, hw]
    exact hnumber
  cases op with
  | divide =>
    cases hzero
    exact ⟨left, right, span, y, hpart, hright, hy⟩
  | modulo =>
    cases hzero
    exact ⟨left, right, span, y, hpart, hright, hy⟩
  | _ => cases hzero

/-- What is made of two numbers fails as the operation on them does. -/
theorem hasCulprit_of_operation {α : Type} {op : Arithmetic} {left right : Expr} {span : Span}
    (hpart : (Expr.binary (.arithmetic op) left right span).PartOf query)
    {p : Option Float × Option Float} (hnumbers : s.numbers card left right = .ok p)
    {make : Float → α} {none : α}
    (h : (match p with
      | (some x, some y) => op.apply x y >>= fun z => .ok (make z)
      | _ => .ok none) = .error e) : s.HasCulprit card query e := by
  obtain ⟨_ | x, _ | y⟩ := p
  · cases h
  · cases h
  · cases h
  · rcases EvalError.bind_eq_error.mp h with h | ⟨z, -, hz⟩
    · exact hasCulprit_of_apply hpart hnumbers h
    · cases hz

/-- **Where there is no value** below an operator, there is a culprit. -/
theorem hasCulprit_of_value {node : Expr} (hnested : node.IsNested query)
    (h : s.value card node = .error e) : s.HasCulprit card query e := by
  induction node generalizing e with
  | literal l span =>
    rw [value] at h
    cases l with
    | regex source =>
      cases h
      exact ⟨source, span, hnested.partOf⟩
    | _ => cases h
  | identifier name span =>
    rw [value] at h
    exact hasCulprit_of_lookup hnested.partOf h
  | binary op l r span ihl ihr =>
    have hpart := hnested.partOf
    cases op with
    | arithmetic op =>
      rw [value_arithmetic] at h
      rcases EvalError.bind_eq_error.mp h with h | ⟨p, hnumbers, h⟩
      · exact hasCulprit_of_numbers hpart.left hpart.right (ihl hpart.isNested_left)
          (ihr hpart.isNested_right) h
      · exact hasCulprit_of_operation hpart hnumbers h
    | _ =>
      rw [value] at h
      · cases h
        exact ⟨rfl, l, r, span, hnested⟩
      · exact fun _ h => by cases h
  | group body span ih =>
    rw [value] at h
    exact ih (hnested.child List.mem_cons_self) h
  | list es span ih =>
    rw [value] at h
    cases h
    exact ⟨es, span, hnested.partOf⟩

/-- The numbers of the operands of an operator. -/
theorem hasCulprit_of_numbers_of_binary {op : Operator} {left right : Expr} {span : Span}
    (hpart : (Expr.binary op left right span).PartOf query)
    (h : s.numbers card left right = .error e) : s.HasCulprit card query e :=
  hasCulprit_of_numbers hpart.left hpart.right (hasCulprit_of_value hpart.isNested_left)
    (hasCulprit_of_value hpart.isNested_right) h

/-! ## Comparing -/

theorem hasCulprit_of_valueOperand {node : Expr} (hnested : node.IsNested query)
    (h : (do return Operand.value (← Evaluation.ofExcept (s.value card node))
      : Evaluation Operand).answer = .error e) : s.HasCulprit card query e := by
  rw [answer_value] at h
  rcases EvalError.bind_eq_error.mp h with h | ⟨v, -, hv⟩
  · exact hasCulprit_of_value hnested h
  · cases hv

theorem hasCulprit_of_operand {node : Expr} (hnested : node.IsNested query)
    (h : (s.operand card node).answer = .error e) : s.HasCulprit card query e := by
  induction node with
  | group body span ih => exact ih (hnested.child List.mem_cons_self) h
  | literal l span =>
    cases l with
    | regex source =>
      rw [answer_operand_regex] at h
      cases hcompile : Cache.compile? source with
      | some p =>
        rw [hcompile] at h
        cases h
      | none =>
        rw [hcompile] at h
        cases h
        exact ⟨⟨span, hnested.partOf⟩, hcompile⟩
    | _ => exact hasCulprit_of_valueOperand hnested h
  | _ => exact hasCulprit_of_valueOperand hnested h

theorem hasCulprit_of_operands {es : List Expr} (hnested : ∀ node ∈ es, node.IsNested query)
    (h : (s.operands card es).answer = .error e) : s.HasCulprit card query e := by
  induction es with
  | nil => cases h
  | cons node es ih =>
    obtain ⟨hfirst, hothers⟩ := List.forall_mem_cons.mp hnested
    rw [answer_operands_cons] at h
    rcases EvalError.bind_eq_error.mp h with h | ⟨o, -, h⟩
    · exact hasCulprit_of_operand hfirst h
    · rcases EvalError.bind_eq_error.mp h with h | ⟨os, -, h⟩
      · exact ih hothers h
      · cases h

theorem hasCulprit_of_compares {op : Operator} {left right : Expr} {span : Span}
    (hpart : (Expr.binary op left right span).PartOf query) {mode : EqualityMode}
    {negated : Bool} {type : Option FieldType}
    (h : (s.compares card mode negated type left right).answer = .error e) :
    s.HasCulprit card query e := by
  rw [answer_compares] at h
  rcases EvalError.bind_eq_error.mp h with h | ⟨l, -, h⟩
  · exact hasCulprit_of_operand hpart.isNested_left h
  · rcases EvalError.bind_eq_error.mp h with h | ⟨r, -, h⟩
    · exact hasCulprit_of_operand hpart.isNested_right h
    · cases h

theorem hasCulprit_of_isMember {mode : EqualityMode} {negated : Bool} {left right : Expr}
    {span : Span}
    (hpart : (Expr.binary (.membership mode negated) left right span).PartOf query)
    {type : Option FieldType}
    (h : (s.isMember card mode negated type left right).answer = .error e) :
    s.HasCulprit card query e := by
  cases hlist : right.isList with
  | false =>
    rw [s.isMember_of_not_isList card hlist,
      Evaluation.answer_bind (s.operand_agree s.options.capacity card left) fun _ =>
        .throw .expectedList] at h
    rcases EvalError.bind_eq_error.mp h with h | ⟨l, -, h⟩
    · exact hasCulprit_of_operand hpart.isNested_left h
    · cases h
      exact ⟨mode, negated, left, right, span, hpart, hlist⟩
  | true =>
    cases right with
    | list es span' =>
      rw [answer_isMember_list] at h
      rcases EvalError.bind_eq_error.mp h with h | ⟨l, -, h⟩
      · exact hasCulprit_of_operand hpart.isNested_left h
      · rcases EvalError.bind_eq_error.mp h with h | ⟨rs, -, h⟩
        · exact hasCulprit_of_operands (fun node hnode => hpart.isNested_right.child hnode) h
        · cases h
    | _ => cases hlist

/-! ## Conditions -/

/-- **Where a condition fails**, there is a culprit. -/
theorem hasCulprit_of_holds {node : Expr} (hpart : node.PartOf query)
    (h : (s.holds card node).answer = .error e) : s.HasCulprit card query e := by
  induction node with
  | literal l span => cases l <;> cases h
  | identifier name span =>
    rw [answer_holds_identifier] at h
    rcases EvalError.bind_eq_error.mp h with h | ⟨v, -, h⟩
    · exact hasCulprit_of_lookup hpart h
    · cases h
  | group body span ih => exact ih (hpart.child List.mem_cons_self) h
  | list es span ih =>
    cases h
    exact ⟨es, span, hpart⟩
  | binary op l r span ihl ihr =>
    rw [answer_holds_binary] at h
    rcases EvalError.bind_eq_error.mp h with h | ⟨type, -, h⟩
    · exact hasCulprit_of_commonType hpart h
    cases op with
    | and =>
      rcases EvalError.bind_eq_error.mp h with h | ⟨left, -, h⟩
      · exact ihl hpart.left h
      · cases left with
        | true => exact ihr hpart.right h
        | false => cases h
    | or =>
      rcases EvalError.bind_eq_error.mp h with h | ⟨left, -, h⟩
      · exact ihl hpart.left h
      · cases left with
        | true => cases h
        | false => exact ihr hpart.right h
    | equality mode negated => exact hasCulprit_of_compares hpart h
    | membership mode negated => exact hasCulprit_of_isMember hpart h
    | relation relation =>
      rcases EvalError.bind_eq_error.mp h with h | ⟨⟨_ | x, _ | y⟩, -, h⟩
      · exact hasCulprit_of_numbers_of_binary hpart h
      all_goals cases h
    | arithmetic op =>
      rcases EvalError.bind_eq_error.mp h with h | ⟨p, hnumbers, h⟩
      · exact hasCulprit_of_numbers_of_binary hpart h
      · exact hasCulprit_of_operation hpart hnumbers h

end Scope

/-- **Every error names a real culprit.** Whatever a matcher was asked before, what it
complains of is there, in the query or on the card. -/
theorem Matcher.hasCulprit_of_error [PatternCompiler] {Card Context : Type} {s : Scope Card Context}
    {m : Matcher Card Context} (hm : Of s m) {query : Expr} {card : Card} {e : EvalError}
    (h : (m.matchCard query card).1 = .error e) : s.HasCulprit card query e := by
  rw [hm.matchCard_eq] at h
  exact Scope.hasCulprit_of_holds .top h

/-- A cost that is no number is complained of as it is on the card, blanks and capitals
included, by a query that adds to it and compares the sum, after a search that is
remembered. -/
theorem Matcher.hasCulprit_of_error_cost :
    let s : Scope Value Unit :=
      ⟨Registry.empty.insert "cost" ⟨.string, fun card _ => card⟩, (), .standard⟩
    let m : Matcher Value Unit := ((fresh s).answer
      (.equal .loose none (.string "fire ball") (.string "a fire in a ball"))).2
    let query : Expr := .group (.binary (.relation .less)
      (.binary (.arithmetic .add) (.identifier "cost" (.point .start))
        (.literal (.number 1) (.point .start)) (.point .start))
      (.literal (.number 3) (.point .start)) (.point .start)) (.point .start)
    let card : Value := .string " Free "
    m.cached = 1 ∧ (m.matchCard query card).1 = .error (.notNumeric " Free ") ∧
      s.Supplies card query (.string " Free ") ∧
      ∀ number, (Value.string " Free ").toNumber ≠ .ok number := by
  intro s m query card
  have hm : Of s m := (answer_same (.fresh s) (.fresh (s.withCapacity 0)) _).2.1
  have herror : (m.matchCard query card).1 = .error (.notNumeric " Free ") := by decide +kernel
  exact ⟨by decide +kernel, herror, hasCulprit_of_error hm herror⟩

end CardQuery
