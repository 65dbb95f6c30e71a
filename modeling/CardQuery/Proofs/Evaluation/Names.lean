import CardQuery.Proofs.Evaluation.Backs

/-!
# What a query reads of a card

A query learns of a card only what it asks for by name: the type of the field
and its value there, or that there is no such field (`Scope.reading?`). Nothing
else of the fields, of the context or of the card has a part in the answer, and
what is remembered has none either. So two matchers with one gap say the same of
two cards, even of cards of different kinds, if every name that the query
mentions reads the same on both sides (`Matcher.matchCard_eq_of_names`).

The names that a query mentions are those in its tree, also where the evaluation
never comes to them: the check of types looks at both sides of an operator, and
which of them are evaluated depends on the card.
-/

namespace CardQuery

/-! ## Names in a tree -/

namespace Expr

mutual

/-- **The names that a tree mentions**, from left to right. -/
def names : Expr → List String
  | literal _ _ => []
  | identifier name _ => [name]
  | binary _ left right _ => left.names ++ right.names
  | group body _ => body.names
  | list elements _ => listNames elements

/-- The names that some trees mention. -/
def listNames : List Expr → List String
  | [] => []
  | e :: rest => e.names ++ listNames rest

end

/-- A list mentions what its elements do. -/
theorem mem_listNames {name : String} {es : List Expr} :
    name ∈ listNames es ↔ ∃ e ∈ es, name ∈ e.names := by
  induction es with
  | nil => simp [listNames]
  | cons e es ih => simp [listNames, ih]

end Expr

namespace Scope

/-! ## What a name reads -/

section Reading

variable {Card Context : Type} (s : Scope Card Context) (card : Card) (name : String)

/-- **What a name reads on a card**: the type of the field and its value there,
if there is a field of that name. -/
def reading? : Option (FieldType × Value) :=
  (s.fields.get? name).map fun f => (f.type, f.lookup card s.context)

theorem lookup_eq_reading :
    s.lookup card name
      = ((s.reading? card name).map Prod.snd).elim (.error (.unknownField name)) .ok := by
  rw [lookup, reading?]
  cases s.fields.get? name <;> rfl

theorem typeOf_identifier_eq_reading (span : Span) :
    s.typeOf (.identifier name span)
      = ((s.reading? card name).map Prod.fst).elim (.error (.unknownField name))
        fun type => .ok (some type) := by
  rw [typeOf, Registry.fieldType?, reading?]
  cases s.fields.get? name <;> rfl

end Reading

/-! ## One reading, one answer -/

variable {Card Card' Context Context' : Type} (s : Scope Card Context)
  (t : Scope Card' Context') (card : Card) (card' : Card')

/-- Whether some names read the same on two cards. -/
def ReadAlike (names : List String) : Prop :=
  ∀ name ∈ names, s.reading? card name = t.reading? card' name

variable {s t card card'}

theorem ReadAlike.of_append {names names' : List String}
    (h : ReadAlike s t card card' (names ++ names')) :
    ReadAlike s t card card' names ∧ ReadAlike s t card card' names' :=
  List.forall_mem_append.mp h

theorem ReadAlike.of_mem {es : List Expr} {e : Expr}
    (h : ReadAlike s t card card' (Expr.listNames es)) (he : e ∈ es) :
    ReadAlike s t card card' e.names :=
  fun name hname => h name (Expr.mem_listNames.mpr ⟨e, he, hname⟩)

theorem lookup_congr {name : String} (h : s.reading? card name = t.reading? card' name) :
    s.lookup card name = t.lookup card' name := by
  rw [lookup_eq_reading, lookup_eq_reading, h]

theorem typeOf_congr {e : Expr} (h : ReadAlike s t card card' e.names) :
    s.typeOf e = t.typeOf e := by
  cases e with
  | identifier name span =>
    rw [s.typeOf_identifier_eq_reading card, t.typeOf_identifier_eq_reading card',
      h name List.mem_cons_self]
  | _ => rfl

theorem commonType_congr {left right : Expr} (hleft : ReadAlike s t card card' left.names)
    (hright : ReadAlike s t card card' right.names) :
    s.commonType left right = t.commonType left right := by
  rw [commonType, commonType, typeOf_congr hleft, typeOf_congr hright]

theorem value_congr {e : Expr} (h : ReadAlike s t card card' e.names) :
    s.value card e = t.value card' e := by
  induction e with
  | literal v span => rw [value, value]
  | identifier name span =>
    rw [value, value]
    exact lookup_congr (h name List.mem_cons_self)
  | binary op l r span ihl ihr =>
    obtain ⟨hl, hr⟩ := h.of_append
    cases op with
    | arithmetic op => rw [value, value, ihl hl, ihr hr]
    | _ => rw [value, value] <;> exact fun _ h => by cases h
  | group body span ih =>
    rw [value, value]
    exact ih h
  | list es span ih => rw [value, value]

theorem numbers_congr {left right : Expr} (hleft : ReadAlike s t card card' left.names)
    (hright : ReadAlike s t card card' right.names) :
    s.numbers card left right = t.numbers card' left right := by
  rw [numbers, numbers, value_congr hleft, value_congr hright]

variable [PatternCompiler]

theorem operand_congr {e : Expr} (h : ReadAlike s t card card' e.names) :
    (s.operand card e).answer = (t.operand card' e).answer := by
  have hvalue : (do return Operand.value (← Evaluation.ofExcept (s.value card e))
        : Evaluation Operand).answer
      = (do return Operand.value (← Evaluation.ofExcept (t.value card' e))
        : Evaluation Operand).answer := by
    rw [value_congr h]
  induction e with
  | literal v span =>
    cases v with
    | regex source => rw [answer_operand_regex, answer_operand_regex]
    | _ => exact hvalue
  | group body span ih =>
    exact ih h (by rw [value_congr (e := body) h])
  | _ => exact hvalue

theorem operands_congr {es : List Expr} (h : ∀ e ∈ es, ReadAlike s t card card' e.names) :
    (s.operands card es).answer = (t.operands card' es).answer := by
  induction es with
  | nil => rfl
  | cons e es ih =>
    obtain ⟨hfirst, hothers⟩ := List.forall_mem_cons.mp h
    rw [answer_operands_cons, answer_operands_cons, operand_congr hfirst, ih hothers]

/-- Equality looks at the gap of a scope and at nothing else of it. -/
theorem operandsEqual_congr (hgap : s.options.gap = t.options.gap) (mode : EqualityMode)
    (type : Option FieldType) (l r : Operand) :
    answerOf (s.operandsEqual mode type l r) = answerOf (t.operandsEqual mode type l r) := by
  cases l with
  | value v =>
    cases r with
    | value w =>
      have hvalues := (@Equality.values_agree _ s.options.gap s.options.capacity t.options.capacity
        mode type w v).answerOf_eq
      have hoptions : t.options = ⟨s.options.gap, t.options.capacity⟩ := by rw [hgap]
      rw [operandsEqual, operandsEqual, hoptions]
      exact hvalues
    | pattern p => rfl
  | pattern p => cases r <;> rfl

theorem compares_congr (hgap : s.options.gap = t.options.gap) {left right : Expr}
    (hleft : ReadAlike s t card card' left.names)
    (hright : ReadAlike s t card card' right.names) (mode : EqualityMode) (negated : Bool)
    (type : Option FieldType) :
    (s.compares card mode negated type left right).answer
      = (t.compares card' mode negated type left right).answer := by
  simp only [answer_compares, operand_congr hleft, operand_congr hright,
    operandsEqual_congr hgap]

theorem isMember_congr (hgap : s.options.gap = t.options.gap) {left right : Expr}
    (hleft : ReadAlike s t card card' left.names)
    (hright : ReadAlike s t card card' right.names) (mode : EqualityMode) (negated : Bool)
    (type : Option FieldType) :
    (s.isMember card mode negated type left right).answer
      = (t.isMember card' mode negated type left right).answer := by
  cases right with
  | list elements span =>
    simp only [answer_isMember_list, operand_congr hleft,
      operands_congr fun e he => hright.of_mem he, operandsEqual_congr hgap]
  | _ =>
    -- the left side is evaluated before the right one is found to be no list
    rw [isMember, isMember,
      Evaluation.answer_bind (s.operand_agree s.options.capacity card left) fun _ =>
        .throw .expectedList,
      Evaluation.answer_bind (t.operand_agree t.options.capacity card' left) fun _ =>
        .throw .expectedList,
      operand_congr hleft]

/-- **A condition has one answer** on two cards on which its names read the
same. -/
theorem holds_congr (hgap : s.options.gap = t.options.gap) {e : Expr}
    (h : ReadAlike s t card card' e.names) :
    (s.holds card e).answer = (t.holds card' e).answer := by
  induction e with
  | literal v span => cases v <;> rfl
  | identifier name span =>
    rw [answer_holds_identifier, answer_holds_identifier,
      lookup_congr (h name List.mem_cons_self)]
  | group body span ih => exact ih h
  | list es span ih => rfl
  | binary op l r span ihl ihr =>
    obtain ⟨hl, hr⟩ := h.of_append
    rw [answer_holds_binary, answer_holds_binary, commonType_congr hl hr]
    refine bind_congr fun type => ?_
    cases op with
    | and => simp only [ihl hl, ihr hr]
    | or => simp only [ihl hl, ihr hr]
    | equality mode negated => exact compares_congr hgap hl hr mode negated type
    | membership mode negated => exact isMember_congr hgap hl hr mode negated type
    | relation r => simp only [related, numbers_congr hl hr]
    | arithmetic op => simp only [computesTruth, numbers_congr hl hr]

end Scope

/-! ## Matchers -/

/-- **A query reads only what it names.** Two matchers with one gap give the same
answer or the same error for two cards on which every name in the query reads the
same: a field of one type with one value on both, or no field on either. This
holds of any two sets of fields, contexts and capacities, of cards of any two
kinds, and whatever the matchers were asked before. -/
theorem Matcher.matchCard_eq_of_names [PatternCompiler] {Card Card' Context Context' : Type}
    {s : Scope Card Context} {t : Scope Card' Context'} {m : Matcher Card Context}
    {n : Matcher Card' Context'} (hm : Of s m) (hn : Of t n)
    (hgap : s.options.gap = t.options.gap) (query : Expr) (card : Card) (card' : Card')
    (hnames : ∀ name ∈ query.names, s.reading? card name = t.reading? card' name) :
    (m.matchCard query card).1 = (n.matchCard query card').1 := by
  rw [hm.matchCard_eq, hn.matchCard_eq]
  exact Scope.holds_congr hgap hnames

/-- A pair of values, asked about after a search that is remembered, and a single
value read the same for a query that names a field of both and one of neither. -/
theorem Matcher.matchCard_eq_of_names_cost_text :
    let pairs : Scope (Value × Value) Unit :=
      ⟨(Registry.empty.insert "Cost" ⟨.number, fun card _ => card.1⟩).insert "size"
        ⟨.string, fun card _ => card.2⟩, (), ⟨3, 0⟩⟩
    let shifted : Scope Value Nat :=
      ⟨Registry.empty.insert "cost" ⟨.number, fun card n => if n = 2 then card else .null⟩, 2,
        ⟨3, 1000⟩⟩
    let query : Expr :=
      .binary .and (.binary (.relation .less) (.identifier "cost" (.point .start))
          (.literal (.string " 0x10") (.point .start)) (.point .start))
        (.binary (.equality .loose false) (.identifier "text" (.point .start))
          (.list [] (.point .start)) (.point .start)) (.point .start)
    let asked := ((fresh pairs).answer
      (.equal .loose none (.string "fire ball") (.string "a fire in a ball"))).2
    asked.cached = 1 ∧
      (asked.matchCard query (.number 3, .string "wide")).1
        = ((fresh shifted).matchCard query (.number 3)).1 ∧
      ((fresh shifted).matchCard query (.number 3)).1 = .error (.unknownField "text") := by
  intro pairs shifted query asked
  have hasked : Of pairs asked :=
    (answer_same (.fresh pairs) (.fresh (pairs.withCapacity 0)) _).2.1
  refine ⟨by decide +kernel, ?_, by decide +kernel⟩
  refine matchCard_eq_of_names hasked (.fresh shifted) rfl query _ _ ?_
  intro name hname
  obtain rfl | rfl : name = "cost" ∨ name = "text" := by
    simpa [query, Expr.names, Expr.listNames] using hname
  · cbv
  · cbv

end CardQuery
