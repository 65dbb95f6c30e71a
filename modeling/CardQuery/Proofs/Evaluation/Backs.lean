import CardQuery.Card.Schema
import CardQuery.Proofs.Evaluation.Answer
import Mathlib

/-!
# Reading backs widens what fits

Where the backs of cards are read too, a field that has a value there holds
two values in place of one. Nothing that fitted a query without a denial is
lost by that (`Matcher.fits_of_backs`), unless the evaluation fails, which
it does where several values are taken for a number.

The reason is that a value is kept among the new ones (`Value.Within`), and
that several values count as true, are equal to something and fit a pattern
as soon as one of them does. A number is only computed from the same value
as before. So the two evaluations go side by side through the query.
-/

namespace CardQuery

/-! ## Values among others -/

/-- **Whether a value is kept in another**, which is the same, or several
values with this one among them. -/
inductive Value.Within : Value → Value → Prop where
  | same (v : Value) : Within v v
  | among {v : Value} {items : List Value} (h : v ∈ items) : Within v (.array items)

namespace Value.Within

variable {v w : Value}

theorem isTruthy (h : v.Within w) (hv : v.isTruthy = true) : w.isTruthy = true := by
  cases h with
  | same => exact hv
  | among => rfl

/-- Only the same value gives a number. -/
theorem toNumber_eq (h : v.Within w) {x y : Option Float} (hv : v.toNumber = .ok x)
    (hw : w.toNumber = .ok y) : x = y := by
  cases h with
  | same => exact Except.ok.inj (hv.symm.trans hw)
  | among => cases hw

end Value.Within

/-- Several values fit a pattern if any does. -/
theorem Pattern.fitsAny_eq (p : Pattern) (items : List Value) :
    p.fitsAny items = items.any p.fits := by
  induction items with
  | nil => rfl
  | cons v rest ih => rw [fitsAny, ih, List.any_cons]

theorem Value.Within.fits {v w : Value} (h : v.Within w) (p : Pattern) (hv : p.fits v = true) :
    p.fits w = true := by
  cases h with
  | same => exact hv
  | among hmem =>
    rw [Pattern.fits, Pattern.fitsAny_eq]
    exact List.any_eq_true.mpr ⟨v, hmem, hv⟩

namespace Equality

variable [PatternCompiler] {options : SearchOptions} {mode : EqualityMode}
  {type : Option FieldType}

theorem scalarWith_of_within {left r r' : Value} (h : r.Within r')
    (hr : answerOf (scalarWith options mode type left r) = true) :
    answerOf (scalarWith options mode type left r') = true := by
  cases h with
  | same => exact hr
  | among hmem =>
    rw [scalarWith, answerOf_scalarWithAny]
    exact List.any_eq_true.mpr ⟨r, hmem, hr⟩

/-- What is equal to a value is equal to several with that one among them. -/
theorem values_of_within_right {r r' : Value} (h : r.Within r') (l : Value)
    (hl : answerOf (values options mode type r l) = true) :
    answerOf (values options mode type r' l) = true := by
  match l with
  | .array items =>
    rw [values, answerOf_anyWith, List.any_eq_true] at hl ⊢
    obtain ⟨v, hv, hanswer⟩ := hl
    exact ⟨v, hv, values_of_within_right h v hanswer⟩
  | .null => exact scalarWith_of_within h hl
  | .boolean b => exact scalarWith_of_within h hl
  | .number x => exact scalarWith_of_within h hl
  | .string s => exact scalarWith_of_within h hl

/-- **Equal values stay equal** if either becomes one of several. -/
theorem values_of_within {l l' r r' : Value} (hl : l.Within l') (hr : r.Within r')
    (h : answerOf (values options mode type r l) = true) :
    answerOf (values options mode type r' l') = true := by
  have hright := values_of_within_right hr l h
  cases hl with
  | same => exact hright
  | among hmem =>
    rw [values, answerOf_anyWith]
    exact List.any_eq_true.mpr ⟨l, hmem, hright⟩

end Equality

/-! ## One evaluation beside the other -/

/-- Whether an operator denies what another one says. -/
def Operator.isNegated : Operator → Bool
  | .equality _ negated | .membership _ negated => negated
  | _ => false

/-- Whether the operator of a node denies nothing. -/
def Expr.affirms : Expr → Bool
  | .binary op _ _ _ => !op.isNegated
  | _ => true

/-- Whether an operand is kept in another, which is the same, or a value that
keeps its value. -/
inductive Operand.Within : Operand → Operand → Prop where
  | same (o : Operand) : Within o o
  | value {v w : Value} (h : v.Within w) : Within (.value v) (.value w)

namespace Scope

variable {Card Context : Type} (s : Scope Card Context) (context : Context)

/-- The same scope in another context. -/
def inContext : Scope Card Context := { s with context := context }

/-- Whether every field of a card keeps its value in another context. -/
def Keeps (card : Card) : Prop :=
  ∀ name f, s.fields.get? name = some f →
    (f.lookup card s.context).Within (f.lookup card context)

/-- The value of an operation is computed from the numbers of its
operands. -/
theorem value_arithmetic (card : Card) (op : Arithmetic) (left right : Expr) (span : Span) :
    s.value card (.binary (.arithmetic op) left right span)
      = s.numbers card left right >>= fun
        | (some x, some y) => op.apply x y >>= fun z => .ok (.number z)
        | _ => .ok .null := by
  simp only [value, numbers, bind_assoc, pure_bind]
  refine bind_congr fun v => bind_congr fun x => bind_congr fun w => bind_congr fun y => ?_
  cases x with
  | none => rfl
  | some x => cases y <;> rfl

variable {s} in
/-- The numbers of two operands, one by one. -/
theorem numbers_eq_ok {card : Card} {left right : Expr} {p : Option Float × Option Float} :
    s.numbers card left right = .ok p ↔
      ∃ v w, s.value card left = .ok v ∧ v.toNumber = .ok p.1 ∧ s.value card right = .ok w ∧
        w.toNumber = .ok p.2 := by
  simp only [numbers, EvalError.bind_eq_ok]
  constructor
  · rintro ⟨v, hv, x, hx, w, hw, y, hy, h⟩
    obtain rfl : (x, y) = p := Except.ok.inj h
    exact ⟨v, w, hv, hx, hw, hy⟩
  · rintro ⟨v, w, hv, hx, hw, hy⟩
    exact ⟨v, hv, p.1, hx, w, hw, p.2, hy, rfl⟩

variable {s context} {card : Card} (hkeeps : s.Keeps context card)
include hkeeps

theorem lookup_within {name : String} {v w : Value} (hv : s.lookup card name = .ok v)
    (hw : (s.inContext context).lookup card name = .ok w) : v.Within w := by
  have hfield : (s.inContext context).fields = s.fields := rfl
  unfold lookup at hv hw
  rw [hfield] at hw
  cases hget : s.fields.get? name with
  | none =>
    rw [hget] at hv
    cases hv
  | some f =>
    rw [hget] at hv hw
    obtain rfl := Except.ok.inj hv
    obtain rfl := Except.ok.inj hw
    exact hkeeps name f hget

theorem value_within {e : Expr} {v w : Value} (hv : s.value card e = .ok v)
    (hw : (s.inContext context).value card e = .ok w) : v.Within w := by
  induction e generalizing v w with
  | literal x span =>
    rw [value] at hv hw
    rw [hv] at hw
    cases hw
    exact .same v
  | identifier name span =>
    rw [value] at hv hw
    exact lookup_within hkeeps hv hw
  | binary op l r span ihl ihr =>
    cases op with
    | arithmetic op =>
      rw [value_arithmetic, EvalError.bind_eq_ok] at hv hw
      obtain ⟨p, hp, hv⟩ := hv
      obtain ⟨q, hq, hw⟩ := hw
      obtain ⟨a, b, ha, hx, hb, hy⟩ := numbers_eq_ok.mp hp
      obtain ⟨a', b', ha', hx', hb', hy'⟩ := numbers_eq_ok.mp hq
      obtain rfl : p = q :=
        Prod.ext ((ihl ha ha').toNumber_eq hx hx') ((ihr hb hb').toNumber_eq hy hy')
      rw [hv] at hw
      cases hw
      exact .same v
    | _ =>
      rw [value] at hv
      · cases hv
      · exact fun _ h => by cases h
  | group body span ih =>
    rw [value] at hv hw
    exact ih hv hw
  | list es span ih =>
    rw [value] at hv
    cases hv

/-- Numbers are computed from the same values. -/
theorem numbers_eq {left right : Expr} {p q : Option Float × Option Float}
    (hp : s.numbers card left right = .ok p)
    (hq : (s.inContext context).numbers card left right = .ok q) : p = q := by
  obtain ⟨v, w, hv, hx, hw, hy⟩ := numbers_eq_ok.mp hp
  obtain ⟨v', w', hv', hx', hw', hy'⟩ := numbers_eq_ok.mp hq
  exact Prod.ext ((value_within hkeeps hv hv').toNumber_eq hx hx')
    ((value_within hkeeps hw hw').toNumber_eq hy hy')

omit hkeeps in
theorem answer_valueOperand {r : Except EvalError Value} {o : Operand}
    (h : (do return Operand.value (← Evaluation.ofExcept r) : Evaluation Operand).answer = .ok o) :
    ∃ v, r = .ok v ∧ o = .value v := by
  cases r with
  | error e => cases h
  | ok v =>
    cases h
    exact ⟨v, rfl, rfl⟩

theorem valueOperand_within {e : Expr} {o o' : Operand}
    (h : (do return Operand.value (← Evaluation.ofExcept (s.value card e))
      : Evaluation Operand).answer = .ok o)
    (h' : (do return Operand.value (← Evaluation.ofExcept ((s.inContext context).value card e))
      : Evaluation Operand).answer = .ok o') : o.Within o' := by
  obtain ⟨v, hv, rfl⟩ := answer_valueOperand h
  obtain ⟨w, hw, rfl⟩ := answer_valueOperand h'
  exact .value (value_within hkeeps hv hw)

variable [PatternCompiler]

theorem operand_within {e : Expr} {o o' : Operand} (h : (s.operand card e).answer = .ok o)
    (h' : ((s.inContext context).operand card e).answer = .ok o') : o.Within o' := by
  induction e with
  | group body span ih => exact ih h h'
  | literal v span =>
    cases v with
    | regex source =>
      -- the pattern is looked up under the same text
      have hsame : (s.inContext context).operand card (.literal (.regex source) span)
          = s.operand card (.literal (.regex source) span) := rfl
      rw [hsame, h] at h'
      obtain rfl := Except.ok.inj h'
      exact .same o
    | _ => exact valueOperand_within hkeeps h h'
  | _ => exact valueOperand_within hkeeps h h'

theorem operands_within {es : List Expr} {os os' : List Operand}
    (h : (s.operands card es).answer = .ok os)
    (h' : ((s.inContext context).operands card es).answer = .ok os') :
    List.Forall₂ Operand.Within os os' := by
  induction es generalizing os os' with
  | nil =>
    cases h
    cases h'
    exact .nil
  | cons e es ih =>
    simp only [answer_operands_cons, EvalError.bind_eq_ok] at h h'
    obtain ⟨o, ho, others, hothers, h⟩ := h
    obtain ⟨o', ho', others', hothers', h'⟩ := h'
    obtain rfl := Except.ok.inj h
    obtain rfl := Except.ok.inj h'
    exact .cons (operand_within hkeeps ho ho') (ih hothers hothers')

omit hkeeps in
/-- Equal operands stay equal. -/
theorem operandsEqual_within {mode : EqualityMode} {type : Option FieldType}
    {l l' r r' : Operand} (hl : l.Within l') (hr : r.Within r')
    (h : answerOf (s.operandsEqual mode type l r) = true) :
    answerOf ((s.inContext context).operandsEqual mode type l' r') = true := by
  cases l with
  | value v =>
    obtain ⟨v', rfl, hv⟩ : ∃ v', l' = .value v' ∧ v.Within v' := by
      cases hl with
      | same => exact ⟨v, rfl, .same v⟩
      | value hv => exact ⟨_, rfl, hv⟩
    cases r with
    | value w =>
      cases hr with
      | same => exact Equality.values_of_within hv (.same w) h
      | value hw => exact Equality.values_of_within hv hw h
    | pattern p =>
      cases hr
      exact hv.fits p h
  | pattern p =>
    cases hl
    cases r with
    | value w =>
      cases hr with
      | same => exact h
      | value hw => exact hw.fits p h
    | pattern q => cases h

omit [PatternCompiler] hkeeps in
/-- Of operands that are kept one by one, any that passes a test goes on to
pass it. -/
theorem any_within {os os' : List Operand} (h : List.Forall₂ Operand.Within os os')
    {test test' : Operand → Bool} (htest : ∀ o o', o.Within o' → test o = true → test' o' = true)
    (hany : os.any test = true) : os'.any test' = true := by
  induction h with
  | nil => cases hany
  | cons ho _ ih =>
    rw [List.any_cons, Bool.or_eq_true] at hany ⊢
    exact hany.imp (htest _ _ ho) ih

theorem compares_within {mode : EqualityMode} {type : Option FieldType} {left right : Expr}
    {b : Bool} (h : (s.compares card mode false type left right).answer = .ok true)
    (h' : ((s.inContext context).compares card mode false type left right).answer = .ok b) :
    b = true := by
  simp only [answer_compares, EvalError.bind_eq_ok] at h h'
  obtain ⟨l, hl, r, hr, h⟩ := h
  obtain ⟨l', hl', r', hr', h'⟩ := h'
  have hequal : answerOf (s.operandsEqual mode type l r) = true := by
    simpa using Except.ok.inj h
  have hequal' : answerOf ((s.inContext context).operandsEqual mode type l' r') = true :=
    operandsEqual_within (operand_within hkeeps hl hl') (operand_within hkeeps hr hr') hequal
  rw [← Except.ok.inj h', hequal']
  rfl

theorem isMember_within {mode : EqualityMode} {type : Option FieldType} {left right : Expr}
    {b : Bool} (h : (s.isMember card mode false type left right).answer = .ok true)
    (h' : ((s.inContext context).isMember card mode false type left right).answer = .ok b) :
    b = true := by
  obtain ⟨elements, span, rfl⟩ := s.exists_list_of_answer_isMember card h
  simp only [answer_isMember_list, EvalError.bind_eq_ok] at h h'
  obtain ⟨l, hl, rs, hrs, h⟩ := h
  obtain ⟨l', hl', rs', hrs', h'⟩ := h'
  have hleft := operand_within hkeeps hl hl'
  have hright := operands_within hkeeps hrs hrs'
  have hfound : (rs.any fun r => answerOf (s.operandsEqual mode type l r)) = true := by
    simpa using Except.ok.inj h
  have hfound' : (rs'.any fun r =>
      answerOf ((s.inContext context).operandsEqual mode type l' r)) = true :=
    any_within hright (fun _ _ hr => operandsEqual_within hleft hr) hfound
  rw [← Except.ok.inj h', hfound']
  rfl

omit [PatternCompiler] hkeeps in
theorem commonType_inContext (left right : Expr) :
    (s.inContext context).commonType left right = s.commonType left right := by
  have htype : ∀ e, (s.inContext context).typeOf e = s.typeOf e := by
    intro e
    cases e <;> rfl
  rw [commonType, commonType, htype, htype]

/-- An atom without a denial that holds goes on to hold in a context in which
every field keeps its value. -/
theorem atom_within {e : Expr} (hatom : e.isAtom = true) (haffirms : e.affirms = true) :
    s.KeepsTruth card (s.inContext context) e := by
  intro h b h'
  cases e with
  | literal v span =>
    have hsame : (s.inContext context).holds card (.literal v span)
        = s.holds card (.literal v span) := by
      cases v <;> rfl
    rw [hsame, h] at h'
    exact (Except.ok.inj h').symm
  | identifier name span =>
    rw [answer_holds_identifier, EvalError.bind_eq_ok] at h h'
    obtain ⟨v, hv, h⟩ := h
    obtain ⟨w, hw, h'⟩ := h'
    rw [← Except.ok.inj h']
    exact (lookup_within hkeeps hv hw).isTruthy (Except.ok.inj h)
  | group body span => cases hatom
  | list es span => cases h
  | binary op l r span =>
    rw [answer_holds_binary, EvalError.bind_eq_ok] at h h'
    rw [commonType_inContext] at h'
    obtain ⟨type, htype, h⟩ := h
    obtain ⟨type', htype', h'⟩ := h'
    obtain rfl := Except.ok.inj (htype.symm.trans htype')
    cases op with
    | and => cases hatom
    | or => cases hatom
    | equality mode negated =>
      obtain rfl : negated = false := by simpa [Expr.affirms, Operator.isNegated] using haffirms
      exact compares_within hkeeps h h'
    | membership mode negated =>
      obtain rfl : negated = false := by simpa [Expr.affirms, Operator.isNegated] using haffirms
      exact isMember_within hkeeps h h'
    | relation relation =>
      obtain ⟨p, hp, h⟩ := EvalError.bind_eq_ok.mp h
      obtain ⟨q, hq, h'⟩ := EvalError.bind_eq_ok.mp h'
      obtain rfl := numbers_eq hkeeps hp hq
      exact (Except.ok.inj (h.symm.trans h')).symm
    | arithmetic op =>
      obtain ⟨p, hp, h⟩ := EvalError.bind_eq_ok.mp h
      obtain ⟨q, hq, h'⟩ := EvalError.bind_eq_ok.mp h'
      obtain rfl := numbers_eq hkeeps hp hq
      exact (Except.ok.inj (h.symm.trans h')).symm

/-- **A condition without a denial that holds goes on to hold** in a context in
which every field keeps its value, if it has an answer there. -/
theorem holds_within {e : Expr} (depth : Nat)
    (haffirms : ∀ node ∈ e.nodesFrom depth, node.2.affirms = true)
    (h : (s.holds card e).answer = .ok true) {b : Bool}
    (h' : ((s.inContext context).holds card e).answer = .ok b) : b = true :=
  keepsTruth_of_atoms depth
    (fun node hnode hatom => atom_within hkeeps hatom (haffirms node hnode)) h b h'

end Scope

/-! ## Cards with backs -/

/-- With backs, the value of a field is the one on the front, or that one and
the one on the back. -/
theorem FieldSpec.valueOn_within (f : FieldSpec) (name : String) (card : Json) :
    (f.valueOn name card ⟨false⟩).Within (f.valueOn name card ⟨true⟩) := by
  have hfront : f.valueOn name card ⟨false⟩
      = ((card.follow? (steps (f.path.getD name))).map Json.toValue).getD .null := rfl
  rw [hfront, valueOn]
  split
  · exact .among List.mem_cons_self
  · exact .same _

/-- Registering fields that some specifications describe leaves no others. -/
theorem FieldSpec.exists_of_foldl (fields : Catalog FieldSpec)
    {r : Registry Json LookupContext}
    (hr : ∀ name f, r.get? name = some f →
      ∃ (spec : FieldSpec) (key : String), f = spec.toField key)
    {name : String} {f : Field Json LookupContext}
    (h : (fields.foldl (fun r (name, f) => r.insert name (f.toField name)) r).get? name = some f) :
    ∃ (spec : FieldSpec) (key : String), f = spec.toField key := by
  induction fields generalizing r with
  | nil => exact hr name f h
  | cons entry fields ih =>
    refine ih (fun name f hget => ?_) h
    rw [Registry.get?_insert] at hget
    split at hget
    · exact ⟨entry.2, entry.1, (Option.some.inj hget).symm⟩
    · exact hr name f hget

/-- Every field of a registry is one that its schema describes. -/
theorem Schema.exists_spec {schema : Schema} {name : String} {f : Field Json LookupContext}
    (h : schema.registry.get? name = some f) :
    ∃ (spec : FieldSpec) (key : String), f = spec.toField key :=
  FieldSpec.exists_of_foldl schema.fields (fun _ _ hempty => by cases hempty) h

/-- What the names in queries over the cards of a schema mean. -/
def Schema.scope (schema : Schema) (matchBacks : Bool) (options : SearchOptions) :
    Scope Json LookupContext :=
  ⟨schema.registry, ⟨matchBacks⟩, options⟩

theorem Schema.keeps_backs (schema : Schema) (options : SearchOptions) (card : Json) :
    (schema.scope false options).Keeps ⟨true⟩ card := by
  intro name f hf
  obtain ⟨spec, key, rfl⟩ := Schema.exists_spec hf
  exact spec.valueOn_within key card

/-- **Reading backs only widens what fits.** Over the cards of any schema, a
card that fits a query without a denial where backs are not read fits it
where they are, if the query can be evaluated there. This holds of any two
matchers with one gap, whatever they were asked before. -/
theorem Matcher.fits_of_backs [PatternCompiler] (schema : Schema) (gap capacity capacity' : Nat)
    {fronts backs : Matcher Json LookupContext}
    (hfronts : Of (schema.scope false ⟨gap, capacity⟩) fronts)
    (hbacks : Of (schema.scope true ⟨gap, capacity'⟩) backs) (query : Expr) (card : Json)
    (haffirms : ∀ node ∈ query.nodes, node.2.affirms = true)
    (hfits : (fronts.matchCard query card).1 = .ok true)
    (hanswers : ∀ e, (backs.matchCard query card).1 ≠ .error e) :
    (backs.matchCard query card).1 = .ok true := by
  rw [hfronts.matchCard_eq] at hfits
  rw [hbacks.matchCard_eq] at hanswers ⊢
  have hcapacity : ((schema.scope true ⟨gap, capacity'⟩).holds card query).answer
      = (((schema.scope false ⟨gap, capacity⟩).inContext ⟨true⟩).holds card query).answer :=
    Agree.answerOf_eq ((schema.scope true ⟨gap, capacity'⟩).holds_agree capacity card query)
  rw [hcapacity] at hanswers ⊢
  generalize hanswer :
    (((schema.scope false ⟨gap, capacity⟩).inContext ⟨true⟩).holds card query).answer = answer
    at hanswers ⊢
  cases answer with
  | error e => exact absurd rfl (hanswers e)
  | ok b => rw [Scope.holds_within (schema.keeps_backs _ card) 0 haffirms hfits hanswer]

/-- A card that is true on its front and false on its back fits a query for
true, with and without its back. -/
theorem Matcher.fits_of_backs_true_false :
    let schema : Schema := ⟨[("foil", ⟨.boolean, none, some "back.foil"⟩)]⟩
    let card : Json :=
      .object [("back", .object [("foil", .boolean false)]), ("foil", .boolean true)]
    let query : Expr := .binary (.equality .loose false) (.identifier "foil" (.point .start))
      (.literal (.boolean true) (.point .start)) (.point .start)
    (schema.scope true .standard).lookup card "foil"
        = .ok (.array [.boolean true, .boolean false]) ∧
      ((fresh (schema.scope true .standard)).matchCard query card).1 = .ok true := by
  intro schema card query
  refine ⟨by cbv, ?_⟩
  have hfits : ((fresh (schema.scope false .standard)).matchCard query card).1 = .ok true := by cbv
  have hanswers : ∀ e,
      ((fresh (schema.scope true .standard)).matchCard query card).1 ≠ .error e := by
    intro e herror
    have hanswer : ((fresh (schema.scope true .standard)).matchCard query card).1.isOk = true := by
      cbv
    rw [herror] at hanswer
    cases hanswer
  exact fits_of_backs schema _ _ _ (.fresh _) (.fresh _) query card (by decide) hfits hanswers

end CardQuery
