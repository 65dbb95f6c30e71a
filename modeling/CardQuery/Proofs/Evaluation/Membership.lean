import CardQuery.Proofs.Evaluation.Junctions

/-!
# Membership and equality

A list on the right of a membership is a short way to write an equality with each of
its elements. The two are not evaluated alike: a membership evaluates all elements
before it compares any, an equality resolves the type of its operands for itself, and
equalities joined by `|` stop at the first one that holds. On a card on which every
operand can be evaluated there is nothing in this that could be told apart. The type
of the elements does not matter unless an element is a bare name, and what is
remembered between one comparison and the next matters to none of them. So a
membership holds where one of the equalities does (`Matcher.matchCard_membership_eq`).

A bare name in a list is left out here. Its type is checked in an equality and not in
a membership.
-/

namespace CardQuery

/-- Whether a node is a bare name. -/
def Expr.isName : Expr → Bool
  | .identifier _ _ => true
  | _ => false

namespace Scope

variable {Card Context : Type} {s : Scope Card Context} {card : Card}

/-! ## Types -/

/-- Only a bare name has a type. -/
theorem typeOf_of_not_isName {e : Expr} (h : e.isName = false) : s.typeOf e = .ok none := by
  cases e with
  | identifier name span => cases h
  | _ => rfl

/-- Next to anything but a bare name the left operand tells the type. -/
theorem commonType_of_not_isName {left right : Expr} (h : right.isName = false) :
    s.commonType left right = s.typeOf left := by
  rw [commonType, typeOf_of_not_isName h]
  cases s.typeOf left with
  | error e => rfl
  | ok type => cases type <;> rfl

variable [PatternCompiler]

variable (s card) in
/-- **Whether an expression contributes something to an equality** on a card. -/
def HasOperand (e : Expr) : Prop := ∃ o, (s.operand card e).answer = .ok o

/-- What contributes to an equality names no unknown field. -/
theorem HasOperand.exists_typeOf {e : Expr} (h : s.HasOperand card e) :
    ∃ type, s.typeOf e = .ok type := by
  cases htype : s.typeOf e with
  | ok type => exact ⟨type, rfl⟩
  | error err =>
    obtain ⟨name, span, rfl, hlookup⟩ := exists_of_typeOf_eq_error htype
    obtain ⟨o, ho⟩ := h
    obtain ⟨v, hv, -⟩ := answer_valueOperand (r := s.value card (.identifier name span)) ho
    rw [value, hlookup card] at hv
    cases hv

/-- A regular expression contributes its pattern, if it has one. -/
theorem hasOperand_regex_iff {source : String} {span : Span} :
    s.HasOperand card (.literal (.regex source) span) ↔ (Cache.compile? source).isSome = true := by
  rw [HasOperand, answer_operand_regex]
  cases Cache.compile? source <;> simp

/-! ## Elements -/

/-- The elements of a list contribute one operand each, if each contributes one. -/
theorem exists_operands {es : List Expr} (h : ∀ e ∈ es, s.HasOperand card e) :
    ∃ os, (s.operands card es).answer = .ok os := by
  induction es with
  | nil => exact ⟨[], rfl⟩
  | cons e es ih =>
    obtain ⟨hfirst, hothers⟩ := List.forall_mem_cons.mp h
    obtain ⟨o, ho⟩ := hfirst
    obtain ⟨os, hos⟩ := ih hothers
    refine ⟨o :: os, ?_⟩
    rw [answer_operands_cons, ho, hos]
    rfl

/-- An operand passes a test among those of a list where it does among those of its
elements. -/
theorem any_operands {es : List Expr} {os : List Operand}
    (h : (s.operands card es).answer = .ok os) {test : Operand → Bool} {passes : Expr → Bool}
    (htest : ∀ e ∈ es, ∀ o, (s.operand card e).answer = .ok o → test o = passes e) :
    os.any test = es.any passes := by
  induction es generalizing os with
  | nil =>
    cases h
    rfl
  | cons e es ih =>
    obtain ⟨hfirst, hothers⟩ := List.forall_mem_cons.mp htest
    simp only [answer_operands_cons, EvalError.bind_eq_ok] at h
    obtain ⟨o, ho, others, hos, h⟩ := h
    obtain rfl := Except.ok.inj h
    rw [List.any_cons, List.any_cons, hfirst o ho, ih hos hothers]

/-! ## Conditions -/

/-- The answer of an equality with a side that is no bare name. -/
theorem answer_holds_equality {left right : Expr} {type : Option FieldType} {l r : Operand}
    (hname : right.isName = false) (htype : s.typeOf left = .ok type)
    (hl : (s.operand card left).answer = .ok l) (hr : (s.operand card right).answer = .ok r)
    (mode : EqualityMode) (negated : Bool) (span : Span) :
    (s.holds card (.binary (.equality mode negated) left right span)).answer
      = .ok (answerOf (s.operandsEqual mode type l r) != negated) := by
  rw [answer_holds_binary, commonType_of_not_isName hname, htype]
  show (s.compares card mode negated type left right).answer = _
  rw [answer_compares, hl, hr]
  rfl

/-- **The answer of a membership** in a list of which every element contributes
something. -/
theorem answer_holds_membership {left : Expr} {es : List Expr} {type : Option FieldType}
    {l : Operand} {rs : List Operand} (htype : s.typeOf left = .ok type)
    (hl : (s.operand card left).answer = .ok l) (hrs : (s.operands card es).answer = .ok rs)
    (mode : EqualityMode) (negated : Bool) (span span' : Span) :
    (s.holds card (.binary (.membership mode negated) left (.list es span') span)).answer
      = .ok ((rs.any fun r => answerOf (s.operandsEqual mode type l r)) != negated) := by
  have hname : (Expr.list es span').isName = false := rfl
  rw [answer_holds_binary, commonType_of_not_isName hname, htype]
  show (s.isMember card mode negated type left (.list es span')).answer = _
  rw [answer_isMember_list, hl, hrs]
  rfl

/-- Two conditions that are no bare names hold jointly as their answers do. -/
theorem answer_holds_or {left right : Expr} {a b : Bool} (hl : left.isName = false)
    (hr : right.isName = false) (ha : (s.holds card left).answer = .ok a)
    (hb : (s.holds card right).answer = .ok b) (span : Span) :
    (s.holds card (.binary .or left right span)).answer = .ok (a || b) := by
  rw [answer_holds_binary, commonType_of_not_isName hr, typeOf_of_not_isName hl]
  show ((s.holds card left).answer >>= fun l =>
    if l then pure true else (s.holds card right).answer) = _
  rw [ha]
  cases a with
  | true => rfl
  | false => exact hb

end Scope

/-- **Conditions joined by `|`**, from the left. -/
def Expr.anyOf (first : Expr) (others : List Expr) : Expr := others.foldl (Expr.join .or) first

/-- **Conditions joined by `|` hold** if any of them does. -/
theorem Scope.answer_holds_anyOf [PatternCompiler] {Card Context : Type}
    {s : Scope Card Context} {card : Card} {α : Type} {make : α → Expr} {answers : α → Bool}
    (hmake : ∀ a, (make a).isName = false) {first : Expr} {others : List α} {b : Bool} (hfirst : first.isName = false)
    (hb : (s.holds card first).answer = .ok b)
    (h : ∀ a ∈ others, (s.holds card (make a)).answer = .ok (answers a)) :
    (s.holds card (first.anyOf (others.map make))).answer = .ok (b || others.any answers) := by
  induction others generalizing first b with
  | nil => rw [List.any_nil, Bool.or_false]; exact hb
  | cons a others ih =>
    obtain ⟨ha, hothers⟩ := List.forall_mem_cons.mp h
    have hjoined : (s.holds card (Expr.join .or first (make a))).answer = .ok (b || answers a) :=
      answer_holds_or hfirst (hmake a) hb ha _
    rw [List.any_cons, ← Bool.or_assoc]
    exact ih rfl hjoined hothers

/-- **Membership is the disjunction of equalities.** On a card on which the left
operand and every element of the list can be evaluated, and none of the elements is a
bare name, each equality of the left operand with an element has an answer, the
membership says whether any of the answers is that they are equal, and the denied
membership says the contrary. If there are elements, the equalities joined by `|` say
what the membership says. All of this holds of matchers of one scope whatever each of
them was asked before. -/
theorem Matcher.matchCard_membership_eq [PatternCompiler] {Card Context : Type}
    {s : Scope Card Context} {m : Matcher Card Context} (hm : Of s m) {n : Expr → Matcher Card Context}
    (hn : ∀ e, Of s (n e)) (mode : EqualityMode) {left : Expr} {elements : List Expr} {card : Card}
    (hnames : ∀ e ∈ elements, e.isName = false) (hleft : s.HasOperand card left)
    (helements : ∀ e ∈ elements, s.HasOperand card e) (p q r : Span) :
    let equality (e : Expr) : Expr := .binary (.equality mode false) left e p
    ∃ equal : Expr → Bool,
      (∀ e ∈ elements, ((n e).matchCard (equality e) card).1 = .ok (equal e)) ∧
      (∀ negated, (m.matchCard
          (.binary (.membership mode negated) left (.list elements q) r) card).1
        = .ok (elements.any equal != negated)) ∧
      ∀ first others, elements = first :: others →
        (m.matchCard ((equality first).anyOf (others.map equality)) card).1
          = .ok (elements.any equal) := by
  intro equality
  obtain ⟨type, htype⟩ := hleft.exists_typeOf
  obtain ⟨l, hl⟩ := hleft
  obtain ⟨rs, hrs⟩ := Scope.exists_operands helements
  have hequality : ∀ e ∈ elements, ∃ answer, (s.holds card (equality e)).answer = .ok answer ∧
      ∀ o, (s.operand card e).answer = .ok o →
        answerOf (s.operandsEqual mode type l o) = answer := by
    intro e he
    obtain ⟨o, ho⟩ := helements e he
    refine ⟨answerOf (s.operandsEqual mode type l o), ?_, fun o' ho' => ?_⟩
    · rw [Scope.answer_holds_equality (hnames e he) htype hl ho, Bool.bne_false]
    · rw [Except.ok.inj (ho.symm.trans ho')]
  choose! equal hequal hoperand using hequality
  refine ⟨equal, fun e he => ?_, fun negated => ?_, ?_⟩
  · rw [(hn e).matchCard_eq, hequal e he]
  · rw [hm.matchCard_eq, Scope.answer_holds_membership htype hl hrs,
      Scope.any_operands hrs hoperand]
  · rintro first others rfl
    obtain ⟨hfirst, hothers⟩ := List.forall_mem_cons.mp hequal
    rw [hm.matchCard_eq, List.any_cons]
    exact Scope.answer_holds_anyOf (fun _ => rfl) rfl hfirst hothers

/-- A card with two traits is asked for a trait that begins like a weapon, and for one
with a relic in it, after a search that is remembered: the one equality fails, the other
holds, and so does the membership. -/
theorem Matcher.matchCard_membership_eq_traits :
    let s : Scope Value Unit :=
      ⟨Registry.empty.insert "trait" ⟨.text, fun card _ => card⟩, (), .standard⟩
    let m : Matcher Value Unit := ((fresh s).answer
      (.equal .loose none (.string "fire ball") (.string "a fire in a ball"))).2
    let card : Value := .array [.string "Item.", .string "Relic."]
    let left : Expr := .identifier "trait" (.point .start)
    let weapon : Expr := .literal (.regex "^weapon") (.point .start)
    let relic : Expr := .literal (.string "relic") (.point .start)
    let equality (e : Expr) : Expr :=
      .binary (.equality .strict false) left e (.point .start)
    let membership (negated : Bool) : Expr := .binary (.membership .strict negated) left
      (.list [weapon, relic] (.point .start)) (.point .start)
    m.cached = 1 ∧
      (((fresh s).matchCard (equality weapon) card).1 = .ok false ∧
        ((fresh s).matchCard (equality relic) card).1 = .ok true) ∧
      (m.matchCard (membership false) card).1 = .ok true ∧
      (m.matchCard (membership true) card).1 = .ok false ∧
      (m.matchCard ((equality weapon).anyOf [equality relic]) card).1 = .ok true := by
  intro s m card left weapon relic equality membership
  have hm : Of s m := (answer_same (.fresh s) (.fresh (s.withCapacity 0)) _).2.1
  have hnames : ∀ e ∈ [weapon, relic], e.isName = false := by decide
  have hleft : s.HasOperand card left := ⟨.value card, rfl⟩
  have helements : ∀ e ∈ [weapon, relic], s.HasOperand card e := by
    refine List.forall_mem_cons.mpr ⟨?_, List.forall_mem_singleton.mpr ⟨_, rfl⟩⟩
    exact Scope.hasOperand_regex_iff.mpr (by decide +kernel)
  have hweapon : ((fresh s).matchCard (equality weapon) card).1 = .ok false := by decide +kernel
  have hrelic : ((fresh s).matchCard (equality relic) card).1 = .ok true := by decide +kernel
  obtain ⟨equal, hequal, hmember, hjoined⟩ := matchCard_membership_eq hm (fun _ => .fresh s)
    .strict hnames hleft helements (.point .start) (.point .start) (.point .start)
  -- what the equalities say, the theorem says of the membership
  have hsecond := hequal relic (List.mem_cons_of_mem weapon List.mem_cons_self)
  have hany : [weapon, relic].any equal = true := by
    refine List.any_eq_true.mpr ⟨relic, List.mem_cons_of_mem weapon List.mem_cons_self, ?_⟩
    exact Except.ok.inj (hsecond.symm.trans hrelic)
  rw [hany] at hmember hjoined
  exact ⟨by decide +kernel, ⟨hweapon, hrelic⟩, hmember false, hmember true,
    hjoined weapon [relic] rfl⟩

end CardQuery
