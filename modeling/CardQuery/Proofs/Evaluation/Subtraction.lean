import CardQuery.Proofs.Evaluation.Names
import CardQuery.Proofs.Number.Difference

/-!
# Subtraction where a condition is expected

As a condition `x - y` is meant to hold wherever `x` and `y` differ, and so to say
what `x == y` denies. The two do not look at the same numbers, though: equality
compares doubles, and a difference is taken of the decimals that the doubles stand
for. Two doubles may stand for one decimal. Then neither of the two conditions holds
(`Matcher.subtraction_and_equality_fail`), and this is the only case in which they do
not deny each other (`Matcher.matchCard_subtract_eq_iff`).
-/

namespace CardQuery

namespace Scope

variable {Card Context : Type} {s : Scope Card Context} {card : Card}

/-! ## Fields that are read -/

section Reading

variable {name : String} {type : FieldType} {v : Value}
  (h : s.reading? card name = some (type, v))
include h

theorem lookup_of_reading : s.lookup card name = .ok v := by
  rw [lookup_eq_reading, h]
  rfl

theorem typeOf_of_reading (span : Span) : s.typeOf (.identifier name span) = .ok (some type) := by
  rw [s.typeOf_identifier_eq_reading card, h]
  rfl

theorem operand_of_reading [PatternCompiler] (span : Span) :
    (s.operand card (.identifier name span)).answer = .ok (.value v) := by
  have hvalue : s.value card (.identifier name span) = .ok v := by
    rw [value, lookup_of_reading h]
  show (do return Operand.value (← Evaluation.ofExcept (s.value card (.identifier name span)))
    : Evaluation Operand).answer = _
  rw [answer_value, hvalue]
  rfl

end Reading

/-! ## Two fields of one type -/

section Numbers

variable {x y : String} {a b : Float} (hx : s.reading? card x = some (.number, .number a))
  (hy : s.reading? card y = some (.number, .number b)) (p q : Span)
include hx hy

theorem commonType_of_numbers :
    s.commonType (.identifier x p) (.identifier y q) = .ok (some .number) := by
  rw [commonType, typeOf_of_reading hx, typeOf_of_reading hy]
  rfl

/-- **A difference of two fields** holds where they are not taken for one. -/
theorem computesTruth_subtract (ha : a.isFinite = true) (hb : b.isFinite = true) :
    s.computesTruth card .subtract (.identifier x p) (.identifier y q)
      = .ok (!Number.takenAlike a b) := by
  have hnumbers : s.numbers card (.identifier x p) (.identifier y q) = .ok (some a, some b) := by
    rw [numbers_eq_ok]
    refine ⟨.number a, .number b, ?_, rfl, ?_, rfl⟩
    · rw [value, lookup_of_reading hx]
    · rw [value, lookup_of_reading hy]
  rw [computesTruth, hnumbers, ← Number.isTruthy_subtract ha hb]
  rfl

/-- Numbers are compared as doubles in either mode of equality. -/
theorem compares_of_numbers [PatternCompiler] (mode : EqualityMode) (type : Option FieldType) :
    (s.compares card mode false type (.identifier x p) (.identifier y q)).answer
      = .ok (a == b) := by
  have hequal : answerOf (s.operandsEqual mode type (.value (.number a)) (.value (.number b)))
      = (a == b) := rfl
  rw [answer_compares, operand_of_reading hx, operand_of_reading hy]
  show Except.ok (answerOf (s.operandsEqual mode type _ _) != false) = _
  rw [hequal, Bool.bne_false]

end Numbers

end Scope

namespace Matcher

variable {Card Context : Type} {s : Scope Card Context} {m : Matcher Card Context} {card : Card}
  {x y : String} {a b : Float}

/-- **A subtraction and an equality** of two number fields, whatever was asked
before: the one holds where the numbers are not taken for one, and the other where
they are equal as doubles. So the one says what the other denies exactly where
numbers that are taken for one are equal. -/
theorem matchCard_subtract_eq_iff [PatternCompiler] (hm : Of s m)
    (hx : s.reading? card x = some (.number, .number a))
    (hy : s.reading? card y = some (.number, .number b)) (ha : a.isFinite = true)
    (hb : b.isFinite = true) (mode : EqualityMode) (p q r : Span) :
    let difference :=
      (m.matchCard (.binary (.arithmetic .subtract) (.identifier x p) (.identifier y q) r) card).1
    let equality :=
      (m.matchCard (.binary (.equality mode false) (.identifier x p) (.identifier y q) r) card).1
    difference = .ok (!Number.takenAlike a b) ∧ equality = .ok (a == b) ∧
      (difference = equality.map (!·) ↔ (Number.takenAlike a b = true → (a == b) = true)) := by
  have hdifference : (m.matchCard (.binary (.arithmetic .subtract) (.identifier x p)
      (.identifier y q) r) card).1 = .ok (!Number.takenAlike a b) := by
    rw [hm.matchCard_eq, Scope.answer_holds_binary, Scope.commonType_of_numbers hx hy]
    exact Scope.computesTruth_subtract hx hy p q ha hb
  have hequality : (m.matchCard (.binary (.equality mode false) (.identifier x p)
      (.identifier y q) r) card).1 = .ok (a == b) := by
    rw [hm.matchCard_eq, Scope.answer_holds_binary, Scope.commonType_of_numbers hx hy]
    exact Scope.compares_of_numbers hx hy p q mode (some .number)
  refine ⟨hdifference, hequality, ?_⟩
  rw [hdifference, hequality]
  constructor
  · intro h halike
    have hdeny : (!Number.takenAlike a b) = !(a == b) := Except.ok.inj h
    rwa [halike, Bool.not_inj_iff, eq_comm] at hdeny
  · intro h
    have hsame : Number.takenAlike a b = (a == b) :=
      Bool.eq_iff_iff.mpr ⟨h, Number.takenAlike_of_beq⟩
    rw [hsame]
    rfl

/-- Two fields of different numbers, asked about after a search that is
remembered. -/
theorem matchCard_subtract_eq_iff_tenths :
    let fields : Registry (Value × Value) Unit :=
      (Registry.empty.insert "x" ⟨.number, fun card _ => card.1⟩).insert "y"
        ⟨.number, fun card _ => card.2⟩
    let m : Matcher (Value × Value) Unit := ((fresh ⟨fields, (), .standard⟩).answer
      (.equal .loose none (.string "fire ball") (.string "a fire in a ball"))).2
    let card : Value × Value := (.number 0.3, .number 0.2)
    let outcome (op : Operator) : Except EvalError Bool :=
      (m.matchCard (.binary op (.identifier "x" (.point .start)) (.identifier "y" (.point .start))
        (.point .start)) card).1
    m.cached = 1 ∧ Number.takenAlike 0.3 0.2 = false ∧
      outcome (.arithmetic .subtract) = .ok true ∧
      outcome (.equality .strict false) = .ok false ∧
      outcome (.arithmetic .subtract) = (outcome (.equality .strict false)).map (!·) := by
  intro fields m card outcome
  have hm : Of ⟨fields, (), .standard⟩ m :=
    (answer_same (.fresh ⟨fields, (), .standard⟩)
      (.fresh (Scope.withCapacity ⟨fields, (), .standard⟩ 0)) _).2.1
  have halike : Number.takenAlike 0.3 0.2 = false := by decide +kernel
  have hequal : ((0.3 : Float) == 0.2) = false := by decide +kernel
  have hx : Scope.reading? ⟨fields, (), .standard⟩ card "x" = some (.number, .number 0.3) := rfl
  have hy : Scope.reading? ⟨fields, (), .standard⟩ card "y" = some (.number, .number 0.2) := rfl
  obtain ⟨hdifference, hequality, hdeny⟩ := matchCard_subtract_eq_iff hm hx hy (by decide +kernel)
    (by decide +kernel) .strict (.point .start) (.point .start) (.point .start)
  refine ⟨by decide +kernel, halike, ?_, ?_, ?_⟩
  · rw [halike] at hdifference
    exact hdifference
  · rw [hequal] at hequality
    exact hequality
  · refine hdeny.mpr fun h => ?_
    rw [halike] at h
    cases h

/-- A number below the last place of all decimals is taken for zero, and the double
next to another one for that one. Neither is equal to it, and yet there is no
difference. -/
theorem subtraction_and_equality_fail :
    let fields : Registry (Value × Value) Unit :=
      (Registry.empty.insert "x" ⟨.number, fun card _ => card.1⟩).insert "y"
        ⟨.number, fun card _ => card.2⟩
    let m : Matcher (Value × Value) Unit := fresh ⟨fields, (), .standard⟩
    let outcome (op : Operator) (a b : Float) : Except EvalError Bool :=
      (m.matchCard (.binary op (.identifier "x" (.point .start)) (.identifier "y" (.point .start))
        (.point .start)) (.number a, .number b)).1
    (outcome (.arithmetic .subtract) 1e-30 0 = .ok false ∧
        outcome (.equality .strict false) 1e-30 0 = .ok false) ∧
      outcome (.arithmetic .subtract) 0.30000000000000004 0.3 = .ok false ∧
        outcome (.equality .strict false) 0.30000000000000004 0.3 = .ok false := by
  decide +kernel

end Matcher

end CardQuery
