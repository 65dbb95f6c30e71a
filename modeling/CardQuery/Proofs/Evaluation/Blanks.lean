import CardQuery.Proofs.Evaluation.Symmetry

/-!
# The two blanks

Cards use null and the empty string for the same thing, and an equality should not tell
the two apart. Null is equal to whatever counts as false (`Matcher.Of.equalValues_null`).
The empty string, however, is a number, namely zero, and a number or a truth value beside
a string that is a number is compared with it before blanks are: zero is still equal to
it, but what is not a number and the truth value `false` no longer are
(`Matcher.Of.equalValues_empty`).

So these two are all that tells the blanks apart, and in several values they do so only
where nothing else is equal to both blanks (`Matcher.equalValues_null_eq_empty_iff`).
-/

namespace CardQuery

namespace Value

/-- **Whether a value is a blank or zero**: what the empty string is equal to. -/
def isBlankOrZero : Value → Bool
  | number x => x == 0
  | v => v.isBlank

/-- **Whether a value tells the blanks apart**, in that it counts as false and is no
blank nor zero. -/
def tellsBlanksApart : Value → Bool
  | boolean b => !b
  | number x => x.isNaN
  | _ => false

/-- What counts as false is a blank, zero, or tells the blanks apart. -/
theorem not_isTruthy (v : Value) : (!v.isTruthy) = (v.isBlankOrZero || v.tellsBlanksApart) := by
  cases v with
  | null => rfl
  | boolean b => rfl
  | number x =>
    show (!(!(x == 0) && !x.isNaN)) = (x == 0 || x.isNaN)
    rw [Bool.not_and, Bool.not_not, Bool.not_not]
  | string s =>
    show (!(!s.isEmpty)) = (s.isEmpty || false)
    rw [Bool.not_not, Bool.or_false]
  | array items => rfl

/-- Some leaf counts as false whenever some is a blank or zero, and otherwise only if
some tells the blanks apart. -/
theorem any_not_isTruthy_eq_iff (leaves : List Value) :
    (leaves.any fun b => !b.isTruthy) = leaves.any isBlankOrZero ↔
      (leaves.any tellsBlanksApart = true → leaves.any isBlankOrZero = true) := by
  have hfalse : (leaves.any fun b => !b.isTruthy) = true ↔
      leaves.any isBlankOrZero = true ∨ leaves.any tellsBlanksApart = true := by
    simp only [List.any_eq_true, not_isTruthy, Bool.or_eq_true, and_or_left, exists_or]
  rw [Bool.eq_iff_iff, hfalse]
  constructor
  · exact fun h hapart => h.mp (.inr hapart)
  · exact fun h => ⟨fun h' => h'.elim id h, .inl⟩

end Value

namespace Equality

section Blanks

variable [PatternCompiler] (options : SearchOptions) (mode : EqualityMode)
  (type : Option FieldType) (v : Value)

/-- Null is equal to what counts as false. -/
theorem answerOf_scalars_null : answerOf (scalars options mode type .null v) = !v.isTruthy := by
  cases v <;> rfl

/-- The empty string is equal to blanks, and to zero as it is zero. -/
theorem answerOf_scalars_empty :
    answerOf (scalars options mode type (.string "") v) = v.isBlankOrZero := by
  cases v with
  | string s =>
    show (!false && !(!s.isEmpty)) = s.isEmpty
    rw [Bool.not_not]
    rfl
  | _ => rfl

/-- Null is equal to the same from the other side. -/
theorem answerOf_scalars_null_right :
    answerOf (scalars options mode type v .null) = !v.isTruthy := by
  rw [answerOf_scalars_comm, answerOf_scalars_null]
  intro s t hs ht
  cases ht

/-- The empty string is equal to the same from the other side, since it is not
looked for. -/
theorem answerOf_scalars_empty_right :
    answerOf (scalars options mode type v (.string "")) = v.isBlankOrZero := by
  rw [answerOf_scalars_comm, answerOf_scalars_empty]
  intro s t hs ht hlopsided
  cases ht
  exact hlopsided.right rfl

end Blanks

end Equality

namespace Matcher

section Of

variable {Card Context : Type} [PatternCompiler] {s : Scope Card Context}
  {m n : Matcher Card Context}

/-- What a matcher says of a leaf and a value, where it is known for all leaves of the
value. -/
theorem Of.equalValues_leaf (hm : Of s m) {mode : EqualityMode} {type : Option FieldType}
    {a : Value} (ha : a.leaves = [a]) {equal : Value → Bool}
    (hleft : ∀ b, answerOf (Equality.scalars s.options mode type a b) = equal b)
    (hright : ∀ b, answerOf (Equality.scalars s.options mode type b a) = equal b) (v : Value) :
    (m.equalValues mode type a v).1 = v.leaves.any equal ∧
      (m.equalValues mode type v a).1 = v.leaves.any equal := by
  rw [hm.equalValues_eq, hm.equalValues_eq, ha]
  constructor
  · rw [List.any_cons, List.any_nil, Bool.or_false, funext hleft]
  · refine Equality.any_congr_of_mem fun b _ => ?_
    rw [List.any_cons, List.any_nil, Bool.or_false, hright]

/-- **Null is equal to what counts as false**, from both sides. -/
theorem Of.equalValues_null (hm : Of s m) (mode : EqualityMode) (type : Option FieldType)
    (v : Value) :
    (m.equalValues mode type .null v).1 = (v.leaves.any fun b => !b.isTruthy) ∧
      (m.equalValues mode type v .null).1 = (v.leaves.any fun b => !b.isTruthy) :=
  hm.equalValues_leaf rfl (Equality.answerOf_scalars_null s.options mode type)
    (Equality.answerOf_scalars_null_right s.options mode type) v

/-- **The empty string is equal to blanks and to zero**, from both sides. -/
theorem Of.equalValues_empty (hm : Of s m) (mode : EqualityMode) (type : Option FieldType)
    (v : Value) :
    (m.equalValues mode type (.string "") v).1 = v.leaves.any Value.isBlankOrZero ∧
      (m.equalValues mode type v (.string "")).1 = v.leaves.any Value.isBlankOrZero :=
  hm.equalValues_leaf rfl (Equality.answerOf_scalars_empty s.options mode type)
    (Equality.answerOf_scalars_empty_right s.options mode type) v

/-- **The blanks are equal to the same values but for `false` and what is not a
number.** Whatever was asked before, null and the empty string, standing on the same
side, are both equal to a value or both not, exactly if no leaf of the value is `false`
or not a number, or some leaf is a blank or zero. This holds in both modes, on fields of
all types, and however deep the leaves lie. -/
theorem equalValues_null_eq_empty_iff (hm : Of s m) (hn : Of s n) (mode : EqualityMode)
    (type : Option FieldType) (v : Value) :
    ((m.equalValues mode type .null v).1 = (n.equalValues mode type (.string "") v).1 ↔
      (v.leaves.any Value.tellsBlanksApart = true → v.leaves.any Value.isBlankOrZero = true)) ∧
    ((m.equalValues mode type v .null).1 = (n.equalValues mode type v (.string "")).1 ↔
      (v.leaves.any Value.tellsBlanksApart = true → v.leaves.any Value.isBlankOrZero = true)) := by
  obtain ⟨hnull, hnull'⟩ := hm.equalValues_null mode type v
  obtain ⟨hempty, hempty'⟩ := hn.equalValues_empty mode type v
  rw [hnull, hnull', hempty, hempty', and_self]
  exact Value.any_not_isTruthy_eq_iff v.leaves

end Of

/-- Among several values, zero is equal to both blanks, so that `false` does not matter
beside it. -/
theorem equalValues_null_eq_empty_iff_flags :
    let s : Scope Unit Unit := ⟨.empty, (), .standard⟩
    let m : Matcher Unit Unit := ((fresh s).answer
      (.equal .loose none (.string "fire ball") (.string "a fire in a ball"))).2
    let flags : Value := .array [.boolean false, .string "no"]
    let both : Value := .array [flags, .number 0]
    m.cached = 1 ∧
      (m.equalValues .strict (some .text) .null both).1
        = ((fresh s).equalValues .strict (some .text) (.string "") both).1 ∧
      (m.equalValues .loose none flags .null).1
        ≠ ((fresh s).equalValues .loose none flags (.string "")).1 := by
  intro s m flags both
  have hm : Of s m := (answer_same (.fresh s) (.fresh (s.withCapacity 0)) _).2.1
  refine ⟨by decide +kernel, ?_, ?_⟩
  · obtain ⟨hleft, -⟩ := equalValues_null_eq_empty_iff hm (.fresh s) .strict (some .text) both
    exact hleft.mpr fun _ => by decide +kernel
  · obtain ⟨-, hright⟩ := equalValues_null_eq_empty_iff hm (.fresh s) .loose none flags
    exact fun hsame => absurd (hright.mp hsame) (by decide +kernel)

/-- From both sides `false` is equal to null and not to the empty string. -/
theorem equalValues_null_ne_empty :
    let m : Matcher Unit Unit := fresh ⟨.empty, (), .standard⟩
    ((m.equalValues .strict none .null (.boolean false)).1 = true ∧
        (m.equalValues .strict none (.string "") (.boolean false)).1 = false) ∧
      (m.equalValues .strict none (.boolean false) .null).1 = true ∧
        (m.equalValues .strict none (.boolean false) (.string "")).1 = false := by
  decide +kernel

end Matcher

end CardQuery
