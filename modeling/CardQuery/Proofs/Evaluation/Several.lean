import CardQuery.Proofs.Evaluation.Membership
import CardQuery.Proofs.Evaluation.Permissiveness

/-!
# Several values say no more than their leaves

An equality takes several values apart on its left side first, then on its right side, and
each comparison on the way may remember a pattern that the next one finds. A regular
expression goes through several values in a recursion of its own. None of this order can be
told from the outside: an equality asks whether some leaf of the one side is equal to some
leaf of the other, and a regular expression whether it matches some leaf
(`Matcher.equal_iff_leaves`). So values that have the same leaves, however they are nested,
ordered and repeated, are equal to the same, and a value without leaves is equal to nothing.

In a query the sides of an equality are operands, each of them a value or a pattern. A
pattern counts as a leaf there (`Operand.leaves`), and one rule covers all four combinations
(`Scope.answerOf_operandsEqual`).
-/

namespace CardQuery

/-! ## Leaves -/

namespace Value

/-- No leaf is again several values. -/
theorem kind_of_mem_leaves {a v : Value} (h : a ∈ v.leaves) : a.kind ≠ .array := by
  induction v using Value.induction with
  | array items ih =>
    rw [leaves, leavesOf_eq_flatMap, List.mem_flatMap] at h
    obtain ⟨w, hw, ha⟩ := h
    exact ih w hw ha
  | _ =>
    rw [List.mem_singleton.mp h]
    exact fun hkind => by cases hkind

/-- **Values have the same leaves** if every leaf of the one is a leaf of the other, at
whatever depth, in whatever order and however often. -/
def SameLeaves (v w : Value) : Prop := ∀ a, a ∈ v.leaves ↔ a ∈ w.leaves

/-- A test passes for some leaf if it does for some leaf of values with the same leaves. -/
theorem SameLeaves.any_eq {v w : Value} (h : v.SameLeaves w) (test : Value → Bool) :
    v.leaves.any test = w.leaves.any test := by
  rw [Bool.eq_iff_iff, List.any_eq_true, List.any_eq_true]
  exact exists_congr fun a => and_congr_left fun _ => h a

end Value

/-! ## Patterns -/

namespace Pattern

/-- **A pattern fits a single value** if it matches its text. No value has no text. -/
theorem fits_single {a : Value} (ha : a.kind ≠ .array) (p : Pattern) :
    p.fits a = true ↔ a.kind ≠ .null ∧ p.isMatch a.display.toList = true := by
  cases a with
  | null => simp [fits, Value.kind]
  | array items => exact absurd rfl ha
  | string s => simp [fits, Value.kind, Value.display]
  | _ => simp [fits, Value.kind]

/-- **Several values fit a pattern if a leaf of theirs does.** -/
theorem fits_eq_any_leaves (p : Pattern) (v : Value) : p.fits v = v.leaves.any p.fits := by
  induction v using Value.induction with
  | array items ih =>
    rw [fits, fitsAny_eq, Value.leaves, Value.leavesOf_eq_flatMap, List.any_flatMap]
    exact Equality.any_congr_of_mem ih
  | _ => exact (Bool.or_false _).symm

end Pattern

/-! ## Operands -/

/-- What an operand of an equality comes down to: the leaves of its value, or its pattern. -/
def Operand.leaves : Operand → List Operand
  | .value v => v.leaves.map .value
  | .pattern p => [.pattern p]

namespace Scope

variable {Card Context : Type} [PatternCompiler] (s : Scope Card Context)

/-- **Two operands are equal if a leaf of the one is equal to a leaf of the other**, be they
values or patterns. -/
theorem answerOf_operandsEqual (mode : EqualityMode) (type : Option FieldType) (l r : Operand) :
    answerOf (s.operandsEqual mode type l r)
      = l.leaves.any fun a => r.leaves.any fun b => answerOf (s.operandsEqual mode type a b) := by
  cases l with
  | value v =>
    cases r with
    | value w =>
      show answerOf (Equality.values s.options mode type w v) = _
      rw [Equality.answerOf_values, Operand.leaves, Operand.leaves, List.any_map]
      refine Equality.any_congr_of_mem fun a ha => ?_
      show _ = (w.leaves.map Operand.value).any _
      rw [List.any_map]
      refine Equality.any_congr_of_mem fun b hb => ?_
      show _ = answerOf (Equality.values s.options mode type b a)
      rw [Equality.answerOf_values, Value.leaves_of_mem ha, Value.leaves_of_mem hb]
      simp only [List.any_cons, List.any_nil, Bool.or_false]
    | pattern p =>
      show p.fits v = _
      rw [Pattern.fits_eq_any_leaves, Operand.leaves, List.any_map]
      exact Equality.any_congr_of_mem fun a _ => (Bool.or_false _).symm
  | pattern p =>
    cases r with
    | value w =>
      show p.fits w = _
      simp only [Operand.leaves, List.any_cons, List.any_nil, Bool.or_false, List.any_map]
      exact p.fits_eq_any_leaves w
    | pattern q => rfl

/-- **The answer of an equality in a query** is told by the leaves of its operands. -/
theorem answer_holds_of_operands {card : Card} {left right : Expr} {type : Option FieldType}
    {l r : Operand} (htype : s.commonType left right = .ok type)
    (hl : (s.operand card left).answer = .ok l) (hr : (s.operand card right).answer = .ok r)
    (mode : EqualityMode) (negated : Bool) (span : Span) :
    (s.holds card (.binary (.equality mode negated) left right span)).answer
      = .ok ((l.leaves.any fun a => r.leaves.any fun b =>
          answerOf (s.operandsEqual mode type a b)) != negated) := by
  rw [answer_holds_binary, htype, ← s.answerOf_operandsEqual mode type l r]
  show (s.compares card mode negated type left right).answer = _
  rw [answer_compares, hl, hr]
  rfl

end Scope

/-! ## Matchers -/

namespace Matcher

/-- **Several values are asked for some leaf of theirs, and nothing else of them matters.**
Whatever was asked before:

* two values are equal if and only if a leaf of the one is equal to a leaf of the other;
* a value fits a pattern if and only if the pattern matches the text of a leaf other than no
  value;
* an equality in a query that compares operands, values as well as regular expressions,
  answers whether a leaf of the one is equal to a leaf of the other;
* values with the same leaves are equal to the same values and fit the same patterns;
* a value without leaves is equal to no value and fits no pattern. -/
theorem equal_iff_leaves [PatternCompiler] {Card Context : Type} {s : Scope Card Context}
    {m n : Matcher Card Context} (hm : Of s m) (hn : Of s n) (mode : EqualityMode)
    (type : Option FieldType) :
    (∀ left right, (m.equalValues mode type left right).1 = true ↔
      ∃ a ∈ left.leaves, ∃ b ∈ right.leaves, (n.equalValues mode type a b).1 = true) ∧
    (∀ (p : Pattern) v, p.fits v = true ↔
      ∃ a ∈ v.leaves, a.kind ≠ .null ∧ p.isMatch a.display.toList = true) ∧
    (∀ card left right l r, s.commonType left right = .ok type →
      (s.operand card left).answer = .ok l → (s.operand card right).answer = .ok r →
      ∀ negated span, (m.matchCard (.binary (.equality mode negated) left right span) card).1
        = .ok ((l.leaves.any fun a => r.leaves.any fun b =>
            answerOf (s.operandsEqual mode type a b)) != negated)) ∧
    (∀ left left' right right', left.SameLeaves left' → right.SameLeaves right' →
      (m.equalValues mode type left right).1 = (n.equalValues mode type left' right').1 ∧
      ∀ p : Pattern, p.fits left = p.fits left') ∧
    ∀ v, v.leaves = [] →
      (∀ w, (m.equalValues mode type v w).1 = false ∧ (m.equalValues mode type w v).1 = false) ∧
      ∀ p : Pattern, p.fits v = false := by
  refine ⟨fun left right => ?_, fun p v => ?_, fun card left right l r htype hl hr negated span =>
    ?_, fun left left' right right' hleft hright => ?_, fun v hv => ?_⟩
  · rw [hm.equalValues_eq, ← hn.equalValues_eq]
    exact hn.equalValues_iff
  · rw [p.fits_eq_any_leaves, List.any_eq_true]
    exact exists_congr fun a => and_congr_right fun ha =>
      p.fits_single (Value.kind_of_mem_leaves ha)
  · rw [hm.matchCard_eq]
    exact s.answer_holds_of_operands htype hl hr mode negated span
  · constructor
    · rw [hm.equalValues_eq, hn.equalValues_eq, hleft.any_eq]
      exact Equality.any_congr_of_mem fun a _ => hright.any_eq _
    · intro p
      rw [p.fits_eq_any_leaves, p.fits_eq_any_leaves, hleft.any_eq]
  · constructor
    · intro w
      rw [hm.equalValues_eq, hm.equalValues_eq, hv]
      exact ⟨rfl, List.any_eq_false.mpr fun a _ => Bool.false_ne_true⟩
    · intro p
      rw [p.fits_eq_any_leaves, hv]
      rfl

/-- Values nested in another way, in another order and with repetitions, asked for after a
search that is remembered. -/
theorem equal_iff_leaves_traits :
    let fields : Registry Value Unit := Registry.empty.insert "trait" ⟨.text, fun card _ => card⟩
    let s : Scope Value Unit := ⟨fields, (), .standard⟩
    let m : Matcher Value Unit := ((fresh s).answer
      (.equal .loose none (.string "fire ball") (.string "a fire in a ball"))).2
    let nested : Value := .array [.array [], .array [.null, .array [.string "Item. Tool."]]]
    let flat : Value := .array [.string "Item. Tool.", .null, .string "Item. Tool."]
    let query : Expr := .binary (.equality .loose false) (.identifier "trait" (.point .start))
      (.literal (.regex "t..l") (.point .start)) (.point .start)
    m.cached = 1 ∧ (m.equalValues .loose (some .text) nested (.string "tool")).1 = true ∧
      (m.equalValues .loose (some .text) nested (.string "weapon")).1
        = ((fresh s).equalValues .loose (some .text) flat (.string "weapon")).1 ∧
      (m.equalValues .loose (some .text) (.array [.array []]) .null).1 = false ∧
      (m.matchCard query nested).1 = .ok true := by
  intro fields s m nested flat query
  have hm : Of s m := (answer_same (.fresh s) (.fresh (s.withCapacity 0)) _).2.1
  obtain ⟨hleaves, -, hquery, hsame, hempty⟩ :=
    equal_iff_leaves hm (.fresh s) .loose (some .text)
  refine ⟨by decide +kernel, ?_, ?_, ((hempty (.array [.array []]) rfl).1 .null).1, ?_⟩
  · refine (hleaves nested (.string "tool")).mpr ⟨.string "Item. Tool.", ?_, .string "tool", ?_, ?_⟩
    · simp [nested, Value.leaves, Value.leavesOf]
    · simp [Value.leaves]
    · decide +kernel
  · refine (hsame nested flat _ _ (fun a => ?_) fun _ => Iff.rfl).1
    simp [nested, flat, Value.leaves, Value.leavesOf]
    tauto
  · obtain ⟨p, hp, hfits⟩ : ∃ p, Cache.compile? "t..l" = some p ∧ p.fits nested = true := by
      decide +kernel
    have hname : (s.operand nested (.identifier "trait" (.point .start))).answer
        = .ok (.value nested) := rfl
    have hregex : (s.operand nested (.literal (.regex "t..l") (.point .start))).answer
        = .ok (.pattern p) := by rw [Scope.answer_operand_regex, hp]
    rw [hquery nested _ _ _ _ rfl hname hregex, ← s.answerOf_operandsEqual]
    show Except.ok (p.fits nested != false) = _
    rw [hfits]
    rfl

end Matcher

end CardQuery
