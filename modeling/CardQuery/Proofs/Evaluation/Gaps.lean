import CardQuery.Proofs.Evaluation.Backs
import CardQuery.Proofs.Evaluation.Permissiveness

/-!
# Wider gaps

A needle of several words is found where they stand in order, with no more
than so many characters between one and the next. Where more characters may
stand there, nothing is lost that was found before (`Needle.Strewn.mono`),
unless the pattern has grown beyond what is compiled. Then the needle is found
nowhere at all (`Needle.Lost`). Where that happens is for the compiler to say.

The same is true of queries without a denial. What is evaluated with a wider
gap has the same operands, so it differs only where two strings are compared
loosely. A card that fits such a query goes on to fit it
(`Matcher.fits_of_wider_gap`), unless the evaluation fails, or a needle is lost
by which two strings in the query were equal.
-/

namespace CardQuery

/-! ## Needles -/

namespace Needle

/-- What some words look like with short gaps, they look like with longer ones
too. -/
theorem Strewn.mono {gap gap' : Nat} (hle : gap ≤ gap') {words : List (List Char)}
    {v : List Char} (h : Strewn gap words v) : Strewn gap' words v := by
  induction h with
  | last h => exact .last h
  | next h hgap hline _ ih => exact .next h (Nat.le_trans hgap hle) hline ih

/-- **A needle that is lost between two gaps**: it has several words, and it is
compiled with the one gap, and not with the other. -/
structure Lost [PatternCompiler] (gap gap' : Nat) (text : String) : Prop where
  several : 1 < (Text.words (prepare text)).length
  before : (ofText? text gap).isSome = true
  after : ofText? text gap' = none

/-- A needle of one word is compiled with every gap, or with none. -/
theorem compiles_of_le_one [PatternCompiler] {gap : Nat} (gap' : Nat) {words : List (List Char)}
    (hwords : words.length ≤ 1) (h : compiles ⟨words, gap⟩ = true) :
    compiles ⟨words, gap'⟩ = true := by
  match words with
  | [] => exact h
  | [word] => exact h

/-- **What is not lost stays compiled.** -/
theorem compiles_of_not_lost [PatternCompiler] {gap gap' : Nat} {text : String}
    (hwords : Text.words (prepare text) ≠ [])
    (h : compiles ⟨Text.words (prepare text), gap⟩ = true) (hkept : ¬ Lost gap gap' text) :
    compiles ⟨Text.words (prepare text), gap'⟩ = true := by
  refine Classical.byContradiction fun hrefused => hkept ⟨?_, ?_, ?_⟩
  · exact Nat.lt_of_not_le fun hone => hrefused (compiles_of_le_one gap' hone h)
  · rw [ofText?_eq_some_iff.mpr ⟨hwords, h, rfl⟩]
    rfl
  · refine Option.eq_none_iff_forall_ne_some.mpr fun n hn => hrefused ?_
    exact (ofText?_eq_some_iff.mp hn).2.1

end Needle

/-! ## Equality -/

namespace Equality

variable [PatternCompiler]

/-- A search that succeeds goes on to succeed with a wider gap, unless its needle
is lost. -/
theorem seeks_mono {gap gap' : Nat} (hle : gap ≤ gap') {mode : EqualityMode}
    {type : Option FieldType} {needle text : String}
    (hlost : mode = .loose → ¬ Needle.Lost gap gap' needle)
    (h : seeks gap mode type needle text = true) : seeks gap' mode type needle text = true := by
  cases mode with
  | strict => exact h
  | loose =>
    obtain ⟨hwords, hcompiles, v, hpiece, hstrewn⟩ := seeks_loose_iff.mp h
    have hkept := Needle.compiles_of_not_lost hwords hcompiles (hlost rfl)
    exact seeks_loose_iff.mpr ⟨hwords, hkept, v, hpiece, hstrewn.mono hle⟩

variable {options options' : SearchOptions} {mode : EqualityMode} {type : Option FieldType}

/-- **Two leaves that are equal stay so with a wider gap**, unless they are
strings whose needle is lost. -/
theorem answerOf_scalars_wider (hle : options.gap ≤ options'.gap) {a b : Value}
    (hlost : mode = .loose → ∀ c d, a = .string c → b = .string d →
      ¬ Needle.Lost options.gap options'.gap (needleOf (normalize c) (normalize d)))
    (h : answerOf (scalars options mode type a b) = true) :
    answerOf (scalars options' mode type a b) = true := by
  refine answerOf_scalars_mono h fun c d hc hd hequal => ?_
  exact normalizedEqual_mono hequal fun _ _ hseeks =>
    seeks_mono hle (fun hmode => hlost hmode c d hc hd) hseeks

theorem answerOf_values_iff {left right : Value} :
    answerOf (values options mode type right left) = true ↔
      ∃ a ∈ left.leaves, ∃ b ∈ right.leaves, answerOf (scalars options mode type a b) = true := by
  rw [answerOf_values]
  simp only [List.any_eq_true]

end Equality

/-! ## Conditions -/

namespace Scope

variable {Card Context : Type} [PatternCompiler] (s : Scope Card Context) (card : Card)

/-- **Whether a node compares two leaves loosely**: it is an equality or a
membership, and they are leaves of the values that it compares. -/
inductive ComparesLoosely : Expr → Value → Value → Prop where
  | equality {negated : Bool} {left right : Expr} {span : Span} {v w a b : Value}
    (hleft : (s.operand card left).answer = .ok (.value v))
    (hright : (s.operand card right).answer = .ok (.value w))
    (ha : a ∈ v.leaves) (hb : b ∈ w.leaves) :
    ComparesLoosely (.binary (.equality .loose negated) left right span) a b
  | membership {negated : Bool} {left element : Expr} {elements : List Expr} {span span' : Span}
    {v w a b : Value} (helement : element ∈ elements)
    (hleft : (s.operand card left).answer = .ok (.value v))
    (hright : (s.operand card element).answer = .ok (.value w))
    (ha : a ∈ v.leaves) (hb : b ∈ w.leaves) :
    ComparesLoosely (.binary (.membership .loose negated) left (.list elements span') span) a b

/-- **Whether a node loses what it compares** where the options of searching
become others: there are leaves that it compares loosely and that are equal, and
all of them are strings whose needle is lost. -/
structure Loses (options : SearchOptions) (node : Expr) : Prop where
  equal : ∃ a b, s.ComparesLoosely card node a b ∧
    answerOf (Equality.scalars s.options .loose none a b) = true
  lost : ∀ a b, s.ComparesLoosely card node a b →
    answerOf (Equality.scalars s.options .loose none a b) = true →
      ∃ c d, a = .string c ∧ b = .string d ∧ Needle.Lost s.options.gap options.gap
        (Equality.needleOf (Equality.normalize c) (Equality.normalize d))

variable {s card} in
/-- Where a node compares two strings, it is their needle that is lost. -/
theorem Loses.needle {options : SearchOptions} {negated : Bool} {left right : Expr} {span : Span}
    {x y : String} (h : s.Loses card options (.binary (.equality .loose negated) left right span))
    (hleft : (s.operand card left).answer = .ok (.value (.string x)))
    (hright : (s.operand card right).answer = .ok (.value (.string y))) :
    Needle.Lost s.options.gap options.gap
      (Equality.needleOf (Equality.normalize x) (Equality.normalize y)) := by
  obtain ⟨a, b, hcompares, hequal⟩ := h.equal
  obtain ⟨c, d, rfl, rfl, hlost⟩ := h.lost a b hcompares hequal
  obtain ⟨hleft', hright', hc, hd⟩ := hcompares
  obtain rfl := Operand.value.inj (Except.ok.inj (hleft.symm.trans hleft'))
  obtain rfl := Operand.value.inj (Except.ok.inj (hright.symm.trans hright'))
  obtain rfl := Value.string.inj (List.mem_singleton.mp hc)
  obtain rfl := Value.string.inj (List.mem_singleton.mp hd)
  exact hlost

variable (options : SearchOptions)

/-- Operands do not depend on the options of searching. -/
theorem answer_operand_withOptions (e : Expr) :
    ((s.withOptions options).operand card e).answer = (s.operand card e).answer := by
  have hvalue : ∀ e, (do
        return Operand.value (← Evaluation.ofExcept ((s.withOptions options).value card e))
        : Evaluation Operand).answer
      = (do return Operand.value (← Evaluation.ofExcept (s.value card e))
        : Evaluation Operand).answer := by
    intro e
    rw [value_withOptions]
  induction e with
  | group body span ih => exact ih
  | literal v span =>
    cases v with
    | regex source =>
      rw [answer_operand_regex, answer_operand_regex]
    | _ => exact hvalue _
  | _ => exact hvalue _

theorem answer_operands_withOptions (es : List Expr) :
    ((s.withOptions options).operands card es).answer = (s.operands card es).answer := by
  induction es with
  | nil => rfl
  | cons e es ih =>
    rw [answer_operands_cons, answer_operands_cons, answer_operand_withOptions, ih]

variable {s card options}

/-- **What a list contributes, its elements do.** -/
theorem mem_operands_iff {es : List Expr} {os : List Operand}
    (h : (s.operands card es).answer = .ok os) {o : Operand} :
    o ∈ os ↔ ∃ e ∈ es, (s.operand card e).answer = .ok o := by
  induction es generalizing os with
  | nil =>
    cases h
    simp
  | cons e es ih =>
    simp only [answer_operands_cons, EvalError.bind_eq_ok] at h
    obtain ⟨first, hfirst, others, hothers, h⟩ := h
    obtain rfl := Except.ok.inj h
    rw [List.mem_cons, List.exists_mem_cons_iff, ih hothers, hfirst, Except.ok.injEq, eq_comm]

variable (hle : s.options.gap ≤ options.gap)
include hle

/-- Where not all that a node compares is lost, some of it stays equal. -/
theorem exists_equal_of_not_loses {node : Expr} (hkeeps : ¬ s.Loses card options node)
    (hequal : ∃ a b, s.ComparesLoosely card node a b ∧
      answerOf (Equality.scalars s.options .loose none a b) = true) :
    ∃ a b, s.ComparesLoosely card node a b ∧
      answerOf (Equality.scalars options .loose none a b) = true := by
  refine Classical.byContradiction fun hnone => hkeeps ⟨hequal, fun a b hcompares h => ?_⟩
  refine Classical.byContradiction fun hnot => hnone ⟨a, b, hcompares, ?_⟩
  exact Equality.answerOf_scalars_wider hle
    (fun _ c d hc hd hlost => hnot ⟨c, d, hc, hd, hlost⟩) h

/-- What is equal stays so, but for two values that are compared loosely. -/
theorem operandsEqual_wider {mode : EqualityMode} {type : Option FieldType} {l r : Operand}
    (h : answerOf (s.operandsEqual mode type l r) = true) :
    answerOf ((s.withOptions options).operandsEqual mode type l r) = true ∨
      ∃ v w, mode = .loose ∧ l = .value v ∧ r = .value w := by
  cases l with
  | value v =>
    cases r with
    | value w =>
      cases mode with
      | strict =>
        obtain ⟨a, ha, b, hb, hequal⟩ := Equality.answerOf_values_iff.mp h
        exact .inl (Equality.answerOf_values_iff.mpr ⟨a, ha, b, hb,
          Equality.answerOf_scalars_wider hle (fun hmode => by cases hmode) hequal⟩)
      | loose => exact .inr ⟨v, w, rfl, rfl, rfl⟩
    | pattern p => exact .inl h
  | pattern p => cases r <;> exact .inl h

theorem compares_wider {mode : EqualityMode} {type : Option FieldType} {left right : Expr}
    {span : Span} {b : Bool}
    (hkeeps : ¬ s.Loses card options (.binary (.equality mode false) left right span))
    (h : (s.compares card mode false type left right).answer = .ok true)
    (h' : ((s.withOptions options).compares card mode false type left right).answer = .ok b) :
    b = true := by
  simp only [answer_compares, answer_operand_withOptions, EvalError.bind_eq_ok] at h h'
  obtain ⟨l, hl, r, hr, h⟩ := h
  obtain ⟨l', hl', r', hr', h'⟩ := h'
  obtain rfl := Except.ok.inj (hl.symm.trans hl')
  obtain rfl := Except.ok.inj (hr.symm.trans hr')
  have hequal : answerOf (s.operandsEqual mode type l r) = true := by
    simpa using Except.ok.inj h
  have hequal' : answerOf ((s.withOptions options).operandsEqual mode type l r) = true := by
    rcases operandsEqual_wider hle hequal with hequal' | ⟨v, w, rfl, rfl, rfl⟩
    · exact hequal'
    · obtain ⟨c, hc, d, hd, hleaves⟩ := Equality.answerOf_values_iff.mp hequal
      obtain ⟨c, d, hcompares, hleaves'⟩ :=
        exists_equal_of_not_loses hle hkeeps ⟨c, d, .equality hl hr hc hd, hleaves⟩
      obtain ⟨hl', hr', hc, hd⟩ := hcompares
      obtain rfl := Operand.value.inj (Except.ok.inj (hl.symm.trans hl'))
      obtain rfl := Operand.value.inj (Except.ok.inj (hr.symm.trans hr'))
      exact Equality.answerOf_values_iff.mpr ⟨c, hc, d, hd, hleaves'⟩
  rw [← Except.ok.inj h', hequal']
  rfl

theorem isMember_wider {mode : EqualityMode} {type : Option FieldType} {left right : Expr}
    {span : Span} {b : Bool}
    (hkeeps : ¬ s.Loses card options (.binary (.membership mode false) left right span))
    (h : (s.isMember card mode false type left right).answer = .ok true)
    (h' : ((s.withOptions options).isMember card mode false type left right).answer = .ok b) :
    b = true := by
  obtain ⟨elements, span', rfl⟩ := s.exists_list_of_answer_isMember card h
  simp only [answer_isMember_list, answer_operand_withOptions, answer_operands_withOptions,
    EvalError.bind_eq_ok] at h h'
  obtain ⟨l, hl, rs, hrs, h⟩ := h
  obtain ⟨l', hl', rs', hrs', h'⟩ := h'
  obtain rfl := Except.ok.inj (hl.symm.trans hl')
  obtain rfl := Except.ok.inj (hrs.symm.trans hrs')
  have hfound : (rs.any fun r => answerOf (s.operandsEqual mode type l r)) = true := by
    simpa using Except.ok.inj h
  obtain ⟨r, hr, hequal⟩ := List.any_eq_true.mp hfound
  have hfound' : (rs.any fun r =>
      answerOf ((s.withOptions options).operandsEqual mode type l r)) = true := by
    rcases operandsEqual_wider hle hequal with hequal' | ⟨v, w, rfl, rfl, rfl⟩
    · exact List.any_eq_true.mpr ⟨r, hr, hequal'⟩
    · obtain ⟨c, hc, d, hd, hleaves⟩ := Equality.answerOf_values_iff.mp hequal
      obtain ⟨element, helement, hanswer⟩ := (mem_operands_iff hrs).mp hr
      obtain ⟨c, d, hcompares, hleaves'⟩ := exists_equal_of_not_loses hle hkeeps
        ⟨c, d, .membership helement hl hanswer hc hd, hleaves⟩
      -- what stays equal may be another element
      obtain - | ⟨helement, hl', hanswer, hc, hd⟩ := hcompares
      obtain rfl := Operand.value.inj (Except.ok.inj (hl.symm.trans hl'))
      exact List.any_eq_true.mpr ⟨_, (mem_operands_iff hrs).mpr ⟨_, helement, hanswer⟩,
        Equality.answerOf_values_iff.mpr ⟨c, hc, d, hd, hleaves'⟩⟩
  rw [← Except.ok.inj h', hfound']
  rfl

/-- **An atom without a denial that holds goes on to hold with a wider gap**,
unless it loses what it compares. -/
theorem atom_wider {e : Expr} (hatom : e.isAtom = true) (haffirms : e.affirms = true)
    (hkeeps : ¬ s.Loses card options e) : s.KeepsTruth card (s.withOptions options) e := by
  intro h b h'
  cases e with
  | literal v span =>
    have hsame : (s.withOptions options).holds card (.literal v span)
        = s.holds card (.literal v span) := by
      cases v <;> rfl
    rw [hsame, h] at h'
    exact (Except.ok.inj h').symm
  | identifier name span =>
    have hsame : (s.withOptions options).lookup card name = s.lookup card name := rfl
    rw [answer_holds_identifier] at h h'
    rw [hsame, h] at h'
    exact (Except.ok.inj h').symm
  | group body span => cases hatom
  | list es span => cases h
  | binary op l r span =>
    rw [answer_holds_binary, EvalError.bind_eq_ok] at h h'
    rw [commonType_withOptions] at h'
    obtain ⟨type, htype, h⟩ := h
    obtain ⟨type', htype', h'⟩ := h'
    obtain rfl := Except.ok.inj (htype.symm.trans htype')
    cases op with
    | and => cases hatom
    | or => cases hatom
    | equality mode negated =>
      obtain rfl : negated = false := by simpa [Expr.affirms, Operator.isNegated] using haffirms
      exact compares_wider hle hkeeps h h'
    | membership mode negated =>
      obtain rfl : negated = false := by simpa [Expr.affirms, Operator.isNegated] using haffirms
      exact isMember_wider hle hkeeps h h'
    | relation relation =>
      dsimp only at h h'
      rw [related, numbers_withOptions] at h'
      exact (Except.ok.inj (h.symm.trans h')).symm
    | arithmetic op =>
      dsimp only at h h'
      rw [computesTruth, numbers_withOptions] at h'
      exact (Except.ok.inj (h.symm.trans h')).symm

end Scope

/-! ## What a matcher says -/

/-- **A wider gap loses nothing that fitted**, as long as needles are compiled with
it. A card that fits a query without a denial fits it with a wider gap too, if
the query can be evaluated there, unless some node of the query loses what it
compares: whatever made it hold are strings whose needle has several words, was
compiled with the one gap, and is refused with the other. This holds of every
compiler, and of any two matchers of the same fields and context, whatever they
were asked before. -/
theorem Matcher.fits_of_wider_gap [PatternCompiler] {Card Context : Type} {s : Scope Card Context}
    {options : SearchOptions} {near far : Matcher Card Context} (hnear : Of s near)
    (hfar : Of (s.withOptions options) far) (hle : s.options.gap ≤ options.gap) {query : Expr}
    (haffirms : ∀ node ∈ query.nodes, node.2.affirms = true) {card : Card}
    (hfits : (near.matchCard query card).1 = .ok true)
    (hanswers : ∀ e, (far.matchCard query card).1 ≠ .error e) :
    (far.matchCard query card).1 = .ok true ∨
      ∃ node ∈ query.nodes, s.Loses card options node.2 := by
  refine or_iff_not_imp_right.mpr fun hnone => ?_
  have hkeeps : ∀ node ∈ query.nodes, ¬ s.Loses card options node.2 :=
    fun node hnode hloses => hnone ⟨node, hnode, hloses⟩
  rw [hnear.matchCard_eq] at hfits
  rw [hfar.matchCard_eq] at hanswers ⊢
  cases hanswer : ((s.withOptions options).holds card query).answer with
  | error e => exact absurd hanswer (hanswers e)
  | ok b =>
    have htruth : s.KeepsTruth card (s.withOptions options) query :=
      Scope.keepsTruth_of_atoms 0 fun node hnode hatom =>
        Scope.atom_wider hle hatom (haffirms node hnode) (hkeeps node hnode)
    rw [htruth hfits b hanswer]

/-- Two words with two characters between them are found with a gap of three, so
they are found with one of twenty. -/
theorem Matcher.fits_of_wider_gap_twenty :
    let s : Scope Value Unit :=
      ⟨Registry.empty.insert "name" ⟨.string, fun card _ => card⟩, (), ⟨3, 1000⟩⟩
    let query : Expr := .binary (.equality .loose false) (.identifier "name" (.point .start))
      (.literal (.string "a b") (.point .start)) (.point .start)
    let far : Matcher Value Unit := fresh (s.withOptions .standard)
    ((fresh s).matchCard query (.string "xA12by")).1 = .ok true ∧
      (far.matchCard query (.string "xA12by")).1 = .ok true := by
  intro s query far
  have hfits : ((fresh s).matchCard query (.string "xA12by")).1 = .ok true := by decide +kernel
  have hanswers : ∀ e, (far.matchCard query (.string "xA12by")).1 ≠ .error e := by
    intro e herror
    have hanswer : (far.matchCard query (.string "xA12by")).1.isOk = true := by decide +kernel
    rw [herror] at hanswer
    cases hanswer
  have hwider := fits_of_wider_gap (.fresh s) (.fresh (s.withOptions .standard)) (by decide)
    (by decide) hfits hanswers
  refine ⟨hfits, hwider.resolve_right ?_⟩
  have hnodes : query.nodes = [(0, query), (1, .identifier "name" (.point .start)),
      (1, .literal (.string "a b") (.point .start))] := rfl
  rintro ⟨⟨depth, e⟩, hnode, hloses⟩
  rw [hnodes] at hnode
  simp only [List.mem_cons, List.not_mem_nil, or_false, Prod.mk.injEq] at hnode
  obtain ⟨-, rfl⟩ | ⟨-, rfl⟩ | ⟨-, rfl⟩ := hnode
  · have hlost := hloses.needle (x := "xA12by") (y := "a b") rfl rfl
    have hkept : (Needle.ofText? (Equality.needleOf (Equality.normalize "xA12by")
      (Equality.normalize "a b")) SearchOptions.standard.gap).isNone = false := by decide +kernel
    rw [hlost.after] at hkept
    cases hkept
  · obtain ⟨a, b, hcompares, -⟩ := hloses.equal
    cases hcompares
  · obtain ⟨a, b, hcompares, -⟩ := hloses.equal
    cases hcompares

/-- A wider gap as such does lose something: with the widest there is, a needle of
two words is not compiled, and a text is not found in itself. -/
theorem Matcher.fits_not_of_wider_gap :
    let s : Scope Value Unit :=
      ⟨Registry.empty.insert "name" ⟨.string, fun card _ => card⟩, (), .standard⟩
    let query : Expr := .binary (.equality .loose false) (.identifier "name" (.point .start))
      (.literal (.string "a b") (.point .start)) (.point .start)
    s.options.gap ≤ 4294967295 ∧ (∀ node ∈ query.nodes, node.2.affirms = true) ∧
      ((fresh s).matchCard query (.string "a b")).1 = .ok true ∧
      ((fresh (s.withOptions ⟨4294967295, 1000⟩)).matchCard query (.string "a b")).1
        = .ok false := by
  decide +kernel

end CardQuery
