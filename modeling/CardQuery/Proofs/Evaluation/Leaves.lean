import CardQuery.Proofs.Evaluation.Answer
import CardQuery.Proofs.Pattern.Needle

/-!
# The leaves of values

Several values are equal to something if any of them is, and any of them may
again be several. Taken apart all the way down, two values are equal if some
leaf of the one is equal to some leaf of the other
(`Equality.answerOf_values`), so what is proved of an equality need be proved
of leaves only.

Two strings that are no numbers are equal if the shorter one is found in the
longer one, as the mode and the type of the field have it
(`Equality.seeks`), or the left one in the right one where they are equally
long.
-/

namespace CardQuery

namespace Value

/-- **Induction over values.** For several values the statement may be used at
each of them. -/
@[elab_as_elim]
theorem induction {motive : Value → Prop} (null : motive .null)
    (boolean : ∀ b, motive (.boolean b)) (number : ∀ x, motive (.number x))
    (string : ∀ s, motive (.string s))
    (array : ∀ items, (∀ v ∈ items, motive v) → motive (.array items)) (v : Value) : motive v :=
  match v with
  | .null => null
  | .boolean b => boolean b
  | .number x => number x
  | .string s => string s
  | .array items => array items fun v _ => induction null boolean number string array v

mutual

/-- **The leaves of a value**: what it holds that is not again several
values. -/
def leaves : Value → List Value
  | array items => leavesOf items
  | null => [null]
  | boolean b => [boolean b]
  | number x => [number x]
  | string s => [string s]

/-- The leaves of some values. -/
def leavesOf : List Value → List Value
  | [] => []
  | v :: rest => v.leaves ++ leavesOf rest

end

theorem leavesOf_eq_flatMap (items : List Value) : leavesOf items = items.flatMap leaves := by
  induction items with
  | nil => rfl
  | cons v rest ih => rw [leavesOf, ih, List.flatMap_cons]

/-- A leaf has no leaves but itself. -/
theorem leaves_of_mem {a v : Value} (h : a ∈ v.leaves) : a.leaves = [a] := by
  induction v using Value.induction with
  | array items ih =>
    rw [leaves, leavesOf_eq_flatMap, List.mem_flatMap] at h
    obtain ⟨w, hw, ha⟩ := h
    exact ih w hw ha
  | _ =>
    rw [List.mem_singleton.mp h]
    rfl

end Value

namespace Equality

/-! ## From values to leaves -/

theorem any_congr_of_mem {α : Type} {items : List α} {f g : α → Bool}
    (h : ∀ a ∈ items, f a = g a) : items.any f = items.any g := by
  rw [Bool.eq_iff_iff, List.any_eq_true, List.any_eq_true]
  exact exists_congr fun a => and_congr_right fun ha => by rw [h a ha]

section Leaves

variable [PatternCompiler] (options : SearchOptions) (mode : EqualityMode) (type : Option FieldType)

theorem answerOf_scalarWith (left right : Value) :
    answerOf (scalarWith options mode type left right)
      = right.leaves.any fun b => answerOf (scalars options mode type left b) := by
  induction right using Value.induction with
  | array items ih =>
    rw [scalarWith, answerOf_scalarWithAny, Value.leaves, Value.leavesOf_eq_flatMap,
      List.any_flatMap]
    exact any_congr_of_mem ih
  | _ => exact (Bool.or_false _).symm

/-- **Two values are equal if a leaf of the one is equal to a leaf of the
other.** -/
theorem answerOf_values (left right : Value) :
    answerOf (values options mode type right left)
      = left.leaves.any fun a => right.leaves.any fun b =>
        answerOf (scalars options mode type a b) := by
  induction left using Value.induction with
  | array items ih =>
    rw [values, answerOf_anyWith, Value.leaves, Value.leavesOf_eq_flatMap, List.any_flatMap]
    exact any_congr_of_mem ih
  | _ =>
    rw [values, answerOf_scalarWith]
    exact (Bool.or_false _).symm

end Leaves

/-! ## From strings to searches -/

theorem isPieceOf_iff {piece cs : List Char} : isPieceOf piece cs = true ↔ piece <:+: cs := by
  induction cs with
  | nil => rw [isPieceOf, List.isEmpty_iff, List.infix_nil]
  | cons c cs ih =>
    rw [isPieceOf, Bool.or_eq_true, List.isPrefixOf_iff_prefix, ih, List.infix_cons_iff]

section Texts

variable [PatternCompiler]

/-- **Whether a needle is found in a text**, as the mode and the type have
it. -/
def seeks (gap : Nat) (mode : EqualityMode) (type : Option FieldType) (needle text : String) :
    Bool :=
  match mode with
  | .loose => (Cache.makeNeedle? gap needle).any fun p => Needle.foundBy p text
  | .strict => if type = some .text then contains needle text else needle == text

/-- Whether two texts are equal that are in lowercase and without blanks
around them. -/
def normalizedEqual (gap : Nat) (mode : EqualityMode) (type : Option FieldType)
    (left right : String) : Bool :=
  if left.isEmpty || right.isEmpty then left == right
  else if right.length < left.length then seeks gap mode type right left
  else seeks gap mode type left right

/-- The one of two texts that is looked for: the shorter one, or the left one
where they are equally long. -/
def needleOf (left right : String) : String := if right.length < left.length then right else left

/-- The one of two texts in which the other is looked for. -/
def haystackOf (left right : String) : String :=
  if right.length < left.length then left else right

/-- Two texts that are not empty are equal if the one is found in the other. -/
theorem normalizedEqual_of_ne {gap : Nat} {mode : EqualityMode} {type : Option FieldType}
    {l r : String} (hl : l ≠ "") (hr : r ≠ "") : normalizedEqual gap mode type l r
      = seeks gap mode type (needleOf l r) (haystackOf l r) := by
  have hne : ¬ (l.isEmpty || r.isEmpty) = true := by
    rw [Bool.or_eq_true, String.isEmpty_iff, String.isEmpty_iff]
    exact not_or.mpr ⟨hl, hr⟩
  rw [normalizedEqual, if_neg hne, needleOf, haystackOf]
  split <;> rfl

theorem answerOf_finds (options : SearchOptions) (needle text : String) :
    answerOf (finds options needle text)
      = (Cache.makeNeedle? options.gap needle).any fun p => Needle.foundBy p text := by
  have hlookup : @Gives _ (Option Pattern) options.gap
      (Cache.needle? options.gap options.capacity needle) (Cache.makeNeedle? options.gap needle) :=
    fun _ hc => hc.needle? options.capacity needle
  refine Gives.answerOf_eq (hlookup.bind ?_)
  cases Cache.makeNeedle? options.gap needle with
  | none => exact .pure false
  | some p => exact .pure (Needle.foundBy p text)

/-- **What a comparison of texts answers.** -/
theorem answerOf_texts (options : SearchOptions) (mode : EqualityMode) (type : Option FieldType)
    (left right : String) :
    answerOf (texts options mode type left right)
      = normalizedEqual options.gap mode type (normalize left) (normalize right) := by
  unfold texts normalizedEqual
  dsimp only
  generalize normalize left = l
  generalize normalize right = r
  split
  · rfl
  by_cases hlt : r.length < l.length
  · rw [if_pos hlt, if_pos hlt]
    cases mode with
    | loose => exact answerOf_finds options r l
    | strict =>
      show (if type = some .text then contains r l else l == r) = seeks _ _ _ _ _
      rw [seeks, BEq.comm]
  · rw [if_neg hlt, if_neg hlt]
    cases mode with
    | loose => exact answerOf_finds options l r
    | strict => rfl

/-- **What a comparison of strings answers.** An empty string is equal to an
empty string only, and others are compared as texts. -/
theorem answerOf_scalars_strings (options : SearchOptions) (mode : EqualityMode)
    (type : Option FieldType) (s t : String) :
    answerOf (scalars options mode type (.string s) (.string t))
      = if s.isEmpty || t.isEmpty then s.isEmpty && t.isEmpty
        else normalizedEqual options.gap mode type (normalize s) (normalize t) := by
  show answerOf (if s.isEmpty || t.isEmpty then pure (!(!s.isEmpty) && !(!t.isEmpty))
    else texts options mode type s t) = _
  split
  · show (!(!s.isEmpty) && !(!t.isEmpty)) = _
    rw [Bool.not_not, Bool.not_not]
  · exact answerOf_texts options mode type s t

/-- Two strings with something in them are compared as texts. -/
theorem answerOf_scalars_string {options : SearchOptions} {mode : EqualityMode}
    {type : Option FieldType} {s t : String} (hs : normalize s ≠ "") (ht : normalize t ≠ "") :
    answerOf (scalars options mode type (.string s) (.string t))
      = normalizedEqual options.gap mode type (normalize s) (normalize t) := by
  rw [answerOf_scalars_strings, if_neg]
  rw [Bool.or_eq_true, String.isEmpty_iff, String.isEmpty_iff]
  rintro (rfl | rfl)
  · exact hs rfl
  · exact ht rfl

end Texts

end Equality

namespace Needle

/-- One word looks like itself but for case. -/
theorem strewn_singleton {gap : Nat} {word v : List Char} :
    Strewn gap [word] v ↔ Text.Alike v word := by
  constructor
  · rintro (h | ⟨-, -, -, hrest⟩)
    · exact h
    · cases hrest
  · exact .last

end Needle

namespace Equality

/-- **A loose search finds what the words of the needle look like**, if it has
words that make a needle which is compiled. -/
theorem seeks_loose_iff [PatternCompiler] {gap : Nat} {type : Option FieldType}
    {needle text : String} :
    seeks gap .loose type needle text = true ↔
      Text.words (Needle.prepare needle) ≠ [] ∧
        Needle.compiles ⟨Text.words (Needle.prepare needle), gap⟩ = true ∧
        ∃ v, v <:+: Needle.prepare text ∧
          Needle.Strewn gap (Text.words (Needle.prepare needle)) v := by
  have hmake : seeks gap .loose type needle text = true ↔
      ∃ n, Needle.ofText? needle gap = some n ∧ Needle.foundBy n.pattern text = true := by
    rw [seeks, Cache.makeNeedle?]
    cases Needle.ofText? needle gap <;> simp
  rw [hmake]
  constructor
  · rintro ⟨n, hn, hfound⟩
    obtain ⟨hwords, hcompiles, rfl⟩ := Needle.ofText?_eq_some_iff.mp hn
    clear hn
    generalize Text.words (Needle.prepare needle) = words at hwords hcompiles hfound ⊢
    obtain ⟨u, v, z, htext, hstrewn⟩ := (Needle.foundBy_wordsPattern hwords).mp hfound
    exact ⟨hwords, hcompiles, v, ⟨u, z, htext.symm⟩, hstrewn⟩
  · rintro ⟨hwords, hcompiles, v, ⟨u, z, htext⟩, hstrewn⟩
    refine ⟨_, Needle.ofText?_eq_some_iff.mpr ⟨hwords, hcompiles, rfl⟩, ?_⟩
    generalize Text.words (Needle.prepare needle) = words at hwords hstrewn ⊢
    exact (Needle.foundBy_wordsPattern hwords).mpr ⟨u, v, z, htext.symm, hstrewn⟩

end Equality

/-! ## What a matcher says -/

section Matcher

variable [PatternCompiler] {Card Context : Type} {s : Scope Card Context} {m : Matcher Card Context}

/-- **What a matcher says of two values** is told leaf by leaf. -/
theorem Matcher.Of.equalValues_eq (h : Matcher.Of s m) (mode : EqualityMode)
    (type : Option FieldType) (left right : Value) :
    (m.equalValues mode type left right).1
      = left.leaves.any fun a => right.leaves.any fun b =>
        answerOf (Equality.scalars s.options mode type a b) := by
  obtain ⟨rfl, hsound⟩ := h
  rw [← Equality.answerOf_values]
  have hagree : Agree m.scope.options.gap (Equality.values m.scope.options mode type right left)
      (Equality.values m.scope.options mode type right left) :=
    Equality.values_agree mode type right left
  exact (hagree.gives m.cache hsound).1

/-- What a matcher says of two leaves. -/
theorem Matcher.Of.equalValues_leaves (h : Matcher.Of s m) (mode : EqualityMode)
    (type : Option FieldType) {a b : Value} (ha : a.leaves = [a]) (hb : b.leaves = [b]) :
    (m.equalValues mode type a b).1 = answerOf (Equality.scalars s.options mode type a b) := by
  rw [h.equalValues_eq, ha, hb, List.any_cons, List.any_nil, Bool.or_false, List.any_cons,
    List.any_nil, Bool.or_false]

end Matcher

end CardQuery
