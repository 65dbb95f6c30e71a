import CardQuery.Proofs.Evaluation.Leaves
import CardQuery.Proofs.Text.Normalizing

/-!
# Case and blanks in equalities

A string is looked at in two ways before it is compared. As a number it is trimmed and then put in
lowercase, and as a text it is put in lowercase and then trimmed. Both come to the same, so a
string and its normal form, `Text.lowercase (Text.trim a)`, are the same to an equality, next to
whatever value, on either side, in either mode and on every field
(`Matcher.equalValues_lowercase_trim`). Not even the patterns that are remembered differ.

A string of nothing but blanks is left out. It is as true as any other string, and its normal form,
which is empty, is not.
-/

namespace CardQuery

/-- Two strings with one normal form are the same number, or neither is a number. -/
theorem Value.numberOfText_congr {a a' : String}
    (h : Text.lowercase (Text.trim a) = Text.lowercase (Text.trim a')) :
    numberOfText a = numberOfText a' ∨
      ∃ e e', numberOfText a = .error e ∧ numberOfText a' = .error e' := by
  rw [numberOfText, numberOfText, h]
  split
  · exact .inl rfl
  · exact .inl rfl
  · exact .inl rfl
  · exact .inl rfl
  · split
    · exact .inl rfl
    · exact .inr ⟨_, _, rfl, rfl⟩

namespace Equality

/-- **Two strings that an equality looks at in the same way**: as numbers, as texts and as
blanks. -/
structure LooksLike (a a' : String) : Prop where
  number : Text.lowercase (Text.trim a) = Text.lowercase (Text.trim a')
  text : normalize a = normalize a'
  blank : a.isEmpty = a'.isEmpty

/-- **A string looks like its normal form**, unless it is blank. -/
theorem looksLike_lowercase_trim {a : String} (h : ∃ c ∈ a.toList, Text.isBlank c = false) :
    LooksLike a (Text.lowercase (Text.trim a)) := by
  have hne : a ≠ "" := by
    rintro rfl
    obtain ⟨c, hc, -⟩ := h
    cases hc
  have hne' := Text.lowercase_ne_empty (Text.trim_ne_empty h)
  refine ⟨?_, ?_, ?_⟩
  · rw [← Text.lowercase_trim (Text.trim a), Text.trim_trim, Text.lowercase_lowercase]
  · rw [normalize, normalize, Text.lowercase_lowercase, Text.lowercase_trim, Text.trim_trim]
  · rw [Bool.eq_iff_iff, String.isEmpty_iff, String.isEmpty_iff]
    exact iff_of_false hne hne'

section LooksLike

variable {a a' : String} (h : LooksLike a a')

include h

theorem LooksLike.asNumbers?_eq (v : Value) :
    asNumbers? v (.string a) = asNumbers? v (.string a') := by
  rcases Value.numberOfText_congr h.number with heq | ⟨e, e', ha, ha'⟩
  · cases v <;> simp only [asNumbers?, heq]
  · cases v <;> simp only [asNumbers?, ha, ha']

variable [PatternCompiler] (options : SearchOptions) (mode : EqualityMode) (type : Option FieldType)

/-- Next to a value that is no array, either string is as good as the other. -/
theorem LooksLike.scalars_eq (v : Value) :
    scalars options mode type (.string a) v = scalars options mode type (.string a') v ∧
      scalars options mode type v (.string a) = scalars options mode type v (.string a') := by
  have hblank : (Value.string a).isBlank = (Value.string a').isBlank := h.blank
  have htruthy : (Value.string a).isTruthy = (Value.string a').isTruthy :=
    congrArg (fun b => !b) h.blank
  -- a string on the left is no number to either
  have hnumbers : asNumbers? (.string a) v = asNumbers? (.string a') v := rfl
  constructor
  all_goals
    unfold scalars
    rw [hnumbers, h.asNumbers?_eq, hblank, htruthy]
    cases v <;> simp only [texts, h.text]

/-- **Next to any value**, either string is as good as the other, on either side. -/
theorem LooksLike.values_eq (v : Value) :
    values options mode type v (.string a) = values options mode type v (.string a') ∧
      values options mode type (.string a) v = values options mode type (.string a') v := by
  have hscalars := h.scalars_eq options mode type
  induction v using Value.induction with
  | array items ih =>
    -- the first item that is equal to the one string is the first that is equal to the other
    rw [values, values, values, values, scalarWith, scalarWith]
    induction items with
    | nil => exact ⟨rfl, rfl⟩
    | cons v rest ihrest =>
      obtain ⟨⟨hleft, hright⟩, hrest⟩ := List.forall_mem_cons.mp ih
      obtain ⟨hlefts, hrights⟩ := ihrest hrest
      rw [values, values] at hleft
      rw [scalarWithAny, scalarWithAny, anyWith, anyWith, hleft, hright, hlefts, hrights]
      exact ⟨rfl, rfl⟩
  | null => exact hscalars .null
  | boolean b => exact hscalars (.boolean b)
  | number x => exact hscalars (.number x)
  | string s => exact hscalars (.string s)

end LooksLike

end Equality

namespace Matcher

open Equality

/-- **Equality ignores the case of a string and the blanks around it.** Let `a` be a string with a
character that is no blank, and `a'` its normal form: `a` without the blanks around it, in
lowercase. Then `a` is equal to a value just as `a'` is, and a value to `a` as to `a'`, in either
mode and on every field. That holds of any two matchers with one scope, whatever they were asked
before, and one and the same matcher also remembers the same patterns afterwards. -/
theorem equalValues_lowercase_trim [PatternCompiler] {Card Context : Type} {s : Scope Card Context}
    {m n : Matcher Card Context} (hm : Of s m) (hn : Of s n) (mode : EqualityMode)
    (type : Option FieldType) {a : String} (ha : ∃ c ∈ a.toList, Text.isBlank c = false)
    (b : Value) :
    let a' := Value.string (Text.lowercase (Text.trim a))
    (m.equalValues mode type (.string a) b).1 = (n.equalValues mode type a' b).1 ∧
      (m.equalValues mode type b (.string a)).1 = (n.equalValues mode type b a').1 ∧
      m.equalValues mode type (.string a) b = m.equalValues mode type a' b ∧
      m.equalValues mode type b (.string a) = m.equalValues mode type b a' := by
  intro a'
  obtain ⟨hleft, hright⟩ := (looksLike_lowercase_trim ha).values_eq m.scope.options mode type b
  have hleft : m.equalValues mode type (.string a) b = m.equalValues mode type a' b := by
    rw [equalValues, hleft]
    rfl
  have hright : m.equalValues mode type b (.string a) = m.equalValues mode type b a' := by
    rw [equalValues, hright]
    rfl
  refine ⟨?_, ?_, hleft, hright⟩
  · rw [hleft, hm.equalValues_eq, hn.equalValues_eq]
  · rw [hright, hm.equalValues_eq, hn.equalValues_eq]

/-- `ΟΔΟΣ` with blanks around it is equal to an array that holds `Οδος` further in. The last
letter is put in lowercase as at the end of a word, whether the blanks are there or not. -/
theorem equalValues_lowercase_trim_odos :
    let m : Matcher Unit Unit := fresh ⟨.empty, (), .standard⟩
    let a := "  ΟΔΟΣ\t"
    let b := Value.array [.number 3, .array [.null, .string "Οδος"]]
    (∃ c ∈ a.toList, Text.isBlank c = false) ∧ Text.lowercase (Text.trim a) = "οδος" ∧
      (m.equalValues .strict none (.string a) b).1 = true ∧
      (m.equalValues .strict none (.string a) b).1
        = (m.equalValues .strict none (.string (Text.lowercase (Text.trim a))) b).1 ∧
      (m.equalValues .strict none b (.string a)).1
        = (m.equalValues .strict none b (.string (Text.lowercase (Text.trim a)))).1 := by
  intro m a b
  have hletter : ∃ c ∈ a.toList, Text.isBlank c = false := ⟨'Δ', by decide, by decide⟩
  obtain ⟨hnormal, htrue⟩ : Text.lowercase (Text.trim a) = "οδος" ∧
      (m.equalValues .strict none (.string a) b).1 = true := by
    decide +kernel
  obtain ⟨hleft, hright, -, -⟩ :=
    equalValues_lowercase_trim (.fresh m.scope) (.fresh m.scope) .strict none hletter b
  exact ⟨hletter, hnormal, htrue, hleft, hright⟩

end Matcher

end CardQuery
