import CardQuery.Card.Conversion
import CardQuery.Proofs.Evaluation.Several

/-!
# The types of converted values

A JSON value becomes the value of a field in one recursion, and suggests the type of a field in
another one. The two agree on what counts as nothing: `null`, an object, and an array of such
things only, at whatever depth. They agree on the order as well. Taken apart into its leaves, the
value of a field shows the suggested type in the first leaf that is a value at all
(`Json.fieldType?_iff_leaves`).

Text is never suggested, since no leaf tells it from a string. A field is of type text only where a
schema says so.
-/

namespace CardQuery

/-- **The type of field that a kind of value suggests.** No value suggests none, and of several
values each has a kind of its own. -/
def ValueKind.fieldType? : ValueKind → Option FieldType
  | .boolean => some .boolean
  | .number => some .number
  | .string => some .string
  | .null | .array => none

/-- Of the leaves of a value, those without a type are no values. -/
theorem Value.fieldType?_eq_none_iff_of_mem_leaves {a v : Value} (h : a ∈ v.leaves) :
    a.kind.fieldType? = none ↔ a = .null := by
  cases a with
  | null => exact iff_of_true rfl rfl
  | array items => exact absurd rfl (kind_of_mem_leaves h)
  | _ => exact iff_of_false nofun nofun

namespace Json

mutual

/-- **The suggested type is that of the first leaf that has one.** -/
theorem fieldType?_eq_findSome? :
    ∀ v : Json, v.fieldType? = v.toValue.leaves.findSome? (·.kind.fieldType?)
  | null | object _ | boolean _ | number _ | string _ => rfl
  | array items => firstFieldType?_eq_findSome? items

theorem firstFieldType?_eq_findSome? : ∀ items : List Json,
    firstFieldType? items = (Value.leavesOf (toValues items)).findSome? (·.kind.fieldType?)
  | [] => rfl
  | v :: rest => by
    rw [firstFieldType?, toValues, Value.leavesOf, List.findSome?_append,
      ← fieldType?_eq_findSome? v, ← firstFieldType?_eq_findSome? rest]
    cases v.fieldType? <;> rfl

end

/-- **What a JSON value suggests** is told by the leaves of what it is converted into. It suggests
nothing if and only if all of them are no values, and otherwise the type of the first one that is
a value, which is a boolean, a number or a string. -/
theorem fieldType?_iff_leaves (v : Json) :
    (v.fieldType? = none ↔ ∀ a ∈ v.toValue.leaves, a = .null) ∧
      ∀ t, v.fieldType? = some t ↔
        ∃ before a after, v.toValue.leaves = before ++ a :: after ∧
          a.kind.fieldType? = some t ∧ ∀ b ∈ before, b = .null := by
  rw [fieldType?_eq_findSome?]
  constructor
  · rw [List.findSome?_eq_none_iff]
    exact forall₂_congr fun a ha => Value.fieldType?_eq_none_iff_of_mem_leaves ha
  · intro t
    rw [List.findSome?_eq_some_iff]
    refine exists_congr fun before => exists_congr fun a => exists_congr fun after =>
      and_congr_right fun hleaves => and_congr_right fun _ => forall₂_congr fun b hb => ?_
    exact Value.fieldType?_eq_none_iff_of_mem_leaves (hleaves ▸ List.mem_append_left _ hb)

/-- The first number stands behind arrays that hold nothing, and in front of a string. -/
example : (array [null, array [object [("x", .string "a")], array []],
    array [null, array [number (.integer 2)]], string "b"]).fieldType? = some .number := rfl

end Json

end CardQuery
