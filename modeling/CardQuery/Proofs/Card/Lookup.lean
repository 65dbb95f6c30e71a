import CardQuery.Card.Schema
import CardQuery.Proofs.Catalog
import Mathlib

/-!
# Looking fields up

A schema becomes a registry by putting its fields in one by one, in the order of their names. Two
names that differ only in case come to the same place there, and the second one takes it. So the
registry holds the lowercase forms of the names, and what is found under one of them is the field
whose own name is the last of those that have this lowercase form (`Schema.registry_lookup`).

What such a field holds on a card is said without the functions that look it up. A path is made of
steps with dots between them (`IsPath`), a step goes into an object only (`Json.Leads`), and the
back counts if it is asked for, has a path, and something stands there (`FieldSpec.HasBack`).
-/

namespace CardQuery

/-! ## Paths -/

/-- **Whether a path is made of some steps**: at least one, none of which has a dot in it, with a
dot between each and the next. -/
structure IsPath (path : String) (steps : List String) : Prop where
  nonempty : steps ≠ []
  undotted : ∀ step ∈ steps, '.' ∉ step.toList
  spelled : ".".intercalate steps = path

/-- The pieces between the dots have no dot in them. -/
theorem not_mem_of_mem_splitOn {α : Type} [BEq α] [LawfulBEq α] {a : α} {xs piece : List α}
    (h : piece ∈ xs.splitOn a) : a ∉ piece := by
  induction xs generalizing piece with
  | nil =>
    rw [List.splitOn_nil, List.mem_singleton] at h
    exact h ▸ List.not_mem_nil
  | cons x xs ih =>
    obtain ⟨first, rest, hxs⟩ := List.exists_cons_of_ne_nil (List.splitOn_ne_nil a xs)
    rw [List.splitOn_cons_eq_if_modifyHead] at h
    split at h
    · rcases List.mem_cons.mp h with rfl | hmem
      · exact List.not_mem_nil
      · exact ih hmem
    · next hx =>
      rw [hxs, List.modifyHead_cons] at h
      rcases List.mem_cons.mp h with rfl | hmem
      · rintro (_ | ⟨_, ha⟩)
        · exact hx (beq_self_eq_true a)
        · exact ih (hxs ▸ .head rest) ha
      · exact ih (hxs ▸ .tail first hmem)

/-- **Every path is made of steps**, in one way. -/
theorem isPath_iff {path : String} {steps : List String} :
    IsPath path steps ↔ FieldSpec.steps path = steps := by
  have hdot : ".".toList = ['.'] := rfl
  constructor
  · rintro ⟨hne, hundotted, rfl⟩
    rw [FieldSpec.steps, String.toList_intercalate, hdot, List.splitOn_intercalate]
    · simp [Function.comp_def]
    · simpa using hundotted
    · simpa using hne
  · rintro rfl
    refine ⟨by simp [FieldSpec.steps], fun step hstep => ?_, ?_⟩
    · obtain ⟨piece, hpiece, rfl⟩ := List.mem_map.mp hstep
      rw [String.toList_ofList]
      exact not_mem_of_mem_splitOn hpiece
    · rw [← String.toList_inj, String.toList_intercalate, hdot, FieldSpec.steps, List.map_map]
      simp [Function.comp_def, List.intercalate_splitOn]

namespace Json

/-- **Whether some steps lead from a card to a value.** Each is the name of a member, and only
objects have members. -/
inductive Leads : Json → List String → Json → Prop where
  | here (v : Json) : Leads v [] v
  | through {members : List (String × Json)} {step : String} {rest : List String} {next v : Json}
      (hnext : Catalog.get? members step = some next) (hrest : Leads next rest v) :
      Leads (.object members) (step :: rest) v

theorem follow?_eq_some_iff {card v : Json} {steps : List String} :
    card.follow? steps = some v ↔ card.Leads steps v := by
  constructor
  · intro h
    induction steps generalizing card with
    | nil =>
      obtain rfl : card = v := Option.some.inj h
      exact .here card
    | cons step rest ih =>
      obtain ⟨next, hnext, hrest⟩ := Option.bind_eq_some_iff.mp h
      cases card with
      | object members => exact .through hnext (ih hrest)
      | _ => cases hnext
  · intro h
    induction h with
    | here v => rfl
    | through hnext _ ih => exact Option.bind_eq_some_iff.mpr ⟨_, hnext, ih⟩

/-- **Whether a path leads from a card to a value.** -/
def Reaches (card : Json) (path : String) (v : Json) : Prop :=
  ∃ steps, IsPath path steps ∧ card.Leads steps v

theorem reaches_iff {card v : Json} {path : String} :
    card.Reaches path v ↔ card.follow? (FieldSpec.steps path) = some v := by
  rw [follow?_eq_some_iff]
  constructor
  · rintro ⟨steps, hpath, hleads⟩
    exact isPath_iff.mp hpath ▸ hleads
  · exact fun h => ⟨_, isPath_iff.mpr rfl, h⟩

/-- **Whether a path has a value on a card**: that of what it leads to, and no value if it leads
nowhere. -/
def HasAt (card : Json) (path : String) (value : Value) : Prop :=
  (∃ v, card.Reaches path v ∧ value = v.toValue) ∨ ((∀ v, ¬ card.Reaches path v) ∧ value = .null)

theorem hasAt_iff {card : Json} {path : String} {value : Value} :
    card.HasAt path value ↔
      ((card.follow? (FieldSpec.steps path)).map toValue).getD .null = value := by
  simp only [HasAt, reaches_iff]
  cases card.follow? (FieldSpec.steps path) with
  | none => simp [eq_comm]
  | some v => simp [eq_comm]

theorem isNull_iff {v : Json} : v.isNull = true ↔ v = .null := by
  cases v <;> simp [isNull]

end Json

/-! ## Fields on cards -/

namespace FieldSpec

/-- **Whether a field has a value on the back of a card**, and backs are read: it has a path to the
back, which leads to something other than `null`. -/
def HasBack (spec : FieldSpec) (card : Json) (context : LookupContext) (value : Value) : Prop :=
  context.matchBacks = true ∧
    ∃ path v, spec.backPath = some path ∧ card.Reaches path v ∧ v ≠ .null ∧ value = v.toValue

theorem back?_eq_some_iff {spec : FieldSpec} {card back : Json} {context : LookupContext} :
    spec.back? card context = some back ↔
      context.matchBacks = true ∧
        ∃ path, spec.backPath = some path ∧ card.Reaches path back ∧ back ≠ .null := by
  rw [back?]
  cases context.matchBacks with
  | false => simp
  | true =>
    simp only [↓reduceIte, Option.bind_eq_bind, Option.bind_eq_some_iff, Json.reaches_iff, true_and]
    refine exists_congr fun path => and_congr_right fun _ => ?_
    constructor
    · rintro ⟨v, hv, hback⟩
      split at hback
      · cases hback
      · next hnull =>
        obtain rfl : v = back := Option.some.inj hback
        exact ⟨hv, fun h => hnull (Json.isNull_iff.mpr h)⟩
    · rintro ⟨hv, hnull⟩
      exact ⟨back, hv, if_neg fun h => hnull (Json.isNull_iff.mp h)⟩

theorem hasBack_iff {spec : FieldSpec} {card : Json} {context : LookupContext} {value : Value} :
    spec.HasBack card context value ↔
      ∃ back, spec.back? card context = some back ∧ value = back.toValue := by
  simp only [back?_eq_some_iff]
  constructor
  · rintro ⟨hbacks, path, v, hpath, hv, hnull, rfl⟩
    exact ⟨v, ⟨hbacks, path, hpath, hv, hnull⟩, rfl⟩
  · rintro ⟨v, ⟨hbacks, path, hpath, hv, hnull⟩, rfl⟩
    exact ⟨hbacks, path, v, hpath, hv, hnull, rfl⟩

/-- A field holds its front, or its front together with its back. -/
theorem valueOn_eq_pair_iff (spec : FieldSpec) (name : String) (card : Json)
    (context : LookupContext) {front : Value}
    (hfront : card.HasAt (spec.path.getD name) front) (back : Value) :
    spec.valueOn name card context = .array [front, back] ↔ spec.HasBack card context back := by
  rw [Json.hasAt_iff] at hfront
  rw [hasBack_iff, valueOn, hfront]
  cases spec.back? card context with
  | none =>
    -- the front alone is no pair that holds it
    refine iff_of_false (fun h => ?_) (by simp)
    have hsize := congrArg sizeOf h
    simp only [Value.array.sizeOf_spec, List.cons.sizeOf_spec] at hsize
    omega
  | some v => simp [eq_comm]

theorem valueOn_eq_front {spec : FieldSpec} {name : String} {card : Json}
    {context : LookupContext} {front : Value} (hfront : card.HasAt (spec.path.getD name) front)
    (hback : ∀ back, ¬ spec.HasBack card context back) :
    spec.valueOn name card context = front := by
  rw [Json.hasAt_iff] at hfront
  simp only [hasBack_iff] at hback
  rw [valueOn, hfront]
  cases hspec : spec.back? card context with
  | none => rfl
  | some v => exact absurd ⟨v, hspec, rfl⟩ (hback v.toValue)

end FieldSpec

/-! ## Registries of schemas -/

namespace Schema

/-- A schema that has been read is in order. -/
theorem ascends_of_ofText? {text : String} {schema : Schema} (h : ofText? text = some schema) :
    Catalog.Ascends schema.fields := by
  obtain ⟨written, -, hwritten⟩ := Option.bind_eq_some_iff.mp h
  cases written with
  | object members =>
    obtain ⟨entries, -, rfl⟩ := Option.map_eq_some_iff.mp hwritten
    exact Catalog.ascends_ofList entries
  | _ => cases hwritten

/-- The registry of some fields, put into one that is there already. -/
def register (fields : Catalog FieldSpec) (r : Registry Json LookupContext) :
    Registry Json LookupContext :=
  fields.foldl (fun r (name, f) => r.insert name (f.toField name)) r

/-- **A registry stays in order**, and gets the lowercase form of every name. -/
theorem register_names (fields : Catalog FieldSpec) (r : Registry Json LookupContext)
    (hr : Catalog.Ascends r.fields) :
    Catalog.Ascends (register fields r).fields ∧
      ∀ n, n ∈ (register fields r).names ↔
        n ∈ r.names ∨ ∃ e ∈ fields, Text.lowercase e.1 = n := by
  induction fields generalizing r with
  | nil => exact ⟨hr, fun n => by simp [register]⟩
  | cons e fields ih =>
    obtain ⟨hascends, hnames⟩ := ih (r.insert e.1 (e.2.toField e.1)) (hr.insert _ _)
    refine ⟨hascends, fun n => (hnames n).trans ?_⟩
    rw [Registry.names, Registry.insert, Catalog.mem_names_insert, List.exists_mem_cons_iff,
      or_comm (a := Text.lowercase e.1 = n), or_assoc]
    rfl

/-- Fields with other names change nothing under a name. -/
theorem register_get?_of_ne {fields : Catalog FieldSpec} {n : String}
    (h : ∀ e ∈ fields, Text.lowercase e.1 ≠ n) (r : Registry Json LookupContext) :
    (register fields r).get? n = r.get? n := by
  induction fields generalizing r with
  | nil => rfl
  | cons e fields ih =>
    obtain ⟨he, hfields⟩ := List.forall_mem_cons.mp h
    calc (register (e :: fields) r).get? n
      _ = (r.insert e.1 (e.2.toField e.1)).get? n := ih hfields _
      _ = r.get? n := by rw [Registry.get?_insert, if_neg he]

/-- **The last of the names decides** among those with one lowercase form. -/
theorem registry_get? {schema : Schema} (hschema : Catalog.Ascends schema.fields) {name : String}
    {spec : FieldSpec} (hspec : (name, spec) ∈ schema.fields)
    (hlast : ∀ other ∈ schema.fields, Text.lowercase other.1 = Text.lowercase name →
      other.1 ≤ name) :
    schema.registry.get? (Text.lowercase name) = some (spec.toField name) := by
  obtain ⟨before, after, hfields⟩ := List.append_of_mem hspec
  rw [Catalog.Ascends, hfields, List.pairwise_append, List.pairwise_cons] at hschema
  have hafter : ∀ e ∈ after, Text.lowercase e.1 ≠ Text.lowercase name := by
    intro e he hcase
    have hle := hlast e (hfields ▸ List.mem_append_right before (.tail _ he)) hcase
    exact absurd (hschema.2.1.1 e he) (not_lt.mpr hle)
  calc schema.registry.get? (Text.lowercase name)
    _ = (register after ((register before .empty).insert name (spec.toField name))).get?
          (Text.lowercase name) := by
        rw [registry, hfields, List.foldl_append]
        rfl
    _ = some (spec.toField name) := by
        rw [register_get?_of_ne hafter, Registry.get?_insert, if_pos rfl]

/-- **What is looked up through the registry of a schema.** The names it holds are the lowercase
forms of the names of the schema, in order and each once. Under each of them stands the field whose
own name is the last of those with this lowercase form: that one gives the type, and on every card
and in every context the value at its path, or at its own name where it has no path. If backs are
read and the field has one there, the value is the pair of front and back, and in no other case. -/
theorem registry_lookup {schema : Schema} (hschema : Catalog.Ascends schema.fields) :
    schema.registry.names.Pairwise (· < ·) ∧
      (∀ n, n ∈ schema.registry.names ↔
        ∃ name spec, (name, spec) ∈ schema.fields ∧ Text.lowercase name = n) ∧
      ∀ name spec, (name, spec) ∈ schema.fields →
        (∀ other ∈ schema.fields, Text.lowercase other.1 = Text.lowercase name →
          other.1 ≤ name) →
        ∃ f, schema.registry.get? (Text.lowercase name) = some f ∧ f.type = spec.type ∧
          ∀ card context, ∃ front, card.HasAt (spec.path.getD name) front ∧
            (∀ back, f.lookup card context = .array [front, back] ↔
              spec.HasBack card context back) ∧
            ((∀ back, ¬ spec.HasBack card context back) → f.lookup card context = front) := by
  obtain ⟨hascends, hnames⟩ := register_names schema.fields .empty .nil
  refine ⟨hascends.names, fun n => ?_, fun name spec hspec hlast => ?_⟩
  · refine (hnames n).trans ?_
    simp [Registry.names, Registry.empty, Catalog.names]
  · refine ⟨_, registry_get? hschema hspec hlast, rfl, fun card context => ?_⟩
    refine ⟨_, Json.hasAt_iff.mpr rfl, fun back => ?_, fun hback => ?_⟩
    · exact spec.valueOn_eq_pair_iff name card context (Json.hasAt_iff.mpr rfl) back
    · exact FieldSpec.valueOn_eq_front (Json.hasAt_iff.mpr rfl) hback

/-- Of `NAME` and `name` the second decides, although its value is not the one that `NAME` has a
path to. It is a pair where backs are read, and its front alone where they are not. -/
theorem registry_lookup_name :
    let schema : Schema :=
      ⟨[("NAME", ⟨.text, some "title", none⟩), ("name", ⟨.string, none, some "back.name"⟩)]⟩
    let card : Json :=
      .object [("back", .object [("name", .string "Moon")]), ("name", .string "Sun"),
        ("title", .string "Day")]
    Catalog.Ascends schema.fields ∧
      ∃ f, schema.registry.get? "name" = some f ∧ f.type = .string ∧
        f.lookup card ⟨true⟩ = .array [.string "Sun", .string "Moon"] ∧
        f.lookup card ⟨false⟩ = .string "Sun" := by
  intro schema card
  have hschema : Catalog.Ascends schema.fields := by decide +kernel
  obtain ⟨-, -, hfields⟩ := registry_lookup hschema
  obtain ⟨f, hget, htype, hlookup⟩ :=
    hfields "name" ⟨.string, none, some "back.name"⟩ (.tail _ (.head _)) (by decide +kernel)
  have hname : Text.lowercase "name" = "name" := by decide +kernel
  refine ⟨hschema, f, hname ▸ hget, htype, ?_, ?_⟩
  · obtain ⟨front, hfront, hpair, -⟩ := hlookup card ⟨true⟩
    obtain rfl : Value.string "Sun" = front := Json.hasAt_iff.mp hfront
    exact (hpair _).mpr (FieldSpec.hasBack_iff.mpr ⟨.string "Moon", rfl, rfl⟩)
  · obtain ⟨front, hfront, -, hfront'⟩ := hlookup card ⟨false⟩
    obtain rfl : Value.string "Sun" = front := Json.hasAt_iff.mp hfront
    exact hfront' fun back hback => Bool.false_ne_true hback.1

end Schema

end CardQuery
