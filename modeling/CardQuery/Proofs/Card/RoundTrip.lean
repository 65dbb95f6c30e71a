import CardQuery.Proofs.Card.Lookup
import CardQuery.Proofs.Json.RoundTrip

/-!
# Schemas that are read back

The JSON of a schema has no numbers, so its text is read as the tree that it was written as
(`Json.ofText?_written`), and what is left is to find the fields in that tree. A field is written
with its type and the paths that it has, and the reader takes a path that is not there for none
(`FieldSpec.read?_written`). The fields themselves are read in the order in which they were
written, and put into a catalog. That keeps their order where the names ascend, as they do in
every schema that was read or inferred. So a schema is read back as it is
(`Schema.read_back`).
-/

namespace CardQuery

/-! ## Fields -/

namespace FieldSpec

theorem numberFree_toJson (f : FieldSpec) : f.toJson.NumberFree := by
  obtain ⟨type, path, backPath⟩ := f
  cases path <;> cases backPath <;>
    simp [toJson, pathMember, Json.NumberFree, Json.MembersNumberFree]

/-- **A field is read back**, whichever of its paths it has. -/
theorem read?_written (f : FieldSpec) : read? f.toJson.written = some f := by
  obtain ⟨type, path, backPath⟩ := f
  cases path <;> cases backPath <;>
    simp [toJson, pathMember, Json.written, Json.membersWritten, read?, Draft.readAll?,
      Draft.read?, readType?, readPath?, typeNamed?, Draft.empty, Draft.finish?]

end FieldSpec

/-! ## Schemas -/

namespace Schema

theorem membersNumberFree_map : ∀ fields : Catalog FieldSpec,
    Json.MembersNumberFree (fields.map fun (name, f) => (name, f.toJson))
  | [] => trivial
  | (_, f) :: rest => ⟨f.numberFree_toJson, membersNumberFree_map rest⟩

theorem readFields?_written (fields : Catalog FieldSpec) :
    readFields? (Json.membersWritten (fields.map fun (name, f) => (name, f.toJson)))
      = some fields := by
  induction fields with
  | nil => rfl
  | cons e fields ih =>
    simp only [List.map_cons, Json.membersWritten, readFields?, FieldSpec.read?_written, ih,
      Option.bind_eq_bind, Option.bind_some, Option.pure_def]

theorem ofWritten?_written {s : Schema} (h : Catalog.Ascends s.fields) :
    ofWritten? s.toJson.written = some s := by
  show (readFields? _).map _ = _
  rw [readFields?_written, Option.map_some, h.ofList_eq]

theorem ofText?_of_ascends {s : Schema} (h : Catalog.Ascends s.fields) :
    ofText? s.toJson.compact = some s ∧ ofText? s.toJson.pretty = some s := by
  obtain ⟨hcompact, hpretty⟩ :=
    Json.ofText?_written (v := s.toJson) (membersNumberFree_map s.fields)
  rw [ofText?, ofText?, hcompact, hpretty, Option.bind_some]
  exact ⟨ofWritten?_written h, ofWritten?_written h⟩

/-- **A schema that is written is read back**, on one line or over several, whatever its
fields are called and whatever paths they have. So a schema that was read from a text stays the
same when it is written and read again. -/
theorem read_back :
    (∀ s : Schema, Catalog.Ascends s.fields →
        ofText? s.toJson.compact = some s ∧ ofText? s.toJson.pretty = some s) ∧
      ∀ (text : String) (s : Schema), ofText? text = some s →
        ofText? s.toJson.compact = some s ∧ ofText? s.toJson.pretty = some s :=
  ⟨fun _ h => ofText?_of_ascends h, fun _ _ h => ofText?_of_ascends (ascends_of_ofText? h)⟩

/-- A schema with names and paths that need escapes, empty ones among them. -/
def awkward : Schema :=
  ⟨[("", ⟨.text, some "", none⟩), ("\x01\"\\", ⟨.number, none, some "back.\n\x7f/é😀"⟩)]⟩

/-- The awkward schema is read back, and so is one that was written by hand. -/
theorem read_back_awkward :
    Catalog.Ascends awkward.fields ∧
      ofText? awkward.toJson.compact = some awkward ∧
      ofText? "\x7b \"xp\" : [\"number\"] \x7d" = some ⟨[("xp", ⟨.number, none, none⟩)]⟩ ∧
      ofText? (toJson ⟨[("xp", ⟨.number, none, none⟩)]⟩).compact
        = some ⟨[("xp", ⟨.number, none, none⟩)]⟩ := by
  have hascends : Catalog.Ascends awkward.fields := by decide
  have hread : ofText? "\x7b \"xp\" : [\"number\"] \x7d"
      = some ⟨[("xp", ⟨.number, none, none⟩)]⟩ := by
    cbv
  exact ⟨hascends, (read_back.1 awkward hascends).1, hread, (read_back.2 _ _ hread).1⟩

end Schema

end CardQuery
