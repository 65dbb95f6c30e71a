import CardQuery.Card.Conversion
import CardQuery.Card.Field
import CardQuery.Json.Reader
import CardQuery.Json.Writer

/-!
# Schemas

A schema says which fields the cards of a collection have: the type of each
and the path to its value, and where a card has a back, the path to the value
there. A schema is read from JSON, or inferred from the cards, and from a
schema comes the registry through which queries read cards.

The JSON of a schema is one object with a member for each field. A field is
an object with the members `type`, `path` and `back_path`, or an array of
their values in that order. Members of other names are passed over, whatever
they hold.
-/

namespace CardQuery

/-- **How one field is read from a card.** -/
structure FieldSpec where
  /-- The type of the field. -/
  type : FieldType
  /-- The path to the value, if it is not the name of the field. -/
  path : Option String
  /-- The path to the value on the back of a card, if there is one. -/
  backPath : Option String
deriving DecidableEq, Repr

/-- **Fields and how they are read**, under their names. -/
structure Schema where
  /-- The fields. -/
  fields : Catalog FieldSpec

/-! ## Reading -/

namespace FieldSpec

/-- The type that a string names. -/
def typeNamed? : Option String → Option FieldType
  | some name => FieldType.ofName? name
  | none => none

/-- A type: its name, or an object whose only member has that name and holds
nothing. -/
def readType? : Written → Option FieldType
  | .string name => typeNamed? name
  | .object [(name, .null)] => typeNamed? name
  | _ => none

/-- A path, which may be `null` for none. -/
def readPath? : Written → Option (Option String)
  | .null => some none
  | .string (some path) => some (some path)
  | _ => none

/-- What has been read of a field. Outside the options stands whether the
member has been there. -/
structure Draft where
  /-- The type. -/
  type : Option FieldType
  /-- The path. -/
  path : Option (Option String)
  /-- The path on the back. -/
  backPath : Option (Option String)

/-- Nothing read. -/
def Draft.empty : Draft := ⟨none, none, none⟩

/-- **Reads one member of a field.** The known ones may stand only once. -/
def Draft.read? (d : Draft) (name : String) (v : Written) : Option Draft :=
  match name with
  | "type" => if d.type.isSome then none else (readType? v).map fun t => { d with type := t }
  | "path" => if d.path.isSome then none else (readPath? v).map fun p => { d with path := p }
  | "back_path" =>
    if d.backPath.isSome then none else (readPath? v).map fun p => { d with backPath := p }
  | _ => some d

/-- Reads the members of a field. -/
def Draft.readAll? (d : Draft) : List (Option String × Written) → Option Draft
  | [] => some d
  | (name, v) :: rest => do
    let d ← d.read? (← name) v
    d.readAll? rest

/-- The field, if its type has been read. -/
def Draft.finish? (d : Draft) : Option FieldSpec :=
  d.type.map fun t => ⟨t, d.path.getD none, d.backPath.getD none⟩

/-- **Reads a field.** -/
def read? : Written → Option FieldSpec
  | .object members => do (← Draft.empty.readAll? members).finish?
  | .array [t] => do return ⟨← readType? t, none, none⟩
  | .array [t, p] => do return ⟨← readType? t, ← readPath? p, none⟩
  | .array [t, p, b] => do return ⟨← readType? t, ← readPath? p, ← readPath? b⟩
  | _ => none

end FieldSpec

namespace Schema

/-- Reads the fields of a schema. -/
def readFields? : List (Option String × Written) → Option (List (String × FieldSpec))
  | [] => some []
  | (name, v) :: rest => do
    return (← name, ← FieldSpec.read? v) :: (← readFields? rest)

/-- The schema of a tree. Of several fields of one name the last counts. -/
def ofWritten? : Written → Option Schema
  | .object members => (readFields? members).map fun fs => ⟨Catalog.ofList fs⟩
  | _ => none

/-- **The schema of a JSON text.** -/
def ofText? (text : String) : Option Schema := (Written.ofText? text).bind ofWritten?

end Schema

/-! ## Writing -/

/-- A member for a path, if there is one. -/
def FieldSpec.pathMember (name : String) : Option String → List (String × Json)
  | some path => [(name, .string path)]
  | none => []

/-- The JSON of a field: its type and the paths it has. -/
def FieldSpec.toJson (f : FieldSpec) : Json :=
  .object (("type", .string f.type.name) ::
    (FieldSpec.pathMember "path" f.path ++ FieldSpec.pathMember "back_path" f.backPath))

/-- **The JSON of a schema.** -/
def Schema.toJson (s : Schema) : Json :=
  .object (s.fields.map fun (name, f) => (name, f.toJson))

/-! ## Inferring -/

namespace Schema

/-- **Adds what a member of a card suggests**, unless its name is known
already. The name is lowercase; another spelling becomes the path. -/
def learn (fields : Catalog FieldSpec) (key : String) (v : Json) : Catalog FieldSpec :=
  let name := Text.lowercase key
  if fields.contains name then fields
  else
    match v.fieldType? with
    | none => fields
    | some t => fields.insert name ⟨t, if name = key then none else some key, none⟩

/-- Adds what a card suggests. -/
def learnCard (fields : Catalog FieldSpec) : Json → Catalog FieldSpec
  | .object members => members.foldl (fun fields (key, v) => learn fields key v) fields
  | _ => fields

/-- **The schema that some cards suggest**: a field for every member of a
card whose value has a type. The first such value decides. -/
def infer (cards : List Json) : Schema := ⟨cards.foldl learnCard []⟩

end Schema

/-! ## Reading cards -/

/-- The steps of a path. -/
def FieldSpec.steps (path : String) : List String :=
  (path.toList.splitOn '.').map .ofList

/-- **Follows a path into a card.** -/
def Json.follow? (card : Json) : List String → Option Json
  | [] => some card
  | step :: rest => (card.member? step).bind fun next => next.follow? rest

/-- What is the same for all cards: whether backs are read too. -/
structure LookupContext where
  /-- Whether the backs of cards are read too. -/
  matchBacks : Bool
deriving DecidableEq, Repr

/-- The text of a context in listings. -/
def LookupContext.debug (c : LookupContext) : String :=
  "LookupContext \x7b match_backs: " ++ toString c.matchBacks ++ " \x7d"

/-- The value on the back of a card, if backs are read and there is one. -/
def FieldSpec.back? (f : FieldSpec) (card : Json) (context : LookupContext) : Option Json :=
  if context.matchBacks then do
    let back ← card.follow? (steps (← f.backPath))
    if back.isNull then none else some back
  else none

/-- **The value of a field on a card**: the one on the front, together with
the one on the back if that is read. -/
def FieldSpec.valueOn (f : FieldSpec) (name : String) (card : Json)
    (context : LookupContext) : Value :=
  let front := ((card.follow? (steps (f.path.getD name))).map Json.toValue).getD .null
  match f.back? card context with
  | some back => .array [front, back.toValue]
  | none => front

/-- The field of a registry that a schema describes under a name. -/
def FieldSpec.toField (f : FieldSpec) (name : String) : Field Json LookupContext :=
  ⟨f.type, f.valueOn name⟩

/-- **The registry of a schema.** Of several names that differ in case only
the last one counts. -/
def Schema.registry (s : Schema) : Registry Json LookupContext :=
  s.fields.foldl (fun r (name, f) => r.insert name (f.toField name)) .empty

end CardQuery
