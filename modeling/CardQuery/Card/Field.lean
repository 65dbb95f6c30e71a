import CardQuery.Card.FieldType
import CardQuery.Card.Value
import CardQuery.Catalog
import CardQuery.Text.Lowercase
import CardQuery.Text.Quoted

/-!
# Fields

A field has a type and a way to look its value up on a card. The look-up may
also depend on a context that is the same for all cards. A registry holds
the fields that queries may name, under lowercase names, because the names
in a query are lowercase too.
-/

namespace CardQuery

/-- **A field of cards** of a kind `Card`, looked up in a context. -/
structure Field (Card Context : Type) where
  /-- The type of the field. -/
  type : FieldType
  /-- The value of the field on a card. -/
  lookup : Card → Context → Value

/-- The text of a field in listings. -/
def Field.debug {Card Context : Type} (f : Field Card Context) : String :=
  "FieldDescriptor \x7b field_type: " ++ f.type.title ++ ", .. \x7d"

/-- **The fields that queries may name.** -/
structure Registry (Card Context : Type) where
  /-- The fields under their lowercase names. -/
  fields : Catalog (Field Card Context)

namespace Registry

variable {Card Context : Type}

/-- No fields. -/
def empty : Registry Card Context := ⟨[]⟩

/-- **Registers a field.** The name is made lowercase, and another field of
that name is forgotten. -/
def insert (r : Registry Card Context) (name : String) (f : Field Card Context) :
    Registry Card Context :=
  ⟨r.fields.insert (Text.lowercase name) f⟩

/-- The field of a name, which has to be lowercase already. -/
def get? (r : Registry Card Context) (name : String) : Option (Field Card Context) :=
  r.fields.get? name

/-- The type of the field of a name. -/
def fieldType? (r : Registry Card Context) (name : String) : Option FieldType :=
  (r.get? name).map (·.type)

/-- The names of the fields, ascending. -/
def names (r : Registry Card Context) : List String := r.fields.names

/-- How many fields there are. -/
def size (r : Registry Card Context) : Nat := r.fields.length

/-- The text of a registry in listings: names and types. -/
def debug (r : Registry Card Context) : String :=
  "\x7b" ++ ", ".intercalate
    (r.fields.map fun (name, f) => Text.quoted name ++ ": " ++ f.type.title) ++ "\x7d"

/-- **A field is found under the lowercase form of its name.** -/
theorem get?_insert (r : Registry Card Context) (n name : String) (f : Field Card Context) :
    (r.insert n f).get? name = if Text.lowercase n = name then some f else r.get? name :=
  Catalog.get?_insert r.fields (Text.lowercase n) name f

end Registry

end CardQuery
