/-!
# Catalogs

A catalog holds entries under names, in the order of the names, which is the
order of their code points. Each name stands at most once: a later entry
takes the place of an earlier one.
-/

namespace CardQuery

/-- **Entries under names**, ascending. -/
abbrev Catalog (α : Type) := List (String × α)

namespace Catalog

variable {α : Type}

/-- The entry of a name. -/
def get? (c : Catalog α) (name : String) : Option α :=
  (c.find? (·.1 == name)).map (·.2)

/-- Whether there is an entry of a name. -/
def contains (c : Catalog α) (name : String) : Bool := c.any (·.1 == name)

/-- The names, ascending. -/
def names (c : Catalog α) : List String := c.map (·.1)

/-- **Puts an entry under a name**, in its place and instead of any other. -/
def insert (name : String) (value : α) : Catalog α → Catalog α
  | [] => [(name, value)]
  | (n, v) :: rest =>
    if name = n then (name, value) :: rest
    else if name < n then (name, value) :: (n, v) :: rest
    else (n, v) :: insert name value rest

/-- The catalog of some entries, of which the last under a name counts. -/
def ofList (entries : List (String × α)) : Catalog α :=
  entries.foldl (fun c e => c.insert e.1 e.2) []

theorem get?_cons (n name : String) (v : α) (c : Catalog α) :
    get? ((n, v) :: c) name = if n = name then some v else c.get? name := by
  by_cases h : n = name <;> simp [get?, h]

/-- **What was put under a name is found there**, and nothing else moves. -/
theorem get?_insert (c : Catalog α) (n name : String) (v : α) :
    (c.insert n v).get? name = if n = name then some v else c.get? name := by
  induction c with
  | nil => simp [insert, get?_cons]
  | cons e c ih =>
    obtain ⟨m, w⟩ := e
    unfold insert
    split
    · next h =>
      subst h
      simp only [get?_cons]
      split <;> rfl
    split
    · simp only [get?_cons]
    · next h _ =>
      simp only [get?_cons, ih]
      by_cases hm : m = name
      · simp [hm, show n ≠ name from fun h' => h (h'.trans hm.symm)]
      · simp [hm]

end Catalog

end CardQuery
