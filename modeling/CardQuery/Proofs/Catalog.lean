import CardQuery.Catalog
import Mathlib

/-!
# The order of a catalog

Entries are put into a catalog where their names belong, so the names ascend however the catalog
came about (`Ascends.insert`, `ascends_ofList`), and no name stands twice. Entries that ascend
already stay as they are (`Ascends.ofList_eq`), and two catalogs with the same names have them in
the same order (`Ascends.names_eq`).
-/

namespace CardQuery.Catalog

variable {α β : Type}

/-- **Whether the names of a catalog ascend.** Then no name stands twice. -/
def Ascends (c : Catalog α) : Prop := c.Pairwise (·.1 < ·.1)

instance (c : Catalog α) : Decidable (Ascends c) :=
  inferInstanceAs (Decidable (c.Pairwise (·.1 < ·.1)))

/-! ## Entries that are put in -/

theorem eq_or_mem_of_mem_insert {c : Catalog α} {name : String} {value : α} {e : String × α}
    (h : e ∈ c.insert name value) : e = (name, value) ∨ e ∈ c := by
  induction c with
  | nil => exact .inl (List.mem_singleton.mp h)
  | cons d c ih =>
    unfold insert at h
    split_ifs at h
    · rcases List.mem_cons.mp h with heq | hmem
      · exact .inl heq
      · exact .inr (.tail d hmem)
    · exact List.mem_cons.mp h
    · rcases List.mem_cons.mp h with heq | hmem
      · exact .inr (heq ▸ .head c)
      · exact (ih hmem).imp_right (.tail d)

/-- **A catalog stays in order** when an entry is put in. -/
theorem Ascends.insert {c : Catalog α} (h : Ascends c) (name : String) (value : α) :
    Ascends (c.insert name value) := by
  induction c with
  | nil => exact List.pairwise_singleton _ _
  | cons d c ih =>
    obtain ⟨hd, hc⟩ := List.pairwise_cons.mp h
    unfold Catalog.insert
    split_ifs with heq hlt
    · exact List.pairwise_cons.mpr ⟨fun e he => heq ▸ hd e he, hc⟩
    · refine List.pairwise_cons.mpr ⟨fun e he => ?_, h⟩
      rcases List.mem_cons.mp he with rfl | he
      · exact hlt
      · exact hlt.trans (hd e he)
    · refine List.pairwise_cons.mpr ⟨fun e he => ?_, ih hc⟩
      rcases eq_or_mem_of_mem_insert he with rfl | he
      · exact lt_of_le_of_ne (not_lt.mp hlt) (Ne.symm heq)
      · exact hd e he

/-- **A catalog of entries is in order**, whatever order they come in. -/
theorem ascends_ofList (entries : List (String × α)) : Ascends (ofList entries) :=
  List.foldlRecOn entries _ .nil fun _ h e _ => h.insert e.1 e.2

/-- An entry whose name comes after all others is put at the end. -/
theorem insert_of_forall_lt {c : Catalog α} {name : String} (value : α)
    (h : ∀ e ∈ c, e.1 < name) : c.insert name value = c ++ [(name, value)] := by
  induction c with
  | nil => rfl
  | cons e c ih =>
    obtain ⟨hlt, hrest⟩ := List.forall_mem_cons.mp h
    rw [insert, if_neg hlt.ne', if_neg hlt.asymm, ih hrest, List.cons_append]

theorem foldl_insert_of_ascends {entries c : Catalog α} (h : Ascends (c ++ entries)) :
    entries.foldl (fun c e => c.insert e.1 e.2) c = c ++ entries := by
  induction entries generalizing c with
  | nil => exact (List.append_nil c).symm
  | cons e entries ih =>
    obtain ⟨-, -, hbefore⟩ := List.pairwise_append.mp h
    have hcons : c ++ [e] ++ entries = c ++ e :: entries := (List.append_cons c e entries).symm
    rw [List.foldl_cons, insert_of_forall_lt e.2 fun d hd => hbefore d hd e (.head _), ← hcons]
    exact ih (hcons ▸ h)

/-- **Entries that ascend are their own catalog.** -/
theorem Ascends.ofList_eq {c : Catalog α} (h : Ascends c) : ofList c = c :=
  foldl_insert_of_ascends (c := []) h

/-! ## Entries that are found -/

/-- What is found under a name is an entry of that name. -/
theorem mem_of_get? {c : Catalog α} {name : String} {v : α} (h : c.get? name = some v) :
    (name, v) ∈ c := by
  obtain ⟨e, he, rfl⟩ := Option.map_eq_some_iff.mp h
  have hname := List.find?_some he
  rw [beq_iff_eq] at hname
  exact hname ▸ List.mem_of_find?_eq_some he

/-- The names are those under which something is found. -/
theorem mem_names_iff {c : Catalog α} {name : String} :
    name ∈ c.names ↔ ∃ v, c.get? name = some v := by
  constructor
  · intro h
    obtain ⟨e, he, rfl⟩ := List.mem_map.mp h
    rw [← Option.isSome_iff_exists, get?, Option.isSome_map, List.find?_isSome]
    exact ⟨e, he, by rw [beq_iff_eq]⟩
  · rintro ⟨v, hv⟩
    exact List.mem_map_of_mem (f := Prod.fst) (mem_of_get? hv)

theorem contains_iff {c : Catalog α} {name : String} : c.contains name = true ↔ name ∈ c.names := by
  rw [contains, List.any_eq_true, names, List.mem_map]
  exact exists_congr fun e => and_congr_right fun _ => beq_iff_eq

theorem mem_names_insert {c : Catalog α} {n name : String} {value : α} :
    n ∈ (c.insert name value).names ↔ name = n ∨ n ∈ c.names := by
  rw [mem_names_iff, mem_names_iff, get?_insert]
  by_cases h : name = n
  · simp [h]
  · simp [h]

/-- **The first entry counts** where a step adds one only under a name that has none. -/
theorem get?_foldl {γ : Type} {name : String} {step : Catalog α → γ → Catalog α}
    {offer : γ → Option α} (hstep : ∀ c x, (step c x).get? name = (c.get? name).or (offer x))
    (xs : List γ) (c : Catalog α) :
    (xs.foldl step c).get? name = (c.get? name).or (xs.findSome? offer) := by
  induction xs generalizing c with
  | nil => rw [List.foldl_nil, List.findSome?_nil, Option.or_none]
  | cons x xs ih =>
    rw [List.foldl_cons, ih, hstep, Option.or_assoc, List.findSome?_cons]
    cases offer x <;> rfl

theorem Ascends.names {c : Catalog α} (h : Ascends c) : c.names.Pairwise (· < ·) :=
  List.pairwise_map.mpr h

/-- **Two catalogs with the same names** have them in the same order. -/
theorem Ascends.names_eq {c : Catalog α} {d : Catalog β} (hc : Ascends c) (hd : Ascends d)
    (h : ∀ name, name ∈ c.names ↔ name ∈ d.names) : c.names = d.names := by
  have hperm : c.names.Perm d.names :=
    (List.perm_ext_iff_of_nodup (hc.names.imp ne_of_lt) (hd.names.imp ne_of_lt)).mpr h
  exact hperm.eq_of_pairwise (fun a b _ _ hab hba => absurd hab hba.asymm) hc.names hd.names

end CardQuery.Catalog
