import CardQuery.Json.Reader
import CardQuery.Proofs.Card.Lookup
import CardQuery.Proofs.Text.Normalizing
import Mathlib

/-!
# Inferring schemas

A schema can be inferred from cards alone. Every key of a card suggests a field under its lowercase
form, unless its value has no type, and the first key that does decides
(`Schema.infer_get?_eq_some_iff`). First means on the first card that has such a key, and there the
smallest, because the keys of a card ascend. A value without a type does not hold the place for a
later one.

The field is read from where the key was, also on cards that spell the name differently. That takes
the registry back to the key it came from: the lowercase form of a lowercase form is the same, and a
key without a dot is a path of one step (`Schema.infer_lookup`).
-/

namespace CardQuery

/-! ## Cards that were read -/

/-- The members of a card. What is no object has none. -/
def Json.members : Json → Catalog Json
  | object members => members
  | _ => []

namespace Written

theorem ascends_of_within {limit : Nat} {w : Written} {members : List (String × Json)}
    (h : w.within limit = some (.object members)) : Catalog.Ascends members := by
  cases w with
  | object written =>
    cases limit with
    | zero => cases h
    | succ limit =>
      obtain ⟨entries, -, hobject⟩ := Option.map_eq_some_iff.mp h
      exact Json.object.inj hobject ▸ Catalog.ascends_ofList entries
  | array items => cases limit <;> simp [within] at h
  | _ => simp [within] at h

theorem exists_of_itemsWithin {limit : Nat} {items : List Written} {vs : List Json}
    (h : itemsWithin limit items = some vs) : ∀ v ∈ vs, ∃ w : Written, w.within limit = some v := by
  induction items generalizing vs with
  | nil =>
    obtain rfl := Option.some.inj h
    exact fun v hv => absurd hv List.not_mem_nil
  | cons w rest ih =>
    simp only [itemsWithin, Option.bind_eq_bind, Option.bind_eq_some_iff, Option.pure_def,
      Option.some.injEq] at h
    obtain ⟨v, hv, others, hothers, rfl⟩ := h
    exact List.forall_mem_cons.mpr ⟨⟨w, hv⟩, ih hothers⟩

end Written

/-- **The keys of cards that have been read ascend.** -/
theorem Json.ascends_of_ofText? {text : String} {cards : List Json}
    (h : ofText? text = some (.array cards)) : ∀ card ∈ cards, Catalog.Ascends card.members := by
  obtain ⟨w, -, hw⟩ := Option.bind_eq_some_iff.mp h
  cases w with
  | array items =>
    obtain ⟨vs, hvs, hcards⟩ := Option.map_eq_some_iff.mp hw
    obtain rfl : vs = cards := Json.array.inj hcards
    intro card hcard
    obtain ⟨w, hw⟩ := Written.exists_of_itemsWithin hvs card hcard
    cases card with
    | object members => exact Written.ascends_of_within hw
    | _ => exact .nil
  | _ => simp [Written.toJson?, Written.within, Written.deepest] at hw

/-! ## Keys that suggest fields -/

/-- **Whether a key of a card suggests a field** of a name and a type: the name is its lowercase
form, and the type is that of the value. -/
def Json.Suggests (card : Json) (name key : String) (type : FieldType) : Prop :=
  Text.lowercase key = name ∧ ∃ v, (key, v) ∈ card.members ∧ v.fieldType? = some type

/-- The field that a key suggests. It has a path if the key is not the name itself. -/
def FieldSpec.ofKey (name key : String) (type : FieldType) : FieldSpec :=
  ⟨type, if name = key then none else some key, none⟩

namespace Schema

/-- The field that a member of a card suggests under a name, if it does. -/
def offer (name : String) (e : String × Json) : Option FieldSpec :=
  if Text.lowercase e.1 = name then e.2.fieldType?.map (FieldSpec.ofKey name e.1) else none

theorem offer_of_fieldType? {name key : String} {v : Json} {t : FieldType}
    (hname : Text.lowercase key = name) (htype : v.fieldType? = some t) :
    offer name (key, v) = some (.ofKey name key t) := by
  rw [offer, if_pos hname, htype]
  rfl

theorem exists_of_offer {name key : String} {v : Json} {spec : FieldSpec}
    (h : offer name (key, v) = some spec) :
    Text.lowercase key = name ∧ ∃ t, v.fieldType? = some t ∧ spec = .ofKey name key t := by
  rw [offer, Option.ite_none_right_eq_some] at h
  obtain ⟨t, htype, hspec⟩ := Option.map_eq_some_iff.mp h.2
  exact ⟨h.1, t, htype, hspec.symm⟩

/-- A card on which no key suggests a field offers none. -/
theorem offer_eq_none_iff {card : Json} {name : String} :
    (∀ e ∈ card.members, offer name e = none) ↔ ∀ k t, ¬ card.Suggests name k t := by
  constructor
  · rintro h k t ⟨hname, v, hv, htype⟩
    have hoffer := offer_of_fieldType? hname htype
    rw [h (k, v) hv] at hoffer
    cases hoffer
  · rintro h ⟨k, v⟩ he
    refine Option.eq_none_iff_forall_ne_some.mpr fun spec hspec => ?_
    obtain ⟨hname, t, htype, -⟩ := exists_of_offer hspec
    exact h k t ⟨hname, v, he, htype⟩

/-! ## What is learned -/

/-- **A member is learned** under its own name only, and only if nothing is known there. -/
theorem learn_get? (fields : Catalog FieldSpec) (key : String) (v : Json) (n : String) :
    (learn fields key v).get? n = (fields.get? n).or (offer n (key, v)) := by
  rw [learn, offer]
  generalize Text.lowercase key = name
  dsimp only
  split
  · next hknown =>
    obtain ⟨spec, hspec⟩ := Catalog.mem_names_iff.mp (Catalog.contains_iff.mp hknown)
    split
    · next hn => rw [← hn, hspec, Option.some_or]
    · rw [Option.or_none]
  · next hknown =>
    have hnone : fields.get? name = none := by
      refine Option.eq_none_iff_forall_ne_some.mpr fun spec hspec => hknown ?_
      exact Catalog.contains_iff.mpr (Catalog.mem_names_iff.mpr ⟨spec, hspec⟩)
    cases v.fieldType? with
    | none => simp
    | some t =>
      rw [Catalog.get?_insert]
      split
      · next hn => simp [← hn, hnone, FieldSpec.ofKey]
      · simp

theorem learnCard_get? (fields : Catalog FieldSpec) (card : Json) (n : String) :
    (learnCard fields card).get? n = (fields.get? n).or (card.members.findSome? (offer n)) := by
  cases card with
  | object members => exact Catalog.get?_foldl (fun c e => learn_get? c e.1 e.2 n) members fields
  | _ => exact Option.or_none.symm

/-- **What is inferred under a name** is what the first member suggests that suggests anything. -/
theorem infer_get? (cards : List Json) (n : String) :
    (infer cards).fields.get? n = cards.findSome? fun card => card.members.findSome? (offer n) :=
  Catalog.get?_foldl (fun c card => learnCard_get? c card n) cards []

theorem learn_ascends {fields : Catalog FieldSpec} (h : Catalog.Ascends fields) (key : String)
    (v : Json) : Catalog.Ascends (learn fields key v) := by
  unfold learn
  dsimp only
  split
  · exact h
  split
  · exact h
  · exact h.insert _ _

/-- **An inferred schema is in order.** -/
theorem infer_ascends (cards : List Json) : Catalog.Ascends (infer cards).fields := by
  refine List.foldlRecOn cards learnCard .nil fun fields h card _ => ?_
  cases card with
  | object members =>
    exact List.foldlRecOn members _ h fun fields h e _ => learn_ascends h e.1 e.2
  | _ => exact h

theorem mem_infer_names_iff {cards : List Json} {n : String} :
    n ∈ (infer cards).fields.names ↔ ∃ card ∈ cards, ∃ k t, card.Suggests n k t := by
  rw [Catalog.mem_names_iff, ← Option.isSome_iff_exists, infer_get?, List.findSome?_isSome_iff]
  refine exists_congr fun card => and_congr_right fun _ => ?_
  rw [Option.isSome_iff_ne_none, ne_eq, List.findSome?_eq_none_iff, offer_eq_none_iff]
  simp only [not_forall, not_not]

/-! ## The key that decides -/

/-- **Whether a key decides on a field**: it suggests the field on one of the cards, where no
smaller key does, nor does any key on a card before. -/
def Decides (cards : List Json) (name key : String) (type : FieldType) : Prop :=
  ∃ before card after, cards = before ++ card :: after ∧ card.Suggests name key type ∧
    (∀ other ∈ before, ∀ k t, ¬ other.Suggests name k t) ∧
    ∀ k t, card.Suggests name k t → key ≤ k

/-- On one card the smallest key decides that suggests anything. -/
theorem findSome?_offer_eq_some_iff {card : Json} (hcard : Catalog.Ascends card.members)
    {n : String} {spec : FieldSpec} :
    card.members.findSome? (offer n) = some spec ↔
      ∃ k t, card.Suggests n k t ∧ (∀ k' t', card.Suggests n k' t' → k ≤ k') ∧
        spec = .ofKey n k t := by
  rw [List.findSome?_eq_some_iff]
  constructor
  · rintro ⟨before, ⟨k, v⟩, after, hmembers, hoffer, hbefore⟩
    obtain ⟨hname, t, htype, rfl⟩ := exists_of_offer hoffer
    refine ⟨k, t, ⟨hname, v, hmembers ▸ by simp, htype⟩, ?_, rfl⟩
    rintro k' t' ⟨hname', v', hv', htype'⟩
    rw [Catalog.Ascends, hmembers, List.pairwise_append, List.pairwise_cons] at hcard
    rw [hmembers, List.mem_append, List.mem_cons] at hv'
    rcases hv' with hv' | heq | hv'
    · have hoffer' := offer_of_fieldType? hname' htype'
      rw [hbefore (k', v') hv'] at hoffer'
      cases hoffer'
    · exact (congrArg Prod.fst heq).ge
    · exact (hcard.2.1.1 (k', v') hv').le
  · rintro ⟨k, t, ⟨hname, v, hv, htype⟩, hleast, rfl⟩
    obtain ⟨before, after, hmembers⟩ := List.append_of_mem hv
    refine ⟨before, (k, v), after, hmembers, offer_of_fieldType? hname htype, ?_⟩
    rintro ⟨k', v'⟩ he
    refine Option.eq_none_iff_forall_ne_some.mpr fun spec hspec => ?_
    obtain ⟨hname', t', htype', -⟩ := exists_of_offer hspec
    have hle := hleast k' t' ⟨hname', v', hmembers ▸ List.mem_append_left _ he, htype'⟩
    rw [Catalog.Ascends, hmembers, List.pairwise_append] at hcard
    exact absurd (hcard.2.2 (k', v') he (k, v) (.head after)) (not_lt.mpr hle)

/-- **The key that decides** gives the field, and every field comes from one. -/
theorem infer_get?_eq_some_iff {cards : List Json}
    (hcards : ∀ card ∈ cards, Catalog.Ascends card.members) {n : String} {spec : FieldSpec} :
    (infer cards).fields.get? n = some spec ↔
      ∃ k t, Decides cards n k t ∧ spec = .ofKey n k t := by
  rw [infer_get?, List.findSome?_eq_some_iff]
  constructor
  · rintro ⟨before, card, after, rfl, hcard, hbefore⟩
    obtain ⟨k, t, hsuggests, hleast, rfl⟩ :=
      (findSome?_offer_eq_some_iff (hcards card (by simp))).mp hcard
    refine ⟨k, t, ⟨before, card, after, rfl, hsuggests, fun other hother => ?_, hleast⟩, rfl⟩
    exact offer_eq_none_iff.mp (List.findSome?_eq_none_iff.mp (hbefore other hother))
  · rintro ⟨k, t, ⟨before, card, after, rfl, hsuggests, hbefore, hleast⟩, rfl⟩
    refine ⟨before, card, after, rfl, ?_, fun other hother => ?_⟩
    · exact (findSome?_offer_eq_some_iff (hcards card (by simp))).mpr
        ⟨k, t, hsuggests, hleast, rfl⟩
    · exact List.findSome?_eq_none_iff.mpr (offer_eq_none_iff.mpr (hbefore other hother))

/-! ## Back to the key -/

/-- A key without a dot leads to the member of that name, and nowhere else. -/
theorem follow?_key {key : String} (h : '.' ∉ key.toList) (card : Json) :
    card.follow? (FieldSpec.steps key) = card.member? key := by
  have hpath : IsPath key [key] := ⟨List.cons_ne_nil _ _, by simpa using h, by simp⟩
  rw [isPath_iff.mp hpath, Json.follow?]
  exact Option.bind_fun_some (card.member? key)

/-- **Each field that was inferred is registered** under its name, which is lowercase already. -/
theorem infer_registry_get? {cards : List Json} {n : String} {spec : FieldSpec}
    (h : (infer cards).fields.get? n = some spec) :
    (infer cards).registry.get? n = some (spec.toField n) := by
  have hlower : ∀ m ∈ (infer cards).fields.names, Text.lowercase m = m := by
    intro m hm
    obtain ⟨_, _, k, _, rfl, _⟩ := mem_infer_names_iff.mp hm
    exact Text.lowercase_lowercase k
  have hn : Text.lowercase n = n := hlower n (Catalog.mem_names_iff.mpr ⟨spec, h⟩)
  have hlast : ∀ other ∈ (infer cards).fields, Text.lowercase other.1 = Text.lowercase n →
      other.1 ≤ n := by
    intro other hother heq
    rw [hlower other.1 (List.mem_map_of_mem hother), hn] at heq
    exact heq.le
  have hget := registry_get? (infer_ascends cards) (Catalog.mem_of_get? h) hlast
  rwa [hn] at hget

/-- **What is inferred from cards.** There is a field of a name if and only if a key of some card
suggests one. Its type is that of the key that decides, and it has a path, the key, if and only if
the key is not the name itself. If the key has no dot in it, the field that is registered under the
name holds, on every card, the value of the member of that key, and no value where there is none,
whatever stands there under another spelling. In what order the cards come makes no difference to
the names. -/
theorem infer_lookup {cards : List Json}
    (hcards : ∀ card ∈ cards, Catalog.Ascends card.members) :
    (∀ n, n ∈ (infer cards).fields.names ↔ ∃ card ∈ cards, ∃ k t, card.Suggests n k t) ∧
      (∀ n spec, (infer cards).fields.get? n = some spec ↔
        ∃ k t, Decides cards n k t ∧ spec = ⟨t, if n = k then none else some k, none⟩) ∧
      (∀ n k t, Decides cards n k t → '.' ∉ k.toList →
        ∃ f, (infer cards).registry.get? n = some f ∧ f.type = t ∧
          ∀ card context,
            f.lookup card context = ((card.member? k).map Json.toValue).getD .null) ∧
      ∀ cards', cards.Perm cards' → (infer cards').fields.names = (infer cards).fields.names := by
  refine ⟨fun n => mem_infer_names_iff, fun n spec => infer_get?_eq_some_iff hcards, ?_, ?_⟩
  · intro n k t hdecides hdot
    have hget := (infer_get?_eq_some_iff hcards).mpr ⟨k, t, hdecides, rfl⟩
    refine ⟨_, infer_registry_get? hget, rfl, fun card context => ?_⟩
    have hpath : (FieldSpec.ofKey n k t).path.getD n = k := by
      rw [FieldSpec.ofKey]
      split <;> simp_all
    refine FieldSpec.valueOn_eq_front (Json.hasAt_iff.mpr ?_) ?_
    · rw [hpath, follow?_key hdot]
    · rintro back ⟨-, path, -, hnone, -⟩
      cases hnone
  · intro cards' hperm
    refine (infer_ascends cards').names_eq (infer_ascends cards) fun n => ?_
    rw [mem_infer_names_iff, mem_infer_names_iff]
    exact exists_congr fun card => and_congr_left fun _ => hperm.mem_iff.symm

/-- `Cost` decides on `cost`, because nothing before has a type: not its own `null`, and not what
stands under `COST`. A card that spells it `cost` has no value there. -/
theorem infer_lookup_cost :
    let cards : List Json :=
      [.string "deck", .object [("Cost", .null), ("name", .string "Sun")],
        .object [("COST", .array [.null]), ("Cost", .number (.integer 2)),
          ("cost", .string "free")]]
    (∀ card ∈ cards, Catalog.Ascends card.members) ∧ Decides cards "cost" "Cost" .number ∧
      (infer cards).fields.names = ["cost", "name"] ∧
      (infer cards.reverse).fields.names = ["cost", "name"] ∧
      ∃ f, (infer cards).registry.get? "cost" = some f ∧ f.type = .number ∧
        f.lookup (.object [("cost", .string "free")]) ⟨false⟩ = .null ∧
        f.lookup (.object [("Cost", .string "X"), ("cost", .string "free")]) ⟨false⟩
          = .string "X" := by
  intro cards
  have hcards : ∀ card ∈ cards, Catalog.Ascends card.members := by decide +kernel
  obtain ⟨-, hfields, hlookup, hperm⟩ := infer_lookup hcards
  have hnames : (infer cards).fields.names = ["cost", "name"] := by decide +kernel
  obtain ⟨k, t, hdecides, hspec⟩ :=
    (hfields "cost" ⟨.number, some "Cost", none⟩).mp (by decide +kernel)
  obtain ⟨rfl, hpath, -⟩ := FieldSpec.mk.inj hspec
  obtain rfl : "Cost" = k := Option.some.inj (Option.ite_none_left_eq_some.mp hpath.symm).2.symm
  obtain ⟨f, hf, htype, hvalue⟩ := hlookup "cost" "Cost" .number hdecides (by decide)
  refine ⟨hcards, hdecides, hnames, ?_, f, hf, htype, hvalue _ _, hvalue _ _⟩
  rw [hperm cards.reverse (List.reverse_perm cards).symm, hnames]

end Schema

end CardQuery
