import CardQuery.Command.Selection
import CardQuery.Proofs.Evaluation.Remembering
import Mathlib

/-!
# Filtering

A matcher that filters cards goes through them in order, remembers patterns
from each card to the next, and stops at the first card on which the query
fails. What comes of it is told card by card all the same (`Filtered`): if
there is a card on which the query fails, the failure on the first such card,
and otherwise the cards that fit, each where it stood.

Since remembering changes no answer, each card may be asked about on its own,
of a matcher that was never asked anything (`Matcher.filter_iff_filtered`). A
selection from JSON filters the cards of its input, so the same is true of
what it prints.
-/

namespace CardQuery

/-! ## Card by card -/

/-- Whether the answer is that a card fits. -/
def isFit : Except EvalError Bool → Bool
  | .ok answer => answer
  | .error _ => false

section Filtered

variable {Card : Type} (fits : Card → Except EvalError Bool)

/-- **What comes of filtering cards**, told by what is said of each card: the
failure on the first card that fails, or else the cards that fit. -/
def Filtered (cards : List Card) : Except EvalError (List Card) → Prop
  | .ok fitting =>
    (∀ card ∈ cards, ∃ answer, fits card = .ok answer) ∧
      fitting = cards.filter fun card => isFit (fits card)
  | .error e =>
    ∃ before card after, cards = before ++ card :: after ∧
      (∀ c ∈ before, ∃ answer, fits c = .ok answer) ∧ fits card = .error e

variable {fits}

theorem filtered_nil {result : Except EvalError (List Card)} :
    Filtered fits [] result ↔ result = .ok [] := by
  cases result with
  | ok fitting =>
    rw [Except.ok.injEq]
    exact and_iff_right fun _ hmem => absurd hmem List.not_mem_nil
  | error e =>
    constructor
    · rintro ⟨before, card, after, hcards, -⟩
      exact absurd hcards.symm (List.append_ne_nil_of_right_ne_nil _ (List.cons_ne_nil _ _))
    · intro h
      cases h

/-- Nothing is asked behind a card that fails. -/
theorem filtered_cons_of_error {card : Card} {e : EvalError} (h : fits card = .error e)
    {cards : List Card} {result : Except EvalError (List Card)} :
    Filtered fits (card :: cards) result ↔ result = .error e := by
  cases result with
  | ok fitting =>
    constructor
    · rintro ⟨hall, -⟩
      obtain ⟨answer, hanswer⟩ := hall card List.mem_cons_self
      rw [h] at hanswer
      cases hanswer
    · intro hresult
      cases hresult
  | error e' =>
    constructor
    · rintro ⟨before, first, after, hcards, hbefore, hfirst⟩
      cases before with
      | nil =>
        obtain ⟨rfl, -⟩ := List.cons.inj hcards
        rw [h] at hfirst
        cases hfirst
        rfl
      | cons c before =>
        obtain ⟨rfl, -⟩ := List.cons.inj hcards
        obtain ⟨answer, hanswer⟩ := hbefore card List.mem_cons_self
        rw [h] at hanswer
        cases hanswer
    · intro hresult
      cases hresult
      exact ⟨[], card, cards, rfl, fun _ hmem => absurd hmem List.not_mem_nil, h⟩

/-- A card with an answer is kept or left out, in front of what comes of the
others. -/
theorem filtered_cons_of_ok {card : Card} {answer : Bool} (h : fits card = .ok answer)
    {cards : List Card} {result : Except EvalError (List Card)} :
    Filtered fits (card :: cards) result ↔ ∃ others, Filtered fits cards others ∧
      others.map (fun fitting => if answer then card :: fitting else fitting) = result := by
  have hfilter : (card :: cards).filter (fun c => isFit (fits c))
      = if answer then card :: cards.filter fun c => isFit (fits c)
        else cards.filter fun c => isFit (fits c) := by
    rw [List.filter_cons, h, isFit]
  constructor
  · intro hresult
    cases result with
    | ok fitting =>
      obtain ⟨hall, rfl⟩ := hresult
      refine ⟨.ok _, ⟨fun c hc => hall c (List.mem_cons_of_mem card hc), rfl⟩, ?_⟩
      rw [hfilter]
      rfl
    | error e =>
      obtain ⟨before, first, after, hcards, hbefore, hfirst⟩ := hresult
      cases before with
      | nil =>
        obtain ⟨rfl, -⟩ := List.cons.inj hcards
        rw [h] at hfirst
        cases hfirst
      | cons c before =>
        obtain ⟨rfl, rfl⟩ := List.cons.inj hcards
        exact ⟨.error e, ⟨before, first, after, rfl, (List.forall_mem_cons.mp hbefore).2, hfirst⟩,
          rfl⟩
  · rintro ⟨others, hothers, rfl⟩
    cases others with
    | ok fitting =>
      obtain ⟨hall, rfl⟩ := hothers
      exact ⟨List.forall_mem_cons.mpr ⟨⟨answer, h⟩, hall⟩, hfilter.symm⟩
    | error e =>
      obtain ⟨before, first, after, rfl, hbefore, hfirst⟩ := hothers
      exact ⟨card :: before, first, after, rfl,
        List.forall_mem_cons.mpr ⟨⟨answer, h⟩, hbefore⟩, hfirst⟩

end Filtered

/-! ## One card after another -/

namespace Matcher

section Of

variable {Card Context : Type} [PatternCompiler] {s : Scope Card Context} {m : Matcher Card Context}

/-- A matcher stays one of its scope when it is asked about a card. -/
theorem Of.matchCard (h : Of s m) (query : Expr) (card : Card) :
    Of s (m.matchCard query card).2 :=
  (matchCard_same h (.fresh (s.withCapacity 0)) query card).2.1

/-- A card that fails ends the filtering. -/
theorem filter_cons_of_error {query : Expr} {card : Card} {e : EvalError}
    (h : (m.matchCard query card).1 = .error e) (cards : List Card) :
    (m.filter query (card :: cards)).1 = .error e := by
  unfold filter decideAll
  generalize m.matchCard query card = step at h ⊢
  obtain ⟨result, m'⟩ := step
  obtain rfl : result = .error e := h
  rfl

/-- **One step of the filtering**: a card with an answer is kept or left out,
and the matcher that has been asked about it filters the others. -/
theorem filter_cons_of_ok {query : Expr} {card : Card} {answer : Bool}
    (h : (m.matchCard query card).1 = .ok answer) (cards : List Card) :
    (m.filter query (card :: cards)).1 = ((m.matchCard query card).2.filter query cards).1.map
      fun fitting => if answer then card :: fitting else fitting := by
  unfold filter
  rw [decideAll]
  generalize m.matchCard query card = step at h ⊢
  obtain ⟨result, m'⟩ := step
  obtain rfl : result = .ok answer := h
  dsimp only
  generalize m'.decideAll query cards = others
  obtain ⟨others, m''⟩ := others
  cases others with
  | error e => rfl
  | ok answers => cases answer <;> rfl

/-- **Filtering is told card by card**, if all matchers of the scope say the same
of each card. -/
theorem Of.filter_iff (query : Expr) {fits : Card → Except EvalError Bool}
    (hfits : ∀ {m}, Of s m → ∀ card, (m.matchCard query card).1 = fits card) (h : Of s m)
    (cards : List Card) (result : Except EvalError (List Card)) :
    (m.filter query cards).1 = result ↔ Filtered fits cards result := by
  induction cards generalizing m result with
  | nil =>
    rw [filtered_nil]
    exact eq_comm
  | cons card cards ih =>
    cases hanswer : fits card with
    | error e =>
      rw [filtered_cons_of_error hanswer, filter_cons_of_error ((hfits h card).trans hanswer)]
      exact eq_comm
    | ok answer =>
      rw [filtered_cons_of_ok hanswer, filter_cons_of_ok ((hfits h card).trans hanswer)]
      constructor
      · exact fun hresult => ⟨_, (ih (h.matchCard query card) _).mp rfl, hresult⟩
      · rintro ⟨others, hothers, hresult⟩
        rw [(ih (h.matchCard query card) others).mpr hothers, hresult]

end Of

end Matcher

/-! ## Selections -/

namespace Selection

/-- The cards of a text are the items of a list or a single card. -/
theorem readCards_eq_ok_iff {text : String} {cards : List Json} :
    readCards text = .ok cards ↔ ∃ v, Json.ofText? text = some v ∧
      (v = .array cards ∨ ∃ members, v = .object members ∧ cards = [v]) := by
  unfold readCards
  cases Json.ofText? text with
  | none => simp
  | some v => cases v <;> simp [cardsOf, eq_comm]

theorem readCards_ne_evaluation (text : String) (failure : EvalError) :
    readCards text ≠ .error (.evaluation failure) := by
  unfold readCards
  cases Json.ofText? text with
  | none => simp
  | some v => cases v <;> simp [cardsOf]

/-- The schema is the one that is given or the one that the cards suggest. -/
theorem readSchema_eq_ok_iff {given : Option String} {cards : List Json} {schema : Schema} :
    readSchema given cards = .ok schema ↔
      (given = none ∧ schema = Schema.infer cards) ∨
        ∃ text, given = some text ∧ Schema.ofText? text = some schema := by
  cases given with
  | none => simp [readSchema, eq_comm]
  | some text => cases h : Schema.ofText? text <;> simp [readSchema, h]

theorem readSchema_ne_evaluation (given : Option String) (cards : List Json)
    (failure : EvalError) : readSchema given cards ≠ .error (.evaluation failure) := by
  cases given with
  | none => simp [readSchema]
  | some text => cases h : Schema.ofText? text <;> simp [readSchema, h]

/-- **What a selection accepts**: it asks for more than to read the query, the
query can be read, the input is a list of cards or a single card, and the
schema is the one that is given or the one that the cards suggest. -/
structure Accepts (sel : Selection) (query : Expr) (cards : List Json) (schema : Schema) :
    Prop where
  selects : sel.queryOnly = false
  query : parseQuery sel.limit sel.query = .ok query
  input : ∃ text v, sel.input = some text ∧ Json.ofText? text = some v ∧
    (v = .array cards ∨ ∃ members, v = .object members ∧ cards = [v])
  schema : (sel.schema = none ∧ schema = Schema.infer cards) ∨
    ∃ text, sel.schema = some text ∧ Schema.ofText? text = some schema

/-- A selection filters the cards that it accepts, as they are. -/
theorem Accepts.run_eq [PatternCompiler] {sel : Selection} {query : Expr} {cards : List Json}
    {schema : Schema} (h : sel.Accepts query cards schema) :
    sel.run = (((Matcher.fresh (sel.scope schema)).filter query cards).1.mapError
      CommandError.evaluation).map Selected.cards := by
  obtain ⟨text, v, hinput, hv⟩ := h.input
  unfold run
  rw [h.query]
  dsimp only
  rw [h.selects, select, hinput]
  dsimp only
  rw [readCards_eq_ok_iff.mpr ⟨v, hv⟩]
  show Except.map Selected.cards (readSchema sel.schema cards >>= _) = _
  rw [readSchema_eq_ok_iff.mpr h.schema]
  rfl

/-- What is not accepted is refused before any card is looked at. -/
theorem accepts_or_refuses [PatternCompiler] (sel : Selection) (hselects : sel.queryOnly = false) :
    (∃ query cards schema, sel.Accepts query cards schema) ∨
      ∃ e, sel.run = .error e ∧ ∀ failure, e ≠ .evaluation failure := by
  cases hquery : parseQuery sel.limit sel.query with
  | error e => exact .inr ⟨.query e, by rw [run, hquery], by simp⟩
  | ok query =>
    have hrefuses : ∀ e, sel.select query = .error e → sel.run = .error e := by
      intro e he
      rw [run, hquery]
      dsimp only
      rw [hselects, he]
      rfl
    cases hinput : sel.input with
    | none => exact .inr ⟨.noInput, hrefuses _ (by rw [select, hinput]), by simp⟩
    | some text =>
      cases hcards : readCards text with
      | error e =>
        refine .inr ⟨e, hrefuses _ ?_, ?_⟩
        · rw [select, hinput]
          dsimp only
          rw [hcards]
          rfl
        · rintro failure rfl
          exact readCards_ne_evaluation text failure hcards
      | ok cards =>
        cases hschema : readSchema sel.schema cards with
        | error e =>
          refine .inr ⟨e, hrefuses _ ?_, ?_⟩
          · rw [select, hinput]
            dsimp only
            rw [hcards]
            show readSchema sel.schema cards >>= _ = _
            rw [hschema]
            rfl
          · rintro failure rfl
            exact readSchema_ne_evaluation sel.schema cards failure hschema
        | ok schema =>
          obtain ⟨v, hv⟩ := readCards_eq_ok_iff.mp hcards
          exact .inl ⟨query, cards, schema, hselects, hquery, ⟨text, v, hinput, hv⟩,
            readSchema_eq_ok_iff.mp hschema⟩

end Selection

/-- **Filtering gives the failure on the first card that fails, or else the
cards that fit.** Whatever a matcher was asked before, what comes of filtering
is told by what a fresh matcher says of each card, whatever its capacity. A
selection that accepts its query, its input and its schema gives those cards of
the input that fit, or that failure. -/
theorem Matcher.filter_iff_filtered [PatternCompiler] {Card Context : Type} {s : Scope Card Context}
    {m : Matcher Card Context} (hm : Of s m) (capacity : Nat) (query : Expr) (cards : List Card) :
    (∀ result, (m.filter query cards).1 = result ↔
      Filtered (fun card => ((fresh (s.withCapacity capacity)).matchCard query card).1)
        cards result) ∧
    ∀ (sel : Selection) (query : Expr) (cards : List Json) (schema : Schema),
      sel.Accepts query cards schema → ∀ outcome, sel.run = outcome ↔
        ∃ result, Filtered
          (fun card => ((fresh ((sel.scope schema).withCapacity capacity)).matchCard query card).1)
          cards result ∧ outcome = (result.mapError CommandError.evaluation).map .cards := by
  have hfresh : ∀ {Card Context : Type} {t : Scope Card Context} {n : Matcher Card Context}
      {query : Expr}, Of t n → ∀ card, (n.matchCard query card).1
        = ((fresh (t.withCapacity capacity)).matchCard query card).1 :=
    fun hn card => (matchCard_same hn (.fresh _) _ card).1
  refine ⟨hm.filter_iff query hfresh cards, fun sel query cards schema haccepts outcome => ?_⟩
  have hfilter := (Of.fresh (sel.scope schema)).filter_iff query hfresh cards
  rw [haccepts.run_eq]
  constructor
  · rintro rfl
    exact ⟨_, (hfilter _).mp rfl, rfl⟩
  · rintro ⟨result, hresult, rfl⟩
    rw [(hfilter result).mpr hresult]

/-- Of three cards that the input lists, the ones that are marked are given back,
both of them. -/
theorem Matcher.filter_iff_filtered_marked :
    let marked : Json := .object [("a", .boolean true)]
    let query : Expr := .group (.identifier "a" ⟨⟨1, 1, 2⟩, ⟨2, 1, 3⟩⟩) ⟨⟨0, 1, 1⟩, ⟨3, 1, 4⟩⟩
    let sel : Selection :=
      ⟨"(a)", some "[\x7b\"a\":true\x7d,\x7b\x7d,\x7b\"a\":true\x7d]", none, false, false, 5, 20⟩
    let cards : List Json := [marked, .object [], marked]
    sel.Accepts query cards (Schema.infer cards) ∧ sel.run = .ok (.cards [marked, marked]) := by
  intro marked query sel cards
  have haccepts : sel.Accepts query cards (Schema.infer cards) := by
    refine ⟨rfl, by cbv, ?_, .inl ⟨rfl, rfl⟩⟩
    exact ⟨_, .array cards, rfl, by cbv, .inl rfl⟩
  obtain ⟨-, hrun⟩ :=
    filter_iff_filtered (.fresh (sel.scope (Schema.infer cards))) 0 query cards
  refine ⟨haccepts, (hrun sel query cards _ haccepts _).mpr ⟨.ok [marked, marked], ⟨?_, ?_⟩, rfl⟩⟩
  · intro card hcard
    have hcards : card = marked ∨ card = .object [] ∨ card = marked := by
      simpa [cards] using hcard
    rcases hcards with rfl | rfl | rfl
    · exact ⟨true, rfl⟩
    · exact ⟨false, rfl⟩
    · exact ⟨true, rfl⟩
  · rfl

end CardQuery
