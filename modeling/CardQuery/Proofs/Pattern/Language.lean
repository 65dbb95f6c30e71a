import CardQuery.Proofs.Pattern.Search
import Mathlib.Computability.Language

/-!
# The language of a pattern

A pattern without looks asks for nothing but the characters on its way. Its
ways through a text are the pieces of the text that are in its language
(`takes_iff_language`), wherever they stand, and a search finds a match where
the text has such a piece (`isMatch_iff_language`).
-/

namespace CardQuery

/-! ## Pieces of a text -/

/-- **A piece of a text** that stands between two places. -/
def StandsAt (text v : List Char) (i j : Nat) : Prop :=
  ∃ u z, text = u ++ v ++ z ∧ i = u.length ∧ j = u.length + v.length

namespace StandsAt

variable {text v w : List Char} {i j : Nat}

theorem le_length (h : StandsAt text v i j) : j ≤ text.length := by
  obtain ⟨u, z, rfl, rfl, rfl⟩ := h
  simp only [List.length_append]
  omega

theorem nil_iff : StandsAt text [] i j ↔ j = i ∧ i ≤ text.length := by
  constructor
  · intro h
    have hj := h.le_length
    obtain ⟨u, z, -, rfl, rfl⟩ := h
    exact ⟨rfl, hj⟩
  · rintro ⟨rfl, hi⟩
    have hlen : (text.take j).length = j := List.length_take_of_le hi
    exact ⟨text.take j, text.drop j, by simp, hlen.symm, hlen.symm⟩

theorem singleton_iff {c : Char} : StandsAt text [c] i j ↔ j = i + 1 ∧ text[i]? = some c := by
  constructor
  · rintro ⟨u, z, rfl, rfl, rfl⟩
    exact ⟨rfl, by simp⟩
  · rintro ⟨rfl, hc⟩
    obtain ⟨hi, hget⟩ := List.getElem?_eq_some_iff.mp hc
    have hlen : (text.take i).length = i := List.length_take_of_le (Nat.le_of_lt hi)
    refine ⟨text.take i, text.drop (i + 1), ?_, hlen.symm, by rw [hlen]; rfl⟩
    rw [List.append_assoc, List.singleton_append, ← hget, List.getElem_cons_drop,
      List.take_append_drop]

theorem append_iff :
    StandsAt text (v ++ w) i j ↔ ∃ m, StandsAt text v i m ∧ StandsAt text w m j := by
  constructor
  · rintro ⟨u, z, rfl, rfl, rfl⟩
    refine ⟨u.length + v.length, ⟨u, w ++ z, by simp, rfl, rfl⟩, u ++ v, z, by simp, ?_, ?_⟩
    · exact List.length_append.symm
    · rw [List.length_append, List.length_append, Nat.add_assoc]
  · rintro ⟨_, ⟨u, z, rfl, rfl, rfl⟩, u', z', htext, hm, rfl⟩
    -- both pieces are in the same text, so what stands before the second is known
    have hfront : u ++ v = u' := by
      refine (List.append_inj (htext.trans (List.append_assoc u' w z')) ?_).1
      rw [List.length_append, hm]
    subst hfront
    refine ⟨u, z', by rw [htext]; simp, rfl, ?_⟩
    rw [List.length_append, List.length_append, Nat.add_assoc]

end StandsAt

/-- A piece that is in a product of languages is two pieces in a row. -/
theorem standsAt_mul {text : List Char} {L M : Language Char} {i j : Nat} :
    (∃ v ∈ L * M, StandsAt text v i j) ↔
      ∃ m, (∃ v ∈ L, StandsAt text v i m) ∧ ∃ w ∈ M, StandsAt text w m j := by
  constructor
  · rintro ⟨_, ⟨v, hv, w, hw, rfl⟩, h⟩
    obtain ⟨m, hfirst, hsecond⟩ := StandsAt.append_iff.mp h
    exact ⟨m, ⟨v, hv, hfirst⟩, w, hw, hsecond⟩
  · rintro ⟨m, ⟨v, hv, hfirst⟩, w, hw, hsecond⟩
    exact ⟨v ++ w, Language.append_mem_mul hv hw, StandsAt.append_iff.mpr ⟨m, hfirst, hsecond⟩⟩

namespace Pattern

/-! ## Languages -/

/-- A pattern that asks for nothing but characters. -/
def LookFree : Pattern → Prop
  | empty | char _ => True
  | look _ => False
  | seq p q | alt p q => p.LookFree ∧ q.LookFree
  | iterate p _ _ => p.LookFree

/-- **The texts that a pattern describes.** A look alone describes none. -/
def language : Pattern → Language Char
  | empty => 1
  | char accepts => {v | ∃ c, accepts c = true ∧ v = [c]}
  | look _ => 0
  | seq p q => p.language * q.language
  | alt p q => p.language + q.language
  | iterate p least most =>
    {v | ∃ more, (∀ m ∈ most, more ≤ m - least) ∧ v ∈ p.language ^ (least + more)}

/-- The ways of a relation through a text are the pieces in a language. -/
def Spells (text : List Char) (R : Nat → Nat → Prop) (L : Language Char) : Prop :=
  ∀ i j, i ≤ text.length → (R i j ↔ ∃ v ∈ L, StandsAt text v i j)

theorem Spells.comp {text : List Char} {R S : Nat → Nat → Prop} {L M : Language Char}
    (hR : Spells text R L) (hS : Spells text S M) :
    Spells text (fun i j => ∃ m, R i m ∧ S m j) (L * M) := by
  intro i j hi
  rw [standsAt_mul]
  refine exists_congr fun m => ?_
  constructor
  · rintro ⟨hfirst, hsecond⟩
    have hv := (hR i m hi).mp hfirst
    obtain ⟨v, -, hstands⟩ := id hv
    exact ⟨hv, (hS m j hstands.le_length).mp hsecond⟩
  · rintro ⟨hv, hw⟩
    obtain ⟨v, -, hstands⟩ := id hv
    exact ⟨(hR i m hi).mpr hv, (hS m j hstands.le_length).mpr hw⟩

theorem Spells.rounds {text : List Char} {R : Nat → Nat → Prop} {L : Language Char}
    (hR : Spells text R L) (k : Nat) : Spells text (Rounds R k) (L ^ k) := by
  induction k with
  | zero =>
    intro i j hi
    rw [pow_zero]
    constructor
    · rintro rfl
      exact ⟨[], rfl, StandsAt.nil_iff.mpr ⟨rfl, hi⟩⟩
    · rintro ⟨_, rfl, h⟩
      exact (StandsAt.nil_iff.mp h).1.symm
  | succ k ih =>
    rw [pow_succ']
    exact hR.comp ih

/-- **The ways of a pattern are the pieces in its language.** -/
theorem takes_iff_language {p : Pattern} (h : p.LookFree) (text : List Char) :
    Spells text (p.Takes text) p.language := by
  induction p with
  | empty =>
    intro i j hi
    constructor
    · exact fun htakes => ⟨[], rfl, StandsAt.nil_iff.mpr htakes⟩
    · rintro ⟨_, rfl, hstands⟩
      exact StandsAt.nil_iff.mp hstands
  | char accepts =>
    intro i j hi
    constructor
    · rintro ⟨hj, c, hc, haccepts⟩
      exact ⟨[c], ⟨c, haccepts, rfl⟩, StandsAt.singleton_iff.mpr ⟨hj, hc⟩⟩
    · rintro ⟨_, ⟨c, haccepts, rfl⟩, hstands⟩
      obtain ⟨hj, hc⟩ := StandsAt.singleton_iff.mp hstands
      exact ⟨hj, c, hc, haccepts⟩
  | look l => exact h.elim
  | seq p q ihp ihq => exact (ihp h.1).comp (ihq h.2)
  | alt p q ihp ihq =>
    intro i j hi
    show p.Takes text i j ∨ q.Takes text i j ↔ ∃ v ∈ p.language + q.language, StandsAt text v i j
    rw [ihp h.1 i j hi, ihq h.2 i j hi]
    simp only [Language.mem_add, or_and_right, exists_or]
  | iterate p least most ih =>
    intro i j hi
    constructor
    · rintro ⟨more, hmost, hrounds⟩
      obtain ⟨v, hv, hstands⟩ := ((ih h).rounds _ i j hi).mp hrounds
      exact ⟨v, ⟨more, hmost, hv⟩, hstands⟩
    · rintro ⟨v, ⟨more, hmost, hv⟩, hstands⟩
      exact ⟨more, hmost, ((ih h).rounds _ i j hi).mpr ⟨v, hv, hstands⟩⟩

/-- **A search for a pattern without looks** finds a match where the text has
a piece in the language of the pattern. -/
theorem isMatch_iff_language {p : Pattern} (h : p.LookFree) {text : List Char} :
    p.isMatch text = true ↔ ∃ u v z, text = u ++ v ++ z ∧ v ∈ p.language := by
  rw [isMatch_iff]
  constructor
  · rintro ⟨i, j, hi, htakes⟩
    obtain ⟨v, hv, u, z, htext, -, -⟩ := (takes_iff_language h text i j hi).mp htakes
    exact ⟨u, v, z, htext, hv⟩
  · rintro ⟨u, v, z, htext, hv⟩
    have hi : u.length ≤ text.length := by
      rw [htext, List.append_assoc, List.length_append]
      exact Nat.le_add_right _ _
    exact ⟨u.length, u.length + v.length, hi,
      (takes_iff_language h text _ _ hi).mpr ⟨v, hv, u, z, htext, rfl, rfl⟩⟩

/-! ## Rounds and sequences -/

/-- A character a number of times. -/
theorem mem_language_char_pow {accepts : Char → Bool} {k : Nat} {v : List Char} :
    v ∈ (char accepts).language ^ k ↔ v.length = k ∧ ∀ c ∈ v, accepts c = true := by
  induction k generalizing v with
  | zero =>
    rw [pow_zero, Language.mem_one]
    constructor
    · rintro rfl
      exact ⟨rfl, fun c hc => by cases hc⟩
    · exact fun h => List.length_eq_zero_iff.mp h.1
  | succ k ih =>
    rw [pow_succ', Language.mem_mul]
    constructor
    · rintro ⟨_, ⟨c, hc, rfl⟩, v, hv, rfl⟩
      obtain ⟨hlen, hall⟩ := ih.mp hv
      exact ⟨by rw [List.singleton_append, List.length_cons, hlen],
        List.forall_mem_cons.mpr ⟨hc, hall⟩⟩
    · rintro ⟨hlen, hall⟩
      obtain ⟨c, v, rfl⟩ := List.exists_cons_of_length_eq_add_one hlen
      obtain ⟨hc, hall⟩ := List.forall_mem_cons.mp hall
      exact ⟨[c], ⟨c, hc, rfl⟩, v, ih.mpr ⟨Nat.succ.inj hlen, hall⟩, rfl⟩

theorem lookFree_sequence {ps : List Pattern} (h : ∀ p ∈ ps, p.LookFree) :
    (sequence ps).LookFree := by
  fun_induction sequence ps with
  | case1 => trivial
  | case2 p => exact h p List.mem_cons_self
  | case3 p rest _ ih =>
    obtain ⟨hp, hrest⟩ := List.forall_mem_cons.mp h
    exact ⟨hp, ih hrest⟩

/-- **The language of a sequence** is the product of the languages in it. -/
theorem language_sequence (ps : List Pattern) :
    (sequence ps).language = (ps.map language).prod := by
  fun_induction sequence ps with
  | case1 => rfl
  | case2 p => rw [List.map_singleton, List.prod_singleton]
  | case3 p rest _ ih => rw [List.map_cons, List.prod_cons, ← ih]; rfl

end Pattern

end CardQuery
