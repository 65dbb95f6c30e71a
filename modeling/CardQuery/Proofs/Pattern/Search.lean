import CardQuery.Pattern.Basic

/-!
# What a search finds

A pattern describes ways through a text, from one place to another. What the
ways are follows the pattern (`Pattern.Takes`): one step over a character,
none at all at a look, one way after another for a sequence, and a number of
rounds for a repetition.

The search computes with sets of places and never with ways. It gives up a
repetition when a round adds nothing, and never makes more rounds than the
text has places. Both lose nothing. What was reached without a last round is
closed under further ones (`Carries.reach`), and of more rounds than there are
places one stays where it is, so that it may be left out or made once more
(`Rounds.resize`).
-/

namespace CardQuery

/-! ## Rounds -/

/-- **A number of rounds**, each from where the one before it ended. -/
def Rounds (R : Nat → Nat → Prop) : Nat → Nat → Nat → Prop
  | 0, i, j => i = j
  | k + 1, i, j => ∃ m, R i m ∧ Rounds R k m j

/-- A relation that goes on, and no further than the last place of a text of
length `n`. From beyond that place it goes nowhere else. -/
def Forward (n : Nat) (R : Nat → Nat → Prop) : Prop := ∀ i j, R i j → i ≤ j ∧ j ≤ max i n

namespace Rounds

variable {R : Nat → Nat → Prop} {i j k l n : Nat}

theorem add_iff : Rounds R (k + l) i j ↔ ∃ m, Rounds R k i m ∧ Rounds R l m j := by
  induction k generalizing i with
  | zero =>
    rw [Nat.zero_add]
    exact ⟨fun h => ⟨i, rfl, h⟩, fun ⟨_, hi, h⟩ => hi ▸ h⟩
  | succ k ih =>
    rw [Nat.succ_add]
    constructor
    · rintro ⟨m, hfirst, hrest⟩
      obtain ⟨o, hk, hl⟩ := ih.mp hrest
      exact ⟨o, ⟨m, hfirst, hk⟩, hl⟩
    · rintro ⟨o, ⟨m, hfirst, hk⟩, hl⟩
      exact ⟨m, hfirst, ih.mpr ⟨o, hk, hl⟩⟩

theorem forward (hR : Forward n R) : Forward n (Rounds R k) := by
  induction k with
  | zero =>
    rintro i j rfl
    omega
  | succ k ih =>
    rintro i j ⟨m, hfirst, hrest⟩
    have hm := hR i m hfirst
    have hj := ih m j hrest
    omega

/-- **More rounds than places** can be one fewer. -/
theorem drop (hR : Forward n R) (h : Rounds R (k + 1) i j) (hk : j - i < k + 1) :
    Rounds R k i j := by
  induction k generalizing i with
  | zero =>
    obtain ⟨m, hfirst, rfl⟩ := h
    have hm := hR i m hfirst
    show i = m
    omega
  | succ k ih =>
    obtain ⟨m, hfirst, hrest⟩ := h
    -- a first round that stays is left out, one that goes on leaves less way to go
    rcases Nat.eq_or_lt_of_le (hR i m hfirst).1 with rfl | hlt
    · exact hrest
    · exact ⟨m, hfirst, ih hrest (by omega)⟩

/-- **More rounds than places** can be one more. -/
theorem grow (hR : Forward n R) (h : Rounds R k i j) (hk : j - i < k) : Rounds R (k + 1) i j := by
  induction k generalizing i with
  | zero => omega
  | succ k ih =>
    obtain ⟨m, hfirst, hrest⟩ := h
    rcases Nat.eq_or_lt_of_le (hR i m hfirst).1 with rfl | hlt
    · exact ⟨i, hfirst, i, hfirst, hrest⟩
    · exact ⟨m, hfirst, ih hrest (by have := (forward hR m j hrest).1; omega)⟩

/-- **More rounds than places can be any number that is no less.** -/
theorem resize (hR : Forward n R) (h : Rounds R k i j) (hk : n < k) (hl : n ≤ l) :
    Rounds R l i j := by
  have hway : j - i ≤ n := by
    have := forward hR i j h
    omega
  rcases Nat.le_total k l with hkl | hlk
  · obtain ⟨d, rfl⟩ := Nat.exists_eq_add_of_le hkl
    clear hkl hl
    induction d with
    | zero => exact h
    | succ d ih => exact grow hR ih (Nat.lt_of_lt_of_le (by omega) (Nat.le_add_right k d))
  · obtain ⟨d, rfl⟩ := Nat.exists_eq_add_of_le hlk
    clear hlk hk
    induction d with
    | zero => exact h
    | succ d ih => exact ih (drop hR h (by omega))

end Rounds

/-! ## Ways -/

namespace Pattern

/-- The character before a place of a text, which another character may
stand before. -/
def charBefore (before : Option Char) (text : List Char) : Nat → Option Char
  | 0 => before
  | i + 1 => text[i]?

/-- **The ways of a pattern through a text**, from one place to another. A
repetition makes at least the rounds it must make, and up to so many more. -/
def Takes (text : List Char) : Pattern → Nat → Nat → Prop
  | empty, i, j => j = i ∧ i ≤ text.length
  | char accepts, i, j => j = i + 1 ∧ ∃ c, text[i]? = some c ∧ accepts c = true
  | look l, i, j => j = i ∧ i ≤ text.length ∧ l.holds (charBefore none text i) text[i]? = true
  | seq p q, i, j => ∃ m, p.Takes text i m ∧ q.Takes text m j
  | alt p q, i, j => p.Takes text i j ∨ q.Takes text i j
  | iterate p least most, i, j =>
    ∃ more, (∀ m ∈ most, more ≤ m - least) ∧ Rounds (p.Takes text) (least + more) i j

/-- **No way goes back**, and none leaves the text. -/
theorem Takes.forward (text : List Char) (p : Pattern) :
    Forward text.length (p.Takes text) := by
  induction p with
  | empty =>
    rintro i j ⟨rfl, hi⟩
    omega
  | char accepts =>
    rintro i j ⟨rfl, c, hc, -⟩
    have hi := (List.getElem?_eq_some_iff.mp hc).1
    omega
  | look l =>
    rintro i j ⟨rfl, hi, -⟩
    omega
  | seq p q ihp ihq =>
    rintro i j ⟨m, hp, hq⟩
    have hm := ihp i m hp
    have hj := ihq m j hq
    omega
  | alt p q ihp ihq =>
    rintro i j (h | h)
    · exact ihp i j h
    · exact ihq i j h
  | iterate p least most ih =>
    rintro i j ⟨more, -, h⟩
    exact Rounds.forward ih i j h

/-! ## Sets of places -/

theorem testBit_withBit_zero (b : Bool) (higher : Nat) : (withBit b higher).testBit 0 = b := by
  rw [withBit, Nat.testBit_zero]
  cases b <;> simp

theorem testBit_withBit_succ (b : Bool) (higher k : Nat) :
    (withBit b higher).testBit (k + 1) = higher.testBit k := by
  rw [withBit, Nat.testBit_add_one]
  congr 1
  have hb : b.toNat < 2 := Bool.toNat_lt b
  omega

theorem testBit_allPlaces (text : List Char) (i : Nat) :
    (allPlaces text).testBit i = true ↔ i ≤ text.length := by
  have h := Nat.testBit_two_pow_sub_one (text.length + 1) i
  rw [allPlaces, Nat.pow_eq, h, decide_eq_true_iff, Nat.lt_succ_iff]

theorem testBit_placesBefore (accepts : Char → Bool) (text : List Char) (i : Nat) :
    (placesBefore accepts text).testBit i = true ↔ ∃ c, text[i]? = some c ∧ accepts c = true := by
  induction text generalizing i with
  | nil => simp [placesBefore]
  | cons c rest ih =>
    rw [placesBefore]
    cases i with
    | zero => simp [testBit_withBit_zero, -Nat.testBit_zero]
    | succ i => rw [testBit_withBit_succ, ih, List.getElem?_cons_succ]

theorem testBit_placesOf (l : Look) (before : Option Char) (text : List Char) (i : Nat) :
    (placesOf l before text).testBit i = true ↔
      i ≤ text.length ∧ l.holds (charBefore before text i) text[i]? = true := by
  induction text generalizing before i with
  | nil =>
    rw [placesOf]
    cases i with
    | zero => simp [testBit_withBit_zero, charBefore, -Nat.testBit_zero]
    | succ i => simp [testBit_withBit_succ]
  | cons c rest ih =>
    rw [placesOf]
    cases i with
    | zero => simp [testBit_withBit_zero, charBefore, -Nat.testBit_zero]
    | succ i =>
      have hbefore : charBefore (some c) rest i = charBefore before (c :: rest) (i + 1) := by
        cases i <;> rfl
      rw [testBit_withBit_succ, ih, List.length_cons, Nat.succ_le_succ_iff,
        List.getElem?_cons_succ, hbefore]

end Pattern

/-! ## The search -/

/-- **A map of sets of places that goes where a relation leads.** -/
def Carries (f : Nat → Nat) (R : Nat → Nat → Prop) : Prop :=
  ∀ s j, (f s).testBit j = true ↔ ∃ i, s.testBit i = true ∧ R i j

namespace Carries

variable {f g : Nat → Nat} {R S : Nat → Nat → Prop}

theorem comp (hf : Carries f R) (hg : Carries g S) :
    Carries (fun s => g (f s)) fun i j => ∃ m, R i m ∧ S m j := by
  intro s j
  rw [hg]
  constructor
  · rintro ⟨m, hm, hS⟩
    obtain ⟨i, hi, hR⟩ := (hf s m).mp hm
    exact ⟨i, hi, m, hR, hS⟩
  · rintro ⟨i, hi, m, hR, hS⟩
    exact ⟨m, (hf s m).mpr ⟨i, hi, hR⟩, hS⟩

theorem union (hf : Carries f R) (hg : Carries g S) :
    Carries (fun s => f s ||| g s) fun i j => R i j ∨ S i j := by
  intro s j
  rw [Nat.testBit_or, Bool.or_eq_true, hf, hg]
  constructor
  · rintro (⟨i, hi, h⟩ | ⟨i, hi, h⟩)
    · exact ⟨i, hi, .inl h⟩
    · exact ⟨i, hi, .inr h⟩
  · rintro ⟨i, hi, h | h⟩
    · exact .inl ⟨i, hi, h⟩
    · exact .inr ⟨i, hi, h⟩

theorem congr (hf : Carries f R) (h : ∀ i j, R i j ↔ S i j) : Carries f S := by
  intro s j
  rw [hf]
  exact exists_congr fun i => and_congr_right fun _ => h i j

/-- Staying at some places. -/
theorem stay (places : Nat) :
    Carries (· &&& places) fun i j => j = i ∧ places.testBit i = true := by
  intro s j
  rw [Nat.testBit_and, Bool.and_eq_true]
  constructor
  · rintro ⟨hs, hj⟩
    exact ⟨j, hs, rfl, hj⟩
  · rintro ⟨_, hs, rfl, hj⟩
    exact ⟨hs, hj⟩

/-- One step from some places. -/
theorem step (places : Nat) :
    Carries (fun s => (s &&& places) <<< 1) fun i j => j = i + 1 ∧ places.testBit i = true := by
  intro s j
  rw [Nat.testBit_shiftLeft, Bool.and_eq_true, decide_eq_true_iff, Nat.testBit_and,
    Bool.and_eq_true]
  constructor
  · rintro ⟨hpos, hs, hj⟩
    exact ⟨j - 1, hs, by omega, hj⟩
  · rintro ⟨i, hs, rfl, hi⟩
    exact ⟨Nat.succ_pos i, hs, hi⟩

theorem times (hf : Carries f R) (k : Nat) : Carries (Route.times f k) (Rounds R k) := by
  induction k with
  | zero =>
    intro s j
    exact ⟨fun h => ⟨j, h, rfl⟩, fun ⟨_, h, hij⟩ => hij ▸ h⟩
  | succ k ih =>
    show Carries (fun s => Route.times f k (f s)) _
    exact comp hf ih

/-- A set that a round adds nothing to is closed under rounds. -/
theorem mem_of_rounds (hf : Carries f R) {s : Nat} (hs : s ||| f s = s) {k i j : Nat}
    (hi : s.testBit i = true) (h : Rounds R k i j) : s.testBit j = true := by
  induction k generalizing i with
  | zero => exact h ▸ hi
  | succ k ih =>
    obtain ⟨m, hfirst, hrest⟩ := h
    have hm : (f s).testBit m = true := (hf s m).mpr ⟨i, hi, hfirst⟩
    refine ih ?_ hrest
    rw [← hs, Nat.testBit_or, hm, Bool.or_true]

/-- **Giving up when nothing is added loses nothing.** -/
theorem reach (hf : Carries f R) (k : Nat) :
    Carries (Route.reach f k) fun i j => ∃ a, a ≤ k ∧ Rounds R a i j := by
  induction k with
  | zero =>
    intro s j
    constructor
    · exact fun h => ⟨j, h, 0, Nat.le_refl 0, rfl⟩
    · rintro ⟨i, hi, a, ha, h⟩
      obtain rfl := Nat.le_zero.mp ha
      exact h ▸ hi
  | succ k ih =>
    intro s j
    rw [Route.reach]
    split
    · next hstop =>
      constructor
      · exact fun h => ⟨j, h, 0, Nat.zero_le _, rfl⟩
      · rintro ⟨i, hi, a, -, h⟩
        exact mem_of_rounds hf hstop hi h
    · rw [ih]
      constructor
      · rintro ⟨m, hm, a, ha, h⟩
        rw [Nat.testBit_or, Bool.or_eq_true, hf] at hm
        rcases hm with hm | ⟨i, hi, hfirst⟩
        · exact ⟨m, hm, a, Nat.le_succ_of_le ha, h⟩
        · exact ⟨i, hi, a + 1, Nat.succ_le_succ ha, m, hfirst, h⟩
      · rintro ⟨i, hi, a, ha, h⟩
        cases a with
        | zero => exact ⟨i, by rw [Nat.testBit_or, hi, Bool.true_or], 0, Nat.zero_le k, h⟩
        | succ a =>
          obtain ⟨m, hfirst, hrest⟩ := h
          have hm : (f s).testBit m = true := (hf s m).mpr ⟨i, hi, hfirst⟩
          exact ⟨m, by rw [Nat.testBit_or, hm, Bool.or_true], a, Nat.le_of_succ_le_succ ha, hrest⟩

end Carries

/-- How many rounds a search makes, in a text of length `n`, past those it must
make. -/
def optionalRounds (n least : Nat) : Option Nat → Nat
  | none => n
  | some m => min n (m - least)

/-- **As many rounds as there are places are enough** for a repetition: it
makes no more than `n + 1` of those it must make and `n` of the others. -/
theorem rounds_enough {n : Nat} {R : Nat → Nat → Prop} (hR : Forward n R) (least : Nat)
    (most : Option Nat) (i j : Nat) :
    (∃ m, Rounds R (min least (n + 1)) i m ∧
      ∃ a, a ≤ optionalRounds n least most ∧ Rounds R a m j) ↔
    ∃ more, (∀ m ∈ most, more ≤ m - least) ∧ Rounds R (least + more) i j := by
  constructor
  · rintro ⟨m, hleast, a, ha, hmore⟩
    have hall := Rounds.add_iff.mpr ⟨m, hleast, hmore⟩
    refine ⟨a, ?_, ?_⟩
    · rintro m rfl
      exact Nat.le_trans ha (Nat.min_le_right n _)
    · by_cases hfew : least ≤ n + 1
      · rwa [Nat.min_eq_left hfew] at hall
      · exact Rounds.resize hR hall (by omega) (by omega)
  · rintro ⟨more, hmost, hall⟩
    have hbound : ∃ a, a ≤ optionalRounds n least most ∧
        Rounds R (min least (n + 1) + a) i j := by
      by_cases hfew : least ≤ n + 1
      · rw [Nat.min_eq_left hfew]
        by_cases hmore : more ≤ n
        · refine ⟨more, ?_, hall⟩
          cases most with
          | none => exact hmore
          | some m => exact Nat.le_min.mpr ⟨hmore, hmost m rfl⟩
        · refine ⟨n, ?_, Rounds.resize hR hall (by omega) (by omega)⟩
          cases most with
          | none => exact Nat.le_refl n
          | some m =>
            have hm := hmost m rfl
            exact Nat.le_min.mpr ⟨Nat.le_refl n, by omega⟩
      · exact ⟨0, Nat.zero_le _, Rounds.resize hR hall (by omega) (by omega)⟩
    obtain ⟨a, ha, h⟩ := hbound
    obtain ⟨m, hleast, hmore⟩ := Rounds.add_iff.mp h
    exact ⟨m, hleast, a, ha, hmore⟩

namespace Pattern

/-- **The search goes where the ways of the pattern lead.** -/
theorem carries_ends (text : List Char) (p : Pattern) :
    Carries ((p.layOver text).ends text.length) (p.Takes text) := by
  induction p with
  | empty =>
    refine (Carries.stay _).congr fun i j => and_congr_right fun _ => ?_
    exact testBit_allPlaces text i
  | char accepts =>
    refine (Carries.step _).congr fun i j => and_congr_right fun _ => ?_
    exact testBit_placesBefore accepts text i
  | look l =>
    refine (Carries.stay _).congr fun i j => and_congr_right fun _ => ?_
    exact testBit_placesOf l none text i
  | seq p q ihp ihq => exact ihp.comp ihq
  | alt p q ihp ihq => exact ihp.union ihq
  | iterate p least most ih =>
    exact ((ih.times _).comp (ih.reach _)).congr
      (rounds_enough (Takes.forward text p) least most)

/-- **A search finds a match where the pattern has a way.** -/
theorem isMatch_iff {p : Pattern} {text : List Char} :
    p.isMatch text = true ↔ ∃ i j, i ≤ text.length ∧ p.Takes text i j := by
  have hends := carries_ends text p (allPlaces text)
  rw [isMatch, bne_iff_ne]
  constructor
  · intro h
    obtain ⟨j, hj⟩ := Nat.exists_testBit_of_ne_zero h
    obtain ⟨i, hi, htakes⟩ := (hends j).mp hj
    exact ⟨i, j, (testBit_allPlaces text i).mp hi, htakes⟩
  · rintro ⟨i, j, hi, htakes⟩ h
    have hj := (hends j).mpr ⟨i, (testBit_allPlaces text i).mpr hi, htakes⟩
    rw [h, Nat.zero_testBit] at hj
    exact Bool.false_ne_true hj

end Pattern

end CardQuery
