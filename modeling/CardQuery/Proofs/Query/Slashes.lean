import CardQuery.Pattern.Reader
import CardQuery.Proofs.Query.Faults

/-!
# Slashes in regular expressions

A regular expression stands between slashes, so a slash in it has to be escaped, and the backslash
that does so is no part of it. Two scanners go over its text, one to find where it ends and one to
take those backslashes out again, and both go from the left, two characters at a time where they
see a backslash. Whether a backslash escapes the slash behind it depends on how many of them stand
there in a row, so scanners out of step would end the text early, or change what it means.

They cannot get out of step, because there is one way only to take a text apart into characters
that stand by themselves and characters that are escaped (`RegexChar.textOf_injective`). Every text
can be taken apart like that but those that end in a backslash without a partner
(`RegexChar.exists_textOf_iff`). On the characters, to guard the slashes and to take the guards away
is a map each, and each scanner is one step per character (`RegexChar.unescapeSlashes_guarded`).
-/

namespace CardQuery

/-- **A character of a regular expression** as it is written: by itself, or behind a backslash. -/
inductive RegexChar where
  /-- Anything but a backslash may stand by itself. -/
  | plain (c : Char) (h : c ≠ '\\')
  | escaped (c : Char)
deriving DecidableEq

namespace RegexChar

/-- The text of a character. -/
def text : RegexChar → List Char
  | plain c _ => [c]
  | escaped c => ['\\', c]

/-- **The text of some characters.** -/
def textOf (rs : List RegexChar) : List Char := rs.flatMap text

/-- A character as it may stand between slashes: a slash only if it is escaped. -/
def guard : RegexChar → RegexChar
  | plain c h => if c = '/' then escaped '/' else plain c h
  | escaped c => escaped c

/-- A character as it is meant: a slash by itself. Every other escape is kept. -/
def bare : RegexChar → RegexChar
  | plain c h => plain c h
  | escaped c => if c = '/' then plain '/' (by decide) else escaped c

/-- **Some characters between slashes**, with a backslash in front of every slash that had none. -/
def written (rs : List RegexChar) : List Char := '/' :: (textOf (rs.map guard) ++ ['/'])

/-- A guard makes no difference to what is meant. -/
theorem bare_comp_guard : bare ∘ guard = bare := by
  funext r
  cases r with
  | plain c h =>
    show (guard (plain c h)).bare = plain c h
    rw [guard]
    split
    · next hc =>
      subst hc
      rfl
    · rfl
  | escaped c => rfl

theorem bare_comp_bare : bare ∘ bare = bare := by
  funext r
  cases r with
  | plain c h => rfl
  | escaped c =>
    show (bare (escaped c)).bare = bare (escaped c)
    rw [bare]
    split
    · rfl
    · next hc => exact if_neg hc

/-! ## Taking a text apart -/

theorem textOf_cons (r : RegexChar) (rs : List RegexChar) :
    textOf (r :: rs) = r.text ++ textOf rs :=
  List.flatMap_cons

/-- **A text tells its first character**, because a backslash cannot stand by itself. -/
theorem text_append_inj {r s : RegexChar} {cs ds : List Char} (h : r.text ++ cs = s.text ++ ds) :
    r = s ∧ cs = ds := by
  cases r with
  | plain c hc =>
    cases s with
    | plain d hd =>
      obtain ⟨rfl, hrest⟩ := List.cons.inj h
      exact ⟨rfl, hrest⟩
    | escaped d => exact absurd (List.cons.inj h).1 hc
  | escaped c =>
    cases s with
    | plain d hd => exact absurd (List.cons.inj h).1.symm hd
    | escaped d =>
      obtain ⟨rfl, hrest⟩ := List.cons.inj (List.cons.inj h).2
      exact ⟨rfl, hrest⟩

/-- **A text can be taken apart in one way only.** -/
theorem textOf_injective : Function.Injective textOf := by
  intro rs ss h
  induction rs generalizing ss with
  | nil =>
    cases ss with
    | nil => rfl
    | cons s ss => cases s <;> cases h
  | cons r rs ih =>
    cases ss with
    | nil => cases r <;> cases h
    | cons s ss =>
      obtain ⟨rfl, hrest⟩ := text_append_inj h
      rw [ih hrest]

/-- **Any text can be taken apart**, up to a backslash that may be left over at its end. -/
theorem exists_textOf_append (t : List Char) :
    ∃ rs left, t = textOf rs ++ left ∧ (left = [] ∨ left = ['\\']) := by
  -- along the scanner that takes the guards away, which takes the same characters
  fun_induction Pattern.unescapeSlashes t with
  | case1 rest ih =>
    obtain ⟨rs, left, rfl, hleft⟩ := ih
    exact ⟨escaped '/' :: rs, left, rfl, hleft⟩
  | case2 c rest _ ih =>
    obtain ⟨rs, left, rfl, hleft⟩ := ih
    exact ⟨escaped c :: rs, left, rfl, hleft⟩
  | case3 c rest hslash hescape ih =>
    by_cases hc : c = '\\'
    · cases rest with
      | nil => exact ⟨[], [c], rfl, .inr (by rw [hc])⟩
      | cons d rest => exact (hescape d rest hc rfl).elim
    · obtain ⟨rs, left, rfl, hleft⟩ := ih
      exact ⟨plain c hc :: rs, left, rfl, hleft⟩
  | case4 => exact ⟨[], [], rfl, .inl rfl⟩

/-- Characters in front of a text do not count for what it escapes. -/
theorem escapesNext_textOf_append (rs : List RegexChar) (left : List Char) :
    Lexer.EscapesNext (textOf rs ++ left) ↔ Lexer.EscapesNext left := by
  induction rs with
  | nil => rfl
  | cons r rs ih =>
    rw [textOf_cons, List.append_assoc]
    cases r with
    | plain c hc => exact (Lexer.escapesNext_cons hc _).trans ih
    | escaped c => exact (Lexer.escapesNext_pair c _).trans ih

/-- **The texts that can be taken apart** are those that escape nothing behind them. -/
theorem exists_textOf_iff {t : List Char} : (∃ rs, textOf rs = t) ↔ ¬ Lexer.EscapesNext t := by
  have hnone : ¬ Lexer.EscapesNext [] := by
    show ¬ Odd 0
    decide
  have hone : Lexer.EscapesNext ['\\'] := odd_one
  constructor
  · rintro ⟨rs, rfl⟩
    have happend := escapesNext_textOf_append rs []
    rw [List.append_nil] at happend
    exact happend.not.mpr hnone
  · intro h
    obtain ⟨rs, left, rfl, rfl | rfl⟩ := exists_textOf_append t
    · exact ⟨rs, (List.append_nil _).symm⟩
    · exact absurd ((escapesNext_textOf_append rs _).mpr hone) h

/-! ## Taking the guards away -/

theorem unescapeSlashes_plain {c : Char} (h : c ≠ '\\') (cs : List Char) :
    Pattern.unescapeSlashes (c :: cs) = c :: Pattern.unescapeSlashes cs := by
  rw [Pattern.unescapeSlashes]
  · exact fun _ hc _ => h hc
  · exact fun _ _ hc _ => h hc

theorem unescapeSlashes_escaped {c : Char} (h : c ≠ '/') (cs : List Char) :
    Pattern.unescapeSlashes ('\\' :: c :: cs) = '\\' :: c :: Pattern.unescapeSlashes cs := by
  rw [Pattern.unescapeSlashes]
  exact h

/-- **Guards are taken away one character at a time**, and what follows is read as it would be by
itself. -/
theorem unescapeSlashes_textOf_append (rs : List RegexChar) (left : List Char) :
    Pattern.unescapeSlashes (textOf rs ++ left)
      = textOf (rs.map bare) ++ Pattern.unescapeSlashes left := by
  induction rs with
  | nil => rfl
  | cons r rs ih =>
    rw [textOf_cons, List.map_cons, textOf_cons, List.append_assoc, List.append_assoc, ← ih]
    cases r with
    | plain c hc => exact unescapeSlashes_plain hc _
    | escaped c =>
      by_cases hc : c = '/'
      · subst hc
        rfl
      · rw [bare, if_neg hc]
        exact unescapeSlashes_escaped hc _

theorem unescapeSlashes_textOf (rs : List RegexChar) :
    Pattern.unescapeSlashes (textOf rs) = textOf (rs.map bare) := by
  have happend := unescapeSlashes_textOf_append rs []
  rwa [List.append_nil, Pattern.unescapeSlashes, List.append_nil] at happend

/-- **A text without guards has none to take away**, also where a backslash is left over. -/
theorem unescapeSlashes_unescapeSlashes (t : List Char) :
    Pattern.unescapeSlashes (Pattern.unescapeSlashes t) = Pattern.unescapeSlashes t := by
  obtain ⟨rs, left, rfl, hleft⟩ := exists_textOf_append t
  have hself : Pattern.unescapeSlashes left = left := by rcases hleft with rfl | rfl <;> rfl
  rw [unescapeSlashes_textOf_append, hself, unescapeSlashes_textOf_append, hself, List.map_map,
    bare_comp_bare]

/-! ## Finding the end -/

/-- A guarded character does not end a regular expression. -/
theorem splitAtDelimiter_guard (r : RegexChar) (cs : List Char) :
    Lexer.splitAtDelimiter '/' (r.guard.text ++ cs)
      = (Lexer.splitAtDelimiter '/' cs).map fun (body, after) =>
        (r.guard.text ++ body, after) := by
  cases r with
  | escaped c => rfl
  | plain c h =>
    rw [guard]
    split
    · rfl
    · next hc => exact (Lexer.splitAtDelimiter_cons h '/' cs).trans (if_neg hc)

/-- **Guarded characters leave no slash open.** -/
theorem closed_guarded (rs : List RegexChar) : Lexer.Closed (textOf (rs.map guard)) := by
  intro after
  induction rs with
  | nil => rfl
  | cons r rs ih =>
    rw [List.map_cons, textOf_cons, List.append_assoc, splitAtDelimiter_guard, ih]
    rfl

/-- **What is written between slashes is cut as a whole** where a value follows. -/
theorem cut_written (rs : List RegexChar) (after : List Char) :
    Lexer.cut true '/' (textOf (rs.map guard) ++ ['/'] ++ after)
      = ⟨written rs, after, .ok (Lexer.regexToken (textOf (rs.map guard)))⟩ := by
  rw [Lexer.cut, if_neg (by decide), if_pos ⟨rfl, rfl⟩, Lexer.cutDelimited, List.append_assoc,
    List.singleton_append, closed_guarded rs after]
  rfl

/-- **Slashes in regular expressions.** The texts in which every backslash escapes something are
those that can be taken apart into characters, each in one way. Written between slashes, guarded,
where a value follows, such a text gives one token, which takes just what was written and leaves
what comes behind it. If the guards are taken away from its value, the text is back, with every
escaped slash by itself and every other escape as it was. Of no text whatever more is taken away
the second time. -/
theorem unescapeSlashes_guarded :
    (∀ t, ¬ Lexer.EscapesNext t ↔ ∃ rs, textOf rs = t) ∧ Function.Injective textOf ∧
      (∀ (rs : List RegexChar) (l : Lexer) (gap after : List Char), l.valueFollows = true →
        (∀ c ∈ gap, Lexer.isGap c = true) → l.rest = gap ++ written rs ++ after →
        let start := l.position.after gap
        let stop := start.after (written rs)
        l.next = (.ok ⟨.regex, .ofList (written rs), .regex (.ofList (textOf (rs.map guard))),
          ⟨start, stop⟩⟩, ⟨after, stop, some .regex⟩)) ∧
      (∀ rs : List RegexChar,
        Pattern.unescapeSlashes (textOf (rs.map guard)) = textOf (rs.map bare)) ∧
      ∀ t, Pattern.unescapeSlashes (Pattern.unescapeSlashes t) = Pattern.unescapeSlashes t := by
  refine ⟨fun t => exists_textOf_iff.symm, textOf_injective, ?_, ?_,
    unescapeSlashes_unescapeSlashes⟩
  · intro rs l gap after hvalue hgap hrest
    have htext : l.rest = gap ++ '/' :: (textOf (rs.map guard) ++ ['/'] ++ after) := by
      rw [hrest, written, List.append_assoc, List.cons_append]
    exact Lexer.next_of_text htext hgap (by decide) (by rw [hvalue]; exact cut_written rs after)
  · intro rs
    rw [unescapeSlashes_textOf, List.map_map, bare_comp_guard]

/-- In `a\\/\/\d/` the first slash stands behind an escaped backslash, so it is not escaped itself.
The second one is, and the third one is not. Written as a regular expression, the first and the
third one are guarded, and to take the guards away leaves the other escapes as they were. -/
theorem unescapeSlashes_guarded_doubled :
    let slash := plain '/' (by decide)
    let rs := [plain 'a' (by decide), escaped '\\', slash, escaped '/', escaped 'd', slash]
    let l := Lexer.ofQuery r" /a\\\/\/\d\// = x"
    textOf rs = r"a\\/\/\d/".toList ∧ ¬ Lexer.EscapesNext (textOf rs) ∧
      l.valueFollows = true ∧ l.rest = [' '] ++ written rs ++ " = x".toList ∧
      l.next = (.ok ⟨.regex, r"/a\\\/\/\d\//", .regex r"a\\\/\/\d\/",
        ⟨⟨1, 1, 2⟩, ⟨14, 1, 15⟩⟩⟩, ⟨" = x".toList, ⟨14, 1, 15⟩, some .regex⟩) ∧
      Pattern.unescapeSlashes r"a\\\/\/\d\/".toList = r"a\\//\d/".toList := by
  intro slash rs l
  obtain ⟨hparts, -, hnext, hvalue, -⟩ := unescapeSlashes_guarded
  have hrest : l.rest = [' '] ++ written rs ++ " = x".toList := by decide
  have hguarded : textOf (rs.map guard) = r"a\\\/\/\d\/".toList := by decide
  have hbare : textOf (rs.map bare) = r"a\\//\d/".toList := by decide
  have hwritten : String.ofList (written rs) = r"/a\\\/\/\d\//" := by decide
  have hgap : ∀ c ∈ [' '], Lexer.isGap c = true := List.forall_mem_singleton.mpr rfl
  have htoken := hnext rs l [' '] _ rfl hgap hrest
  have hmeant := hvalue rs
  rw [hguarded, String.ofList_toList, hwritten] at htoken
  rw [hguarded, hbare] at hmeant
  exact ⟨by decide, (hparts _).mpr ⟨rs, rfl⟩, rfl, hrest, htoken, hmeant⟩

end RegexChar

end CardQuery
