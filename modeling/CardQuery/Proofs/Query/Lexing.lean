import CardQuery.Proofs.Number.Printing
import CardQuery.Proofs.Query.Writing
import CardQuery.Proofs.Text.Lowercase
import CardQuery.Query.Token.Lexer

/-!
# What a lexer gives

A lexer that is asked again and again goes through its text one token at a
time (`Lexer.Yields`), and the tokens of a query are what it gives up to the
end.

Not every token can be cut from a text. A number comes from digits, so it is
whole or infinite; the text of a regular expression leaves no slash open; a
name is the lowercase of a word, and is none of the named literals
(`Content.Lexed`). All of that is known of one token at a time, and of a
regular expression also that a value had to follow what stands before it
(`Lexer.of_next`).
-/

namespace CardQuery

namespace Lexer

/-! ## From token to token -/

/-- **Tokens that a lexer gives one after another**, short of the end, and the
lexer after them. -/
inductive Yields : Lexer → List Token → Lexer → Prop where
  | refl (l : Lexer) : Yields l [] l
  | step {l m : Lexer} {t : Token} {ts : List Token} (h : l.next.1 = .ok t) (hk : t.kind ≠ .eof)
    (rest : Yields l.next.2 ts m) : Yields l (t :: ts) m

theorem kind_ne_of_yields {l m : Lexer} {ts : List Token} (h : Yields l ts m) :
    ∀ t ∈ ts, t.kind ≠ .eof := by
  induction h with
  | refl l => exact fun t ht => by cases ht
  | step _ hk _ ih => exact List.forall_mem_cons.mpr ⟨hk, ih⟩

/-- **The tokens of a text** are what the lexer gives before its first end
token, and that token. -/
theorem tokens_eq_ok_iff (l : Lexer) (given : List Token) :
    l.tokens = .ok given ↔
      ∃ ts m stop, given = ts ++ [stop] ∧ Yields l ts m ∧ m.next.1 = .ok stop ∧
        stop.kind = .eof := by
  constructor
  · intro h
    -- along the calls of the lexer, which shorten its text
    fun_induction tokens l generalizing given with
    | case1 l e he => cases h
    | case2 l t ht hk =>
      cases h
      exact ⟨[], l, t, rfl, .refl l, ht, hk⟩
    | case3 l t ht hk hlt e he ih => cases h
    | case4 l t ht hk hlt ts hts ih =>
      cases h
      obtain ⟨us, m, stop, rfl, hus, hstop⟩ := ih ts hts
      exact ⟨t :: us, m, stop, rfl, .step ht hk hus, hstop⟩
  · rintro ⟨ts, m, stop, rfl, h, hstop, hk⟩
    induction h with
    | refl l =>
      unfold tokens
      split
      · next e he => rw [hstop] at he; cases he
      · next t ht =>
        rw [hstop] at ht
        cases ht
        rw [dif_pos hk]
        rfl
    | @step l m t ts ht hkt _ ih =>
      unfold tokens
      split
      · next e he => rw [ht] at he; cases he
      · next t' ht' =>
        rw [ht] at ht'
        cases ht'
        rw [dif_neg hkt, ih hstop]
        rfl

/-! ## What a name starts with -/

theorem le_toNat_of_isLetter {c : Char} (h : Text.isLetter c = true) : 0x41 ≤ c.toNat := by
  unfold Text.isLetter Text.inTable at h
  unfold Text.letterTable Text.tableHolds at h
  split at h
  · rw [Text.CodeRange.holds, Bool.and_eq_true, decide_eq_true_eq] at h
    exact h.1
  · next hlt =>
    have hlast : ¬ c.toNat ≤ 0x5A := hlt
    omega

theorem le_toNat_of_startsName {c : Char} (h : startsName c = true) : 0x41 ≤ c.toNat := by
  rcases (Bool.or_eq_true _ _).mp h with hletter | hline
  · exact le_toNat_of_isLetter hletter
  · rw [eq_of_beq hline]
    decide

theorem toNat_le_of_isDigit {c : Char} (h : Number.isDigit c = true) : c.toNat ≤ 0x39 := by
  have hle : c ≤ '9' := of_decide_eq_true ((Bool.and_eq_true _ _).mp h).2
  exact hle

/-- What starts a name is no digit. -/
theorem isDigit_of_startsName {c : Char} (h : startsName c = true) : Number.isDigit c = false := by
  refine Bool.eq_false_iff.mpr fun hdigit => ?_
  have hlow := le_toNat_of_startsName h
  have hhigh := toNat_le_of_isDigit hdigit
  omega

/-- Characters with different code points are different. -/
theorem ne_of_toNat_lt {c d : Char} (h : d.toNat < c.toNat) : c ≠ d := by
  rintro rfl
  exact Nat.lt_irrefl _ h

/-- No blank is above the space. -/
theorem isGap_of_lt {c : Char} (h : 0x20 < c.toNat) : isGap c = false := by
  have hne : ∀ d : Char, d.toNat ≤ 0x20 → (c == d) = false := fun d hd =>
    beq_false_of_ne (ne_of_toNat_lt (Nat.lt_of_le_of_lt hd h))
  rw [isGap, hne _ (by decide), hne _ (by decide), hne _ (by decide), hne _ (by decide)]
  rfl

theorem inName_of_startsName {c : Char} (h : startsName c = true) : inName c = true := by
  rw [inName, h]
  rfl

/-! ## What can be cut from a text -/

theorem splitAtDelimiter_cons {c : Char} (hc : c ≠ '\\') (close : Char) (cs : List Char) :
    splitAtDelimiter close (c :: cs)
      = if c = close then some ([], cs)
        else (splitAtDelimiter close cs).map fun (body, after) => (c :: body, after) := by
  rw [splitAtDelimiter]
  · exact fun h _ => hc h
  · exact fun _ _ h _ => hc h

/-- **A text ends at its delimiter whatever follows.** -/
theorem splitAtDelimiter_replace {close : Char} (hclose : close ≠ '\\') {cs body after : List Char}
    (h : splitAtDelimiter close cs = some (body, after)) (rest : List Char) :
    splitAtDelimiter close (body ++ close :: rest) = some (body, rest) := by
  -- an escaped character is taken with its backslash, here as there, so the text ends
  -- at the same place
  fun_induction splitAtDelimiter close cs generalizing body after with
  | case1 => cases h
  | case2 => cases h
  | case3 c cs ih =>
    obtain ⟨⟨b, a⟩, hs, hp⟩ := Option.map_eq_some_iff.mp h
    cases hp
    show (splitAtDelimiter close (b ++ close :: rest)).map _ = _
    rw [ih hs]
    rfl
  | case4 cs hne =>
    cases h
    rw [List.nil_append, splitAtDelimiter_cons hclose, if_pos rfl]
  | case5 c cs hlast hescape hne ih =>
    obtain ⟨⟨b, a⟩, hs, hp⟩ := Option.map_eq_some_iff.mp h
    cases hp
    have hc : c ≠ '\\' := by
      intro hc
      cases cs with
      | nil => exact hlast hc rfl
      | cons d ds => exact hescape d ds hc rfl
    rw [List.cons_append, splitAtDelimiter_cons hc, if_neg hne, ih hs]
    rfl

/-- **Whether the text of a regular expression leaves no slash open**: whatever
follows its closing slash, it ends there. -/
def Closed (body : List Char) : Prop :=
  ∀ after, splitAtDelimiter '/' (body ++ '/' :: after) = some (body, after)

theorem closed_of_splitAtDelimiter {cs body after : List Char}
    (h : splitAtDelimiter '/' cs = some (body, after)) : Closed body :=
  splitAtDelimiter_replace (by decide) h

/-- Digits and a minus are read as zero, as a whole number or as infinite,
with a sign. -/
theorem numberValue_spec (cs : List Char) :
    ∃ bits negative, Number.DigitBits bits ∧
      numberValue cs = Number.withSign negative (.ofBits bits.toUInt64) := by
  unfold numberValue
  split
  · next digits =>
    obtain ⟨bits, hbits, hread⟩ := Number.nearest_digitBits (Number.digitsValue digits)
    exact ⟨bits, true, hbits, by rw [hread]; rfl⟩
  · obtain ⟨bits, hbits, hread⟩ := Number.nearest_digitBits (Number.digitsValue cs)
    exact ⟨bits, false, hbits, by rw [hread]; rfl⟩

end Lexer

/-- Whether a kind is told by its symbol alone. -/
def TokenKind.isMark : TokenKind → Bool
  | .operator _ | .leftParen | .rightParen | .leftBracket | .rightBracket | .comma => true
  | _ => false

namespace Content

open Lexer

/-- What may stand behind the first character of a name: what the lowercase of
a word has there, or the dot that the dotted capital leaves behind. -/
def InsideName (c : Char) : Prop := c = '\u0307' ∨ inName c = true ∧ Text.IsSmall c

/-- Whether a name is none of the named literals. -/
def IsFree (name : String) : Prop := name ≠ "true" ∧ name ≠ "false" ∧ name ≠ "null"

/-- **What can be cut from a text.** -/
inductive Lexed : Content → Prop where
  | null : Lexed (.nullWord, .null)
  | boolean (b : Bool) : Lexed ((Literal.boolean b).kind, .boolean b)
  | number {bits : Nat} (h : Number.DigitBits bits) (negative : Bool) :
    Lexed (.number, .number (Number.withSign negative (.ofBits bits.toUInt64)))
  | string (s : String) : Lexed (.string, .string s)
  | regex {body : List Char} (h : Closed body) : Lexed (.regex, .regex (.ofList body))
  | name {first : Char} {rest : List Char} (hstart : startsName first = true)
    (hfirst : Text.IsSmall first) (hrest : ∀ c ∈ rest, InsideName c)
    (hfree : IsFree (.ofList (first :: rest))) :
    Lexed (.identifier, .string (.ofList (first :: rest)))
  | mark {k : TokenKind} (h : k.isMark = true) : Lexed (k, .null)

/-- The lowercase of a word is a name, or one of the named literals. -/
theorem lexed_wordToken {first : Char} {rest : List Char} (hfirst : startsName first = true)
    (hrest : ∀ c ∈ rest, inName c = true) : Lexed (wordToken (first :: rest)) := by
  obtain ⟨small, dots, hlower, hsmall, hkind, hdots⟩ := Text.lowercaseAfter_cons [] first rest
  have hword : Text.lowercase (.ofList (first :: rest))
      = .ofList (small :: (dots ++ Text.lowercaseAfter [first] rest)) := by
    rw [Text.lowercase, String.toList_ofList, hlower]
  unfold wordToken
  rw [hword]
  split
  · exact .boolean true
  · exact .boolean false
  · exact .null
  · next htrue hfalse hnull =>
    refine .name ?_ hsmall ?_ ⟨htrue, hfalse, hnull⟩
    · rcases hkind with hletter | rfl
      · rw [startsName, hletter]
        rfl
      · exact hfirst
    · intro c hc
      rcases List.mem_append.mp hc with hdot | hc
      · exact .inl (hdots c hdot)
      · rcases Text.mem_lowercaseAfter hc with hdot | ⟨hsmall, hletter | hmem⟩
        · exact .inl hdot
        · exact .inr ⟨by rw [inName, startsName, hletter]; rfl, hsmall⟩
        · exact .inr ⟨hrest c hmem, hsmall⟩

theorem isMark_of_mem_punctuation : ∀ entry ∈ punctuation, entry.2.isMark = true := by
  decide

/-- **What a cut makes of a text can be cut from one**, and it is a regular
expression only where a value follows. -/
theorem lexed_of_cut {v : Bool} {first : Char} {rest : List Char} {c : Content}
    (h : (cut v first rest).outcome = .ok c) : Lexed c ∧ (c.1 = .regex → v = true) := by
  have hquoted : ∀ close fault token, (cutDelimited close rest fault token).outcome = .ok c →
      ∃ body after, splitAtDelimiter close rest = some (body, after) ∧ c = token body := by
    intro close fault token h
    unfold cutDelimited at h
    split at h
    · next body after hsplit => exact ⟨body, after, hsplit, (Except.ok.inj h).symm⟩
    · cases h
  unfold cut at h
  split at h
  -- in the order of the cuts: strings, regular expressions, numbers, words, symbols
  · obtain ⟨body, -, -, rfl⟩ := hquoted _ _ _ h
    exact ⟨.string _, fun hregex => by cases hregex⟩
  split at h
  · next hslash =>
    obtain ⟨body, after, hsplit, rfl⟩ := hquoted _ _ _ h
    exact ⟨.regex (closed_of_splitAtDelimiter hsplit), fun _ => hslash.2⟩
  split at h
  · cases h
    obtain ⟨bits, negative, hbits, hvalue⟩ :=
      numberValue_spec (first :: rest.takeWhile Number.isDigit)
    exact ⟨hvalue ▸ .number hbits negative, fun hregex => by cases hregex⟩
  split at h
  · next hstart =>
    cases h
    have hinside : ∀ c ∈ rest.takeWhile inName, inName c = true :=
      fun c hc => List.all_eq_true.mp List.all_takeWhile c hc
    refine ⟨lexed_wordToken hstart hinside, fun hregex => ?_⟩
    unfold wordToken at hregex
    split at hregex <;> cases hregex
  · unfold cutPunctuation at h
    split at h
    · next symbol kind hfind =>
      cases h
      have hmark : kind.isMark = true :=
        isMark_of_mem_punctuation _ (List.mem_of_find?_eq_some hfind)
      exact ⟨.mark hmark, fun (hregex : kind = .regex) => by rw [hregex] at hmark; cases hmark⟩
    · cases h

/-- What can be cut from a text is no end. -/
theorem Lexed.kind_ne_eof {c : Content} (h : Lexed c) : c.1 ≠ .eof := by
  cases h with
  | boolean b => cases b <;> rintro ⟨⟩
  | mark hmark =>
    rintro rfl
    cases hmark
  | _ => rintro ⟨⟩

/-- **The value of a token that was cut from a text fits its kind.** -/
theorem Lexed.fits {t : Token} (h : Lexed t.content) : t.Fits := by
  obtain ⟨kind, lexeme, value, span⟩ := t
  generalize hc : Token.content ⟨kind, lexeme, value, span⟩ = c at h
  unfold Token.Fits
  cases h with
  | boolean b => cases hc; cases b <;> rfl
  | name => cases hc; exact ⟨_, rfl⟩
  | mark hmark =>
    cases hc
    cases kind <;> first | rfl | cases hmark
  | _ => cases hc; rfl

end Content

/-! ## One token after another -/

/-- Whether a regular expression stands only where a value follows. -/
def TokenKind.OpenedIfRegex (before : Option TokenKind) (k : TokenKind) : Prop :=
  k = .regex → before.all TokenKind.opensValue = true

namespace Lexer

/-- At the end a lexer gives an end token. -/
theorem next_of_nil {l : Lexer} (h : l.rest.dropWhile isGap = []) :
    ∃ stop, l.next.1 = .ok stop ∧ stop.kind = .eof := by
  unfold next
  dsimp only
  rw [show l.skipGaps.rest = [] from h]
  exact ⟨_, rfl, rfl⟩

/-- **A lexer gives what is cut from its text past the blanks**, and goes on
with what is left. -/
theorem next_eq {l : Lexer} {first : Char} {rest : List Char}
    (h : l.rest.dropWhile isGap = first :: rest) {c : Content}
    (hc : (cut l.valueFollows first rest).outcome = .ok c) :
    l.next =
      let start := l.position.after (l.rest.takeWhile isGap)
      let taken := cut l.valueFollows first rest
      (.ok ⟨c.1, .ofList taken.lexeme, c.2, ⟨start, start.after taken.lexeme⟩⟩,
        ⟨taken.rest, start.after taken.lexeme, some c.1⟩) := by
  have hc' : (cut l.skipGaps.valueFollows first rest).outcome = .ok c := hc
  unfold next
  dsimp only
  rw [show l.skipGaps.rest = first :: rest from h]
  dsimp only
  rw [hc']
  rfl

/-- What a lexer gives and keeps, but for the places. -/
theorem next_of_cut {l : Lexer} {first : Char} {rest : List Char}
    (h : l.rest.dropWhile isGap = first :: rest) {c : Content}
    (hc : (cut l.valueFollows first rest).outcome = .ok c) :
    ∃ t, l.next.1 = .ok t ∧ t.content = c ∧
      l.next.2.rest = (cut l.valueFollows first rest).rest ∧ l.next.2.previous = some c.1 := by
  rw [next_eq h hc]
  exact ⟨_, rfl, rfl, rfl, rfl⟩

/-- **What a lexer gives is cut from its text.** -/
theorem of_next {l : Lexer} {t : Token} (h : l.next.1 = .ok t) (hk : t.kind ≠ .eof) :
    ∃ first rest, l.rest.dropWhile isGap = first :: rest ∧
      (cut l.valueFollows first rest).outcome = .ok t.content ∧
      l.next.2.previous = some t.kind := by
  cases hrest : l.rest.dropWhile isGap with
  | nil =>
    obtain ⟨stop, hstop, hstopk⟩ := next_of_nil hrest
    rw [h] at hstop
    cases hstop
    exact absurd hstopk hk
  | cons first rest =>
    refine ⟨first, rest, rfl, ?_⟩
    cases hc : (cut l.valueFollows first rest).outcome with
    | ok c =>
      obtain ⟨t', ht', hcontent, -, hprev⟩ := next_of_cut hrest hc
      rw [h] at ht'
      cases ht'
      subst hcontent
      exact ⟨rfl, hprev⟩
    | error fault =>
      have hc' : (cut l.skipGaps.valueFollows first rest).outcome = .error fault := hc
      unfold next at h
      dsimp only at h
      rw [show l.skipGaps.rest = first :: rest from hrest] at h
      dsimp only at h
      rw [hc'] at h
      cases h

/-- **The tokens of a text can be cut from one**, and its regular expressions
stand where values follow. -/
theorem lexed_of_yields {l m : Lexer} {ts : List Token} (h : Yields l ts m) :
    (∀ t ∈ ts, Content.Lexed t.content) ∧
      TokenKind.Run TokenKind.OpenedIfRegex l.previous (ts.map Token.kind) := by
  induction h with
  | refl l => exact ⟨List.forall_mem_nil _, trivial⟩
  | @step l m t ts h hk _ ih =>
    obtain ⟨first, rest, -, hcut, hprev⟩ := of_next h hk
    obtain ⟨hlexed, hregex⟩ := Content.lexed_of_cut hcut
    obtain ⟨hothers, hrun⟩ := ih
    rw [hprev] at hrun
    exact ⟨List.forall_mem_cons.mpr ⟨hlexed, hothers⟩, hregex, hrun⟩

end Lexer

end CardQuery
