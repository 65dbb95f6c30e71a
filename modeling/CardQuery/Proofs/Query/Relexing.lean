import CardQuery.Proofs.Query.Lexing

/-!
# Written tokens are cut as they were

What can be cut from a text and is written down again is cut as the same
token, kind and value, if what follows does not run into it
(`Content.Lexed.cutBack`). Two tokens are left out, because they are not written as
tokens of their kind: an infinite number, whose text is a word, and a name
with the dot of the dotted capital, which stands in no name. These two are
cut as something else (`Content.Lexed.cutOtherwise`).

So the lexer of the text of some tokens gives the same tokens up to the first
one that is left out, and not that one (`Lexer.yields_text`,
`Lexer.clean_of_yields`).
-/

namespace CardQuery

open Lexer

/-- **Whether a text is separate** from a word or a number in front of it. -/
def Lexer.Separate (after : List Char) : Prop := ∀ c ∈ after.head?, inName c = false

namespace Content

/-- **Whether a token is written as one of its kind**: not an infinite number,
and not a name that holds the dot. -/
def Clean : Content → Prop
  | (_, .number x) => x.isFinite = true
  | (.identifier, .string name) => '\u0307' ∉ name.toList
  | _ => True

/-- **Whether a written token is cut as it was**, in front of some text. -/
def CutBack (v : Bool) (c : Content) (after : List Char) : Prop :=
  ∃ first tail, c.mark = first :: tail ∧ isGap first = false ∧
    (cut v first (tail ++ after)).outcome = .ok c ∧ (cut v first (tail ++ after)).rest = after

/-! ## Symbols -/

/-- An operator is cut at the blank behind it. A division is one only where
no value follows. -/
theorem cutBack_operator (op : Operator) (v : Bool) (hv : op = .arithmetic .divide → v = false)
    (after : List Char) : CutBack v (.operator op, .null) (' ' :: after) := by
  cases op with
  | equality mode negated => cases mode <;> cases negated <;> exact ⟨_, _, rfl, rfl, rfl, rfl⟩
  | membership mode negated => cases mode <;> cases negated <;> exact ⟨_, _, rfl, rfl, rfl, rfl⟩
  | relation r => cases r <;> exact ⟨_, _, rfl, rfl, rfl, rfl⟩
  | arithmetic a =>
    cases a with
    | divide =>
      obtain rfl := hv rfl
      exact ⟨_, _, rfl, rfl, rfl, rfl⟩
    | _ => exact ⟨_, _, rfl, rfl, rfl, rfl⟩
  | _ => exact ⟨_, _, rfl, rfl, rfl, rfl⟩

/-- A bracket or a comma is cut whatever follows. -/
theorem cutBack_mark {k : TokenKind} (hmark : k.isMark = true) (hop : ∀ op, k ≠ .operator op)
    (v : Bool) (after : List Char) : CutBack v (k, .null) after := by
  cases k with
  | operator op => exact absurd rfl (hop op)
  | leftParen => exact ⟨_, _, rfl, rfl, rfl, rfl⟩
  | rightParen => exact ⟨_, _, rfl, rfl, rfl, rfl⟩
  | leftBracket => exact ⟨_, _, rfl, rfl, rfl, rfl⟩
  | rightBracket => exact ⟨_, _, rfl, rfl, rfl, rfl⟩
  | comma => exact ⟨_, _, rfl, rfl, rfl, rfl⟩
  | _ => cases hmark

/-! ## Words -/

/-- A run of characters ends where the text behind it is no part of it. -/
theorem takeWhile_append_separate {p : Char → Bool} {cs after : List Char}
    (h : ∀ c ∈ cs, p c = true) (hafter : ∀ c ∈ after.head?, p c = false) :
    (cs ++ after).takeWhile p = cs ∧ (cs ++ after).dropWhile p = after := by
  rw [List.takeWhile_append_of_pos h, List.dropWhile_append_of_pos h]
  cases after with
  | nil => exact ⟨List.append_nil cs, rfl⟩
  | cons c after =>
    have hc : ¬ p c = true := Bool.eq_false_iff.mp (hafter c rfl)
    rw [List.takeWhile_cons_of_neg hc, List.dropWhile_cons_of_neg hc]
    exact ⟨List.append_nil cs, rfl⟩

/-- What starts a name starts a word. -/
theorem cut_of_startsName {first : Char} (h : startsName first = true) (v : Bool)
    (rest : List Char) : cut v first rest = cutWord first rest := by
  have hother : ∀ d : Char, d.toNat < 0x41 → first ≠ d := fun d hd =>
    ne_of_toNat_lt (Nat.lt_of_lt_of_le hd (le_toNat_of_startsName h))
  have hquote : first ≠ '"' := hother _ (by decide)
  have hapostrophe : first ≠ '\'' := hother _ (by decide)
  have hslash : first ≠ '/' := hother _ (by decide)
  have hminus : first ≠ '-' := hother _ (by decide)
  have hdigit : ¬ Number.isDigit first = true := Bool.eq_false_iff.mp (isDigit_of_startsName h)
  unfold cut
  rw [if_neg fun hor => hor.elim hquote hapostrophe, if_neg fun hand => hslash hand.1,
    if_neg fun hor => hor.elim hdigit fun hand => hminus hand.1, if_pos h]

/-- **A word is cut as its token**, if it ends where it was written to
end. -/
theorem cutBack_word {c : Content} {first : Char} {rest : List Char}
    (hmark : c.mark = first :: rest) (hfirst : startsName first = true)
    (hrest : ∀ d ∈ rest, inName d = true) (htoken : wordToken (first :: rest) = c) (v : Bool)
    {after : List Char} (hafter : Separate after) : CutBack v c after := by
  obtain ⟨htake, hdrop⟩ := takeWhile_append_separate hrest hafter
  have hgap : isGap first = false :=
    isGap_of_lt (Nat.lt_of_lt_of_le (by decide) (le_toNat_of_startsName hfirst))
  refine ⟨first, rest, hmark, hgap, ?_, ?_⟩
  · rw [cut_of_startsName hfirst]
    show Except.ok (wordToken (first :: (rest ++ after).takeWhile inName)) = _
    rw [htake, htoken]
  · rw [cut_of_startsName hfirst]
    exact hdrop

/-- A word of small letters that is no named literal is its own name. -/
theorem wordToken_of_isSmall {word : List Char} (h : ∀ c ∈ word, Text.IsSmall c)
    (hfree : IsFree (.ofList word)) : wordToken word = (.identifier, .string (.ofList word)) := by
  obtain ⟨htrue, hfalse, hnull⟩ := hfree
  unfold wordToken
  rw [Text.lowercase_eq_self h]
  split
  · next heq => exact absurd heq htrue
  · next heq => exact absurd heq hfalse
  · next heq => exact absurd heq hnull
  · rfl

theorem wordToken_null : wordToken ['n', 'u', 'l', 'l'] = (.nullWord, .null) := by
  rfl

theorem wordToken_false : wordToken ['f', 'a', 'l', 's', 'e'] = (.falseWord, .boolean false) := by
  rfl

theorem wordToken_true : wordToken ['t', 'r', 'u', 'e'] = (.trueWord, .boolean true) := by
  rfl

/-! ## Numbers -/

theorem le_toNat_of_isDigit {c : Char} (h : Number.isDigit c = true) : 0x30 ≤ c.toNat := by
  have hle : '0' ≤ c := of_decide_eq_true ((Bool.and_eq_true _ _).mp h).1
  exact hle

theorem inName_of_isDigit {c : Char} (h : Number.isDigit c = true) : inName c = true := by
  rw [inName, h, Bool.or_true]
  rfl

/-- Digits start a number, and so does a minus in front of them. -/
theorem cut_of_isDigit {first : Char} {rest : List Char}
    (h : Number.isDigit first = true ∨ first = '-' ∧ rest.head?.any Number.isDigit = true)
    (v : Bool) : cut v first rest = cutNumber first rest := by
  have hother : ∀ d : Char, d.toNat < 0x30 → d ≠ '-' → first ≠ d := by
    intro d hd hminus
    rcases h with hdigit | ⟨rfl, -⟩
    · exact ne_of_toNat_lt (Nat.lt_of_lt_of_le hd (le_toNat_of_isDigit hdigit))
    · exact hminus.symm
  have hquote : first ≠ '"' := hother _ (by decide) (by decide)
  have hapostrophe : first ≠ '\'' := hother _ (by decide) (by decide)
  have hslash : first ≠ '/' := hother _ (by decide) (by decide)
  unfold cut
  rw [if_neg fun hor => hor.elim hquote hapostrophe, if_neg fun hand => hslash hand.1, if_pos h]

/-- **A finite number is cut as it was**, with its sign. -/
theorem cutBack_number {bits : Nat} (h : Number.DigitBits bits) (hfin : bits ≠ Number.infinityBits)
    (negative v : Bool) {after : List Char} (hafter : Separate after) :
    CutBack v (.number, .number (Number.withSign negative (.ofBits bits.toUInt64))) after := by
  obtain ⟨hne, hdigits, hread⟩ := Number.plainDigits_spec h negative hfin
  have hmark : Content.mark (.number, .number (Number.withSign negative (.ofBits bits.toUInt64)))
      = _ := Number.toList_plainText h negative hfin
  generalize Number.plainDigits (Number.withSign negative (.ofBits bits.toUInt64)) = digits
    at hne hdigits hread hmark
  -- what is separate from a word is so from its digits
  have hend : ∀ c ∈ after.head?, Number.isDigit c = false := by
    intro c hc
    refine Bool.eq_false_iff.mpr fun hdigit => ?_
    exact Bool.noConfusion ((hafter c hc).symm.trans (inName_of_isDigit hdigit))
  obtain ⟨d, ds, rfl⟩ := List.exists_cons_of_ne_nil hne
  obtain ⟨hd, hds⟩ := List.forall_mem_cons.mp hdigits
  have hlow := le_toNat_of_isDigit hd
  cases negative with
  | false =>
    obtain ⟨htake, hdrop⟩ := takeWhile_append_separate hds hend
    refine ⟨d, ds, hmark, isGap_of_lt (by omega), ?_, ?_⟩
    · rw [cut_of_isDigit (.inl hd)]
      show Except.ok (TokenKind.number, Literal.number
        (numberValue (d :: (ds ++ after).takeWhile Number.isDigit))) = _
      rw [htake, numberValue, hread]
      · rfl
      · have hminus : d ≠ '-' := ne_of_toNat_lt (Nat.lt_of_lt_of_le (by decide) hlow)
        exact fun _ heq => hminus (List.cons.inj heq).1
    · rw [cut_of_isDigit (.inl hd)]
      exact hdrop
  | true =>
    obtain ⟨htake, hdrop⟩ := takeWhile_append_separate hdigits hend
    have hhead : (d :: ds ++ after).head?.any Number.isDigit = true := hd
    refine ⟨'-', d :: ds, hmark, rfl, ?_, ?_⟩
    · rw [cut_of_isDigit (.inr ⟨rfl, hhead⟩)]
      show Except.ok (TokenKind.number, Literal.number
        (numberValue ('-' :: (d :: ds ++ after).takeWhile Number.isDigit))) = _
      rw [htake, numberValue, hread]
      rfl
    · rw [cut_of_isDigit (.inr ⟨rfl, hhead⟩)]
      exact hdrop

/-! ## Strings and regular expressions -/

/-- An escaped character is no end of a string. -/
theorem splitAtDelimiter_escape (c : Char) (cs : List Char) :
    splitAtDelimiter '"' (Literal.escape c ++ cs)
      = (splitAtDelimiter '"' cs).map fun (body, after) => (Literal.escape c ++ body, after) := by
  unfold Literal.escape
  split
  · rfl
  · rfl
  · rfl
  · rfl
  · rfl
  · next hquote hbackslash _ _ _ =>
    exact (splitAtDelimiter_cons hbackslash '"' cs).trans (if_neg hquote)

theorem unescape_escape (c : Char) (cs : List Char) :
    unescape (Literal.escape c ++ cs) = c :: unescape cs := by
  unfold Literal.escape
  split
  · rfl
  · rfl
  · rfl
  · rfl
  · rfl
  · next hquote hbackslash _ _ _ =>
    show unescape (c :: cs) = c :: unescape cs
    rw [unescape]
    exact fun _ _ h _ => hbackslash h

/-- **What is written between quotation marks is read back.** -/
theorem splitAtDelimiter_escaped (cs after : List Char) :
    splitAtDelimiter '"' (cs.flatMap Literal.escape ++ '"' :: after)
      = some (cs.flatMap Literal.escape, after) := by
  induction cs with
  | nil => rfl
  | cons c cs ih =>
    rw [List.flatMap_cons, List.append_assoc, splitAtDelimiter_escape, ih]
    rfl

theorem unescape_escaped (cs : List Char) : unescape (cs.flatMap Literal.escape) = cs := by
  induction cs with
  | nil => rfl
  | cons c cs ih => rw [List.flatMap_cons, unescape_escape, ih]

/-- A string is cut as it was, whatever follows. -/
theorem cutBack_string (s : String) (v : Bool) (after : List Char) :
    CutBack v (.string, .string s) after := by
  have hmark : Content.mark (.string, .string s)
      = '"' :: (s.toList.flatMap Literal.escape ++ ['"']) := String.toList_ofList
  have hsplit : splitAtDelimiter '"' (s.toList.flatMap Literal.escape ++ ['"'] ++ after)
      = some (s.toList.flatMap Literal.escape, after) := by
    rw [List.append_assoc]
    exact splitAtDelimiter_escaped s.toList after
  refine ⟨_, _, hmark, rfl, ?_, ?_⟩
  · show (cutDelimited '"' _ _ _).outcome = _
    rw [cutDelimited, hsplit]
    show Except.ok (stringToken _) = _
    rw [stringToken, unescape_escaped, String.ofList_toList]
  · show (cutDelimited '"' _ _ _).rest = _
    rw [cutDelimited, hsplit]

/-- A regular expression is cut as it was where a value follows. -/
theorem cutBack_regex {body : List Char} (h : Closed body) (after : List Char) :
    CutBack true (.regex, .regex (.ofList body)) after := by
  have hmark : Content.mark (.regex, .regex (.ofList body)) = '/' :: (body ++ ['/']) := by
    show ("/" ++ String.ofList body ++ "/").toList = _
    simp only [String.toList_append, String.toList_ofList]
    rfl
  have hsplit : splitAtDelimiter '/' (body ++ ['/'] ++ after) = some (body, after) := by
    rw [List.append_assoc]
    exact h after
  refine ⟨_, _, hmark, rfl, ?_, ?_⟩
  · show (cutDelimited '/' _ _ _).outcome = _
    rw [cutDelimited, hsplit]
    rfl
  · show (cutDelimited '/' _ _ _).rest = _
    rw [cutDelimited, hsplit]

/-! ## Any token -/

/-- **A clean token is cut as it was**, where a value follows or not as it was
cut, and in front of what may follow it. -/
theorem Lexed.cutBack {c : Content} (h : Lexed c) (hclean : c.Clean) {v : Bool}
    (hregex : c.1 = .regex → v = true) (hop : ∀ op, c.1 = .operator op → v = false)
    {after : List Char} (hafter : c.1.endsOperand = true → Separate after) :
    CutBack v c (c.gap ++ after) := by
  cases h with
  | null =>
    have hrest : ['u', 'l', 'l'].all inName = true := by decide
    exact cutBack_word rfl (by decide) (List.all_eq_true.mp hrest) wordToken_null v (hafter rfl)
  | boolean b =>
    cases b with
    | false =>
      have hrest : ['a', 'l', 's', 'e'].all inName = true := by decide
      exact cutBack_word rfl (by decide) (List.all_eq_true.mp hrest) wordToken_false v (hafter rfl)
    | true =>
      have hrest : ['r', 'u', 'e'].all inName = true := by decide
      exact cutBack_word rfl (by decide) (List.all_eq_true.mp hrest) wordToken_true v (hafter rfl)
  | @number bits hbits negative =>
    have hfin : bits ≠ Number.infinityBits := by
      rw [Clean, Number.isFinite_withSign hbits, decide_eq_true_eq] at hclean
      exact hclean
    exact cutBack_number hbits hfin negative v (hafter rfl)
  | string s => exact cutBack_string s v after
  | regex hclosed =>
    obtain rfl := hregex rfl
    exact cutBack_regex hclosed after
  | @name first rest hstart hfirst hrest hfree =>
    -- a clean name has no dot, so all of it is small and in one word
    have hinside : ∀ c ∈ rest, inName c = true ∧ Text.IsSmall c := by
      intro c hc
      refine (hrest c hc).resolve_left fun hdot => hclean ?_
      rw [String.toList_ofList, ← hdot]
      exact List.mem_cons_of_mem first hc
    have htoken := wordToken_of_isSmall
      (List.forall_mem_cons.mpr ⟨hfirst, fun c hc => (hinside c hc).2⟩) hfree
    have hmark : Content.mark (.identifier, .string (.ofList (first :: rest))) = first :: rest :=
      String.toList_ofList
    exact cutBack_word hmark hstart (fun c hc => (hinside c hc).1) htoken v (hafter rfl)
  | @mark k hmark =>
    by_cases hk : ∃ op, k = .operator op
    · obtain ⟨op, rfl⟩ := hk
      exact cutBack_operator op v (fun _ => hop op rfl) after
    · exact cutBack_mark hmark (fun op h => hk ⟨op, h⟩) v (Content.gap (k, .null) ++ after)

/-- A run of characters ends at the first one that is no part of it. -/
theorem takeWhile_append_of_mem {p : Char → Bool} {cs : List Char} {c : Char} (hc : c ∈ cs)
    (hp : p c = false) (after : List Char) : (cs ++ after).takeWhile p = cs.takeWhile p := by
  induction cs with
  | nil => cases hc
  | cons d cs ih =>
    rw [List.cons_append, List.takeWhile_cons, List.takeWhile_cons]
    split
    · next hd =>
      rcases List.mem_cons.mp hc with rfl | hc
      · exact Bool.noConfusion (hp.symm.trans hd)
      · rw [ih hc]
    · rfl

/-- The dot stands in no word. -/
theorem inName_dot : inName '\u0307' = false := by
  decide

/-- **Whether a written token is cut as another one**, in front of any
text. -/
def CutOtherwise (c : Content) : Prop :=
  ∃ first tail, c.mark = first :: tail ∧ isGap first = false ∧
    ∀ v after, (cut v first (tail ++ after)).outcome ≠ .ok c

/-- An infinite number is written as a word, or a minus and a word. -/
theorem cutOtherwise_infinity (negative : Bool) :
    CutOtherwise (.number,
      .number (Number.withSign negative (.ofBits Number.infinityBits.toUInt64))) := by
  have hmark : Content.mark (.number,
      .number (Number.withSign negative (.ofBits Number.infinityBits.toUInt64))) = _ :=
    congrArg String.toList (Number.plainText_infinity negative)
  cases negative with
  | false =>
    refine ⟨'i', ['n', 'f'], hmark, rfl, fun v after h => ?_⟩
    rw [cut_of_startsName (by decide)] at h
    have hkind := congrArg Prod.fst (Except.ok.inj h)
    unfold wordToken at hkind
    split at hkind <;> cases hkind
  | true =>
    refine ⟨'-', ['i', 'n', 'f'], hmark, rfl, fun v after h => ?_⟩
    exact TokenKind.noConfusion (congrArg Prod.fst (Except.ok.inj h))

/-- A name with a dot is cut in front of the dot. -/
theorem cutOtherwise_dotted {first : Char} {rest : List Char} (hstart : startsName first = true)
    (hfirst : Text.IsSmall first) (hrest : ∀ c ∈ rest, InsideName c)
    (hdot : '\u0307' ∈ first :: rest) :
    CutOtherwise (.identifier, .string (.ofList (first :: rest))) := by
  have hgap : isGap first = false :=
    isGap_of_lt (Nat.lt_of_lt_of_le (by decide) (le_toNat_of_startsName hstart))
  refine ⟨first, rest, String.toList_ofList, hgap, fun v after h => ?_⟩
  rw [cut_of_startsName hstart] at h
  have hdotted : '\u0307' ∈ rest := by
    refine (List.mem_cons.mp hdot).resolve_left ?_
    rintro rfl
    exact Bool.noConfusion (inName_dot.symm.trans (inName_of_startsName hstart))
  have htoken : wordToken (first :: rest.takeWhile inName)
      = (.identifier, .string (.ofList (first :: rest))) := by
    rw [← takeWhile_append_of_mem hdotted inName_dot after]
    exact Except.ok.inj h
  -- the word ends before the dot, so it is its own name, and a shorter one
  have hword : ∀ c ∈ first :: rest.takeWhile inName, Text.IsSmall c := by
    refine List.forall_mem_cons.mpr ⟨hfirst, fun c hc => ?_⟩
    have hin : inName c = true := List.all_eq_true.mp List.all_takeWhile c hc
    refine ((hrest c ((List.takeWhile_sublist inName).mem hc)).resolve_left ?_).2
    rintro rfl
    exact Bool.noConfusion (inName_dot.symm.trans hin)
  unfold wordToken at htoken
  rw [Text.lowercase_eq_self hword] at htoken
  split at htoken
  · cases htoken
  · cases htoken
  · cases htoken
  · have hname := Literal.string.inj (congrArg Prod.snd htoken)
    have htail := (List.cons.inj (String.ofList_injective hname)).2
    rw [← htail] at hdotted
    have hin : inName '\u0307' = true := List.all_eq_true.mp List.all_takeWhile _ hdotted
    exact Bool.noConfusion (inName_dot.symm.trans hin)

/-- **A token that is not clean is cut as something else.** -/
theorem Lexed.cutOtherwise {c : Content} (h : Lexed c) (hclean : ¬ c.Clean) : CutOtherwise c := by
  cases h with
  | @number bits hbits negative =>
    rw [Clean, Number.isFinite_withSign hbits, decide_eq_true_eq] at hclean
    obtain rfl := Decidable.not_not.mp hclean
    exact cutOtherwise_infinity negative
  | name hstart hfirst hrest hfree =>
    rw [Clean, String.toList_ofList] at hclean
    exact cutOtherwise_dotted hstart hfirst hrest (Decidable.not_not.mp hclean)
  -- all others are clean
  | boolean b => cases b <;> exact absurd trivial hclean
  | _ => exact absurd trivial hclean

/-- Past the blanks, a written token starts with its first character. -/
theorem dropWhile_piece {c : Content} {first : Char} {tail : List Char}
    (hmark : c.mark = first :: tail) (hgap : isGap first = false) (after : List Char) :
    (c.piece ++ after).dropWhile isGap = first :: (tail ++ (c.gap ++ after)) := by
  have hfirst : ¬ isGap first = true := Bool.eq_false_iff.mp hgap
  have hbare : (c.mark ++ c.gap ++ after).dropWhile isGap
      = first :: (tail ++ (c.gap ++ after)) := by
    rw [hmark, List.append_assoc]
    exact List.dropWhile_cons_of_neg hfirst
  unfold piece
  split
  · rw [List.cons_append, List.dropWhile_cons_of_pos (by rfl)]
    exact hbare
  · exact hbare

/-- The blank behind a token is dropped. -/
theorem dropWhile_gap (c : Content) (after : List Char) :
    (c.gap ++ after).dropWhile isGap = after.dropWhile isGap := by
  unfold gap
  split <;> rfl

/-- What may follow an operand is separate from it. -/
theorem separate_text {k : TokenKind} (hk : k.endsOperand = true) {cs : List Content}
    (h : TokenKind.Run TokenKind.Placed (some k) (cs.map Prod.fst)) : Separate (text cs) := by
  cases cs with
  | nil => exact fun c hc => by cases hc
  | cons d cs =>
    obtain ⟨kind, value⟩ := d
    have hcontinues : kind.continues = true := h.1.1 hk
    intro c hc
    have hhead : some c = (text ((kind, value) :: cs)).head? := hc.symm
    cases kind with
    | operator op => cases hhead; rfl
    | comma => cases hhead; rfl
    | rightParen => cases hhead; rfl
    | rightBracket => cases hhead; decide
    | _ => cases hcontinues

end Content

namespace TokenKind

/-- No value follows an operand. -/
theorem opensValue_of_endsOperand {k : TokenKind} (h : k.endsOperand = true) :
    k.opensValue = false := by
  cases k <;> first | rfl | cases h

/-- No value follows where an operator stands. -/
theorem Placed.not_opensValue {before : Option TokenKind} {op : Operator}
    (h : Placed before (.operator op)) : before.all opensValue = false := by
  have hends := h.2 op rfl
  cases before with
  | none => cases hends
  | some k => exact opensValue_of_endsOperand hends

end TokenKind

namespace Lexer

open Content TokenKind

/-- **The lexer of a written token gives it back**, and goes on with what
follows. -/
theorem next_of_cutBack {l : Lexer} {c : Content} {after : List Char}
    (hrest : l.rest.dropWhile isGap = (c.piece ++ after).dropWhile isGap)
    (hcut : CutBack l.valueFollows c (c.gap ++ after)) :
    ∃ t, l.next.1 = .ok t ∧ t.content = c ∧ l.next.2.previous = some c.1 ∧
      l.next.2.rest.dropWhile isGap = after.dropWhile isGap := by
  obtain ⟨first, tail, hmark, hgap, houtcome, hafter⟩ := hcut
  rw [dropWhile_piece hmark hgap] at hrest
  obtain ⟨t, ht, hcontent, hnext, hprev⟩ := next_of_cut hrest houtcome
  refine ⟨t, ht, hcontent, hprev, ?_⟩
  rw [hnext, hafter, dropWhile_gap]

/-- A clean token that stands well in front of others is given back. -/
theorem next_of_clean {l : Lexer} {c : Content} {cs : List Content} (hlexed : Lexed c)
    (hclean : c.Clean) (hplaced : Run Placed l.previous (c.1 :: cs.map Prod.fst))
    (hregex : OpenedIfRegex l.previous c.1)
    (hrest : l.rest.dropWhile isGap = (text (c :: cs)).dropWhile isGap) :
    ∃ t, l.next.1 = .ok t ∧ t.content = c ∧ l.next.2.previous = some c.1 ∧
      l.next.2.rest.dropWhile isGap = (text cs).dropWhile isGap := by
  have hafter : c.1.endsOperand = true → Separate (text cs) := fun hk => separate_text hk hplaced.2
  refine next_of_cutBack hrest (hlexed.cutBack hclean hregex ?_ hafter)
  intro op hop
  have hfirst := hplaced.1
  rw [hop] at hfirst
  exact hfirst.not_opensValue

/-- **The lexer of clean tokens gives them back**, one after the other up to
the end. -/
theorem yields_text {l : Lexer} {cs : List Content} (hlexed : ∀ c ∈ cs, Lexed c)
    (hclean : ∀ c ∈ cs, c.Clean) (hplaced : Run Placed l.previous (cs.map Prod.fst))
    (hregex : Run OpenedIfRegex l.previous (cs.map Prod.fst))
    (hrest : l.rest.dropWhile isGap = (text cs).dropWhile isGap) :
    ∃ ts m, Yields l ts m ∧ ts.map Token.content = cs ∧ m.rest.dropWhile isGap = [] := by
  induction cs generalizing l with
  | nil => exact ⟨[], l, .refl l, rfl, hrest⟩
  | cons c cs ih =>
    obtain ⟨hfirst, hothers⟩ := List.forall_mem_cons.mp hlexed
    obtain ⟨hfirstc, hothersc⟩ := List.forall_mem_cons.mp hclean
    obtain ⟨t, ht, hcontent, hprev, hafter⟩ := next_of_clean hfirst hfirstc hplaced hregex.1 hrest
    obtain ⟨ts, m, hyields, hcontents, hend⟩ :=
      ih hothers hothersc (hprev ▸ hplaced.2) (hprev ▸ hregex.2) hafter
    have hk : t.kind ≠ .eof := by
      have hne := hfirst.kind_ne_eof
      rwa [← hcontent] at hne
    exact ⟨t :: ts, m, .step ht hk hyields, by rw [List.map_cons, hcontent, hcontents], hend⟩

/-- **If the lexer of some tokens gives them back, they are clean.** The first
that is not would be given as something else. -/
theorem clean_of_yields {l m : Lexer} {ts : List Token} (h : Yields l ts m)
    (hlexed : ∀ t ∈ ts, Lexed t.content)
    (hplaced : Run Placed l.previous (ts.map Token.kind))
    (hregex : Run OpenedIfRegex l.previous (ts.map Token.kind))
    (hrest : l.rest.dropWhile isGap = (text (ts.map Token.content)).dropWhile isGap) :
    ∀ t ∈ ts, t.content.Clean := by
  induction h with
  | refl l => exact List.forall_mem_nil _
  | @step l m t ts ht hk _ ih =>
    obtain ⟨hfirst, hothers⟩ := List.forall_mem_cons.mp hlexed
    -- it was given back, so it is not one of those that are cut as something else
    have hclean : t.content.Clean := by
      refine Classical.byContradiction fun hclean => ?_
      obtain ⟨first, tail, hmark, hgap, hne⟩ := hfirst.cutOtherwise hclean
      obtain ⟨first', rest, hfront, hcut, -⟩ := of_next ht hk
      rw [hrest, List.map_cons, text_cons, dropWhile_piece hmark hgap] at hfront
      cases hfront
      exact hne _ _ hcut
    have hkinds : ts.map Token.kind = (ts.map Token.content).map Prod.fst := by
      rw [List.map_map]
      rfl
    obtain ⟨t', ht', -, hprev, hafter⟩ :=
      next_of_clean hfirst hclean (hkinds ▸ hplaced) hregex.1 hrest
    exact List.forall_mem_cons.mpr
      ⟨hclean, ih hothers (hprev ▸ hplaced.2) (hprev ▸ hregex.2) hafter⟩

end Lexer

/-! ## The text of a tree -/

namespace Expr

open Content TokenKind

/-- **A tree whose tokens are given back** by the lexer of its text: each can
be cut from a text and is clean, and the regular expressions stand where
values follow. -/
structure Legible (e : Expr) : Prop where
  lexed : ∀ c ∈ e.contents, Lexed c
  clean : ∀ c ∈ e.contents, c.Clean
  opened : Run OpenedIfRegex none (e.contents.map Prod.fst)

/-- Without regular expressions none stands in a wrong place. -/
theorem run_openedIfRegex {ks : List TokenKind} (h : ∀ k ∈ ks, k ≠ .regex)
    (before : Option TokenKind) : Run OpenedIfRegex before ks := by
  induction ks generalizing before with
  | nil => trivial
  | cons k ks ih =>
    obtain ⟨hk, hks⟩ := List.forall_mem_cons.mp h
    exact ⟨fun hregex => absurd hregex hk, ih hks (some k)⟩

/-- **The text of a legible tree is cut into its tokens**, and the tree lies
over them with other spans. -/
theorem Legible.exists_tokens {e : Expr} (h : e.Legible) :
    ∃ ts stop, ∃ e' : Expr, tokenize e.toQuery = .ok (ts ++ [stop]) ∧ (∀ t ∈ ts, t.kind ≠ .eof) ∧
      stop.kind = .eof ∧ e'.SpelledBy ts ∧ e'.bare = e.bare := by
  have htext : (Lexer.ofQuery e.toQuery).rest = text e.contents := toList_toQuery e
  obtain ⟨ts, m, hyields, hcontents, hend⟩ :=
    Lexer.yields_text h.lexed h.clean (run_contents e) h.opened (by rw [htext])
  obtain ⟨stop, hstop, hk⟩ := Lexer.next_of_nil hend
  obtain ⟨e', hbare, hspell⟩ := e.exists_spelledBy hcontents.symm
  exact ⟨ts, stop, e', (Lexer.tokens_eq_ok_iff _ _).mpr ⟨ts, m, stop, rfl, hyields, hstop, hk⟩,
    Lexer.kind_ne_of_yields hyields, hk, hspell, hbare⟩

end Expr

end CardQuery
