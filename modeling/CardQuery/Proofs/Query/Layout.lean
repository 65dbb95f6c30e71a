import CardQuery.Proofs.Query.Positions

/-!
# Layout does not matter

How the tokens of a query are set out is the writer's business. Written again
in the same order, with any blanks between them, they are the tokens that they
were, lexemes included (`tokenize_laidOut`). Only their places change.

A cut stops where it does on account of what follows: a name before what stands
in no name, an operator before what would make it a longer one, a minus before
what is no digit. All of these readers stop at a blank too, so a lexeme that was
cut once is cut in front of a blank (`Lexer.cut_before_blank`), whatever stood
behind it at first. The one thing that a lexer remembers is the kind of the last
token, and that is the same in both texts.

Between two tokens there has to be a blank at least. Without one the end of the
first might be taken for a part of the second, as in `! =`.
-/

namespace CardQuery

/-- **What a token says**: all of it but its place. -/
def Token.wording (t : Token) : TokenKind × String × Literal := (t.kind, t.lexeme, t.value)

/-- **Some tokens laid out with gaps**: the first gap stands in front of the
first token, and every other one behind a token. -/
def laidOut (gaps : Nat → String) : List Token → String
  | [] => gaps 0
  | t :: ts => gaps 0 ++ t.lexeme ++ laidOut (fun i => gaps (i + 1)) ts

namespace Lexer

/-! ## In front of a blank -/

/-- Whether a text is empty or starts with a blank. -/
def StartsBlank (after : List Char) : Prop := ∀ c ∈ after.head?, isGap c = true

theorem isDigit_of_isGap {c : Char} (h : isGap c = true) : Number.isDigit c = false := by
  rcases eq_or_of_isGap h with rfl | rfl | rfl | rfl <;> decide

theorem inName_of_isGap {c : Char} (h : isGap c = true) : inName c = false := by
  rcases eq_or_of_isGap h with rfl | rfl | rfl | rfl <;> decide

/-- No operator or bracket holds a blank. -/
theorem isGap_of_mem_punctuation {entry : List Char × TokenKind} (h : entry ∈ punctuation) :
    ∀ c ∈ entry.1, isGap c = false := by
  have htable : punctuation.all (fun entry => entry.1.all fun c => !isGap c) = true := by decide
  intro c hc
  have hvisible := List.all_eq_true.mp (List.all_eq_true.mp htable entry h) c hc
  rwa [Bool.not_eq_true'] at hvisible

variable {v : Bool} {first : Char} {lexeme after : List Char} {c : Content}

/-- A symbol that starts some text in front of a blank starts that text without
what follows. -/
theorem prefix_of_prefix_append {symbol cs : List Char} (hsymbol : ∀ c ∈ symbol, isGap c = false)
    (hafter : StartsBlank after) (h : symbol <+: cs ++ after) : symbol <+: cs := by
  rcases List.prefix_or_prefix_of_prefix h (List.prefix_append cs after) with hle | ⟨more, rfl⟩
  · exact hle
  cases more with
  | nil => exact (List.append_nil cs).symm ▸ List.prefix_rfl
  | cons d more =>
    -- otherwise the symbol holds the blank
    obtain ⟨rest, rfl⟩ := (List.prefix_append_right_inj cs).mp h
    have hblank : isGap d = true := hafter d rfl
    have hin : d ∈ cs ++ d :: more := List.mem_append_right cs List.mem_cons_self
    exact Bool.noConfusion ((hsymbol d hin).symm.trans hblank)

theorem cutPunctuation_before_blank (hafter : StartsBlank after)
    (h : cutPunctuation first lexeme = ⟨first :: lexeme, [], .ok c⟩) :
    cutPunctuation first (lexeme ++ after) = ⟨first :: lexeme, after, .ok c⟩ := by
  have hsame : ∀ entry ∈ punctuation,
      entry.1.isPrefixOf (first :: (lexeme ++ after)) = entry.1.isPrefixOf (first :: lexeme) := by
    intro entry hentry
    rw [Bool.eq_iff_iff, List.isPrefixOf_iff_prefix, List.isPrefixOf_iff_prefix]
    constructor
    · rw [← List.cons_append]
      exact prefix_of_prefix_append (isGap_of_mem_punctuation hentry) hafter
    · exact fun hstarts => hstarts.trans (List.prefix_append (first :: lexeme) after)
  have hfind : punctuation.find? (fun entry => entry.1.isPrefixOf (first :: (lexeme ++ after)))
      = punctuation.find? (fun entry => entry.1.isPrefixOf (first :: lexeme)) :=
    List.find?_congr hsame
  unfold cutPunctuation at h ⊢
  rw [hfind]
  split at h
  · next symbol kind hsymbol =>
    obtain ⟨-, hrest, houtcome⟩ := Cut.mk.inj h
    -- the symbol is all of the lexeme
    obtain ⟨d, tail, rfl⟩ := List.exists_cons_of_ne_nil
      (ne_nil_of_mem_punctuation _ (List.mem_of_find?_eq_some hsymbol))
    have hstarts := List.isPrefixOf_iff_prefix.mp (List.find?_eq_some_iff_append.mp hsymbol).1
    obtain ⟨rfl, htail⟩ := List.cons_prefix_cons.mp hstarts
    obtain rfl : tail = lexeme := htail.eq_of_length_le (List.drop_eq_nil_iff.mp hrest)
    rw [← houtcome]
    simp
  · exact absurd (Cut.mk.inj h).2.2 (by rintro ⟨⟩)

/-- **A lexeme that is cut on its own is cut in front of a blank.** -/
theorem cut_before_blank (hafter : StartsBlank after)
    (h : cut v first lexeme = ⟨first :: lexeme, [], .ok c⟩) :
    cut v first (lexeme ++ after) = ⟨first :: lexeme, after, .ok c⟩ := by
  -- a minus in front of a blank is a minus, as it is at the end of a text
  have hhead : (lexeme ++ after).head?.any Number.isDigit = lexeme.head?.any Number.isDigit := by
    cases lexeme with
    | cons d lexeme => rfl
    | nil =>
      cases after with
      | nil => rfl
      | cons d after => exact isDigit_of_isGap (hafter d rfl)
  unfold cut at h ⊢
  rw [hhead]
  split at h
  · next hquote =>
    rw [if_pos hquote]
    refine cutDelimited_replace ?_ h
    rcases hquote with rfl | rfl <;> decide
  next hquote =>
  rw [if_neg hquote]
  split at h
  · next hslash =>
    rw [if_pos hslash]
    obtain ⟨rfl, -⟩ := hslash
    exact cutDelimited_replace (by decide) h
  next hslash =>
  rw [if_neg hslash]
  split at h
  · next hnumber =>
    rw [if_pos hnumber]
    exact cutNumber_replace h fun d hd => isDigit_of_isGap (hafter d hd)
  next hnumber =>
  rw [if_neg hnumber]
  split at h
  · next hstart =>
    rw [if_pos hstart]
    exact cutWord_replace h fun d hd => inName_of_isGap (hafter d hd)
  · next hstart =>
    rw [if_neg hstart]
    exact cutPunctuation_before_blank hafter h

/-! ## One token after another -/

/-- A token is written as the characters that a lexer takes for it. -/
theorem lexeme_of_next {l : Lexer} {t : Token} {gap : List Char}
    (htext : l.rest = gap ++ first :: (lexeme ++ after)) (hgap : ∀ c ∈ gap, isGap c = true)
    (hfirst : isGap first = false)
    (hcut : cut l.valueFollows first (lexeme ++ after) = ⟨first :: lexeme, after, .ok c⟩)
    (ht : l.next.1 = .ok t) : t.lexeme = .ofList (first :: lexeme) := by
  rw [next_of_text htext hgap hfirst hcut] at ht
  rw [← Except.ok.inj ht]

end Lexer

section Gaps

variable {gaps : Nat → String}

/-- Behind a token there is a blank, if its gap is not empty, or nothing else. -/
theorem startsBlank_laidOut (hblank : ∀ i, ∀ c ∈ (gaps i).toList, Lexer.isGap c = true)
    {ts : List Token} (hparts : ts ≠ [] → gaps 0 ≠ "") :
    Lexer.StartsBlank (laidOut gaps ts).toList := by
  cases ts with
  | nil => exact fun c hc => hblank 0 c (List.mem_of_mem_head? hc)
  | cons t ts =>
    intro c hc
    have hne : (gaps 0).toList ≠ [] := fun hnil =>
      hparts (List.cons_ne_nil t ts) (String.toList_eq_nil_iff.mp hnil)
    obtain ⟨d, more, hgap⟩ := List.exists_cons_of_ne_nil hne
    rw [laidOut, String.toList_append, String.toList_append, hgap] at hc
    obtain rfl : d = c := Option.some.inj hc
    exact hblank 0 d (hgap ▸ List.mem_cons_self)

/-- **A lexer of some tokens that are laid out again gives them again**, if it
remembers the kind that the lexer which gave them did. -/
theorem Lexer.Yields.laidOut (hblank : ∀ i, ∀ c ∈ (gaps i).toList, isGap c = true) {l m : Lexer}
    {ts : List Token} (h : Yields l ts m) (hparts : ∀ i, 0 < i → i < ts.length → gaps i ≠ "")
    {l' : Lexer} (htext : l'.rest = (CardQuery.laidOut gaps ts).toList)
    (hprevious : l'.previous = l.previous) :
    ∃ ts' m', Yields l' ts' m' ∧ ts'.map Token.wording = ts.map Token.wording ∧
      m'.rest.dropWhile isGap = [] := by
  induction h generalizing gaps l' with
  | refl l =>
    refine ⟨[], l', .refl l', rfl, ?_⟩
    rw [htext, List.dropWhile_eq_nil_iff]
    exact hblank 0
  | @step l m t ts ht hk rest ih =>
    obtain ⟨gap, first, lexeme, htakes⟩ := exists_takes ht hk
    have hlexeme := lexeme_of_next htakes.text htakes.blank htakes.visible htakes.taken ht
    have hblank' : ∀ i, ∀ c ∈ (gaps (i + 1)).toList, isGap c = true := fun i => hblank (i + 1)
    have hafter : StartsBlank (CardQuery.laidOut (fun i => gaps (i + 1)) ts).toList :=
      startsBlank_laidOut hblank' fun hne =>
        hparts 1 Nat.one_pos (Nat.succ_lt_succ (List.length_pos_iff.mpr hne))
    generalize hlater : CardQuery.laidOut (fun i => gaps (i + 1)) ts = later at hafter
    rw [CardQuery.laidOut, hlater, hlexeme, String.toList_append, String.toList_append,
      String.toList_ofList, List.append_assoc, List.cons_append] at htext
    -- the lexeme is cut on its own, and so in front of its new gap
    have hcut : cut l'.valueFollows first (lexeme ++ later.toList)
        = ⟨first :: lexeme, later.toList, .ok t.content⟩ := by
      refine cut_before_blank hafter ?_
      have halone : cut l.valueFollows first (lexeme ++ [])
          = ⟨first :: lexeme, [], .ok t.content⟩ := cut_truncate htakes.taken
      rwa [List.append_nil, valueFollows, ← hprevious] at halone
    obtain ⟨t', ht', hcontent, hrest', hprevious'⟩ :=
      next_of_takes htext (hblank 0) htakes.visible hcut
    have hlexeme' := lexeme_of_next htext (hblank 0) htakes.visible hcut ht'
    have hkind : t'.kind = t.kind := congrArg Prod.fst hcontent
    have hvalue : t'.value = t.value := congrArg Prod.snd hcontent
    obtain ⟨ts', m', hyields, hwording, hm'⟩ := ih hblank'
      (fun i hi hlt => hparts (i + 1) (Nat.succ_pos i) (Nat.succ_lt_succ hlt))
      (by rw [hrest', hlater]) (by rw [hprevious', htakes.previous]; rfl)
    refine ⟨t' :: ts', m', .step ht' (hkind ▸ hk) hyields, ?_, hm'⟩
    rw [List.map_cons, List.map_cons, hwording, Token.wording, Token.wording, hkind, hvalue,
      hlexeme', hlexeme]

/-- **Tokens do not depend on layout.** Whatever text some tokens come from, their
lexemes laid out with any gaps of blanks, of which only those between two tokens
must not be empty, are cut into tokens of the same kinds, lexemes and values, in
the same order. -/
theorem tokenize_laidOut {source : String} {ts : List Token} {stop : Token}
    (htokens : tokenize source = .ok (ts ++ [stop]))
    (hblank : ∀ i, ∀ c ∈ (gaps i).toList, c = ' ' ∨ c = '\t' ∨ c = '\r' ∨ c = '\n')
    (hparts : ∀ i, 0 < i → i < ts.length → gaps i ≠ "") :
    ∃ ts' place, tokenize (laidOut gaps ts) = .ok (ts' ++ [.eofAt place]) ∧
      ts'.map Token.wording = ts.map Token.wording := by
  have hgap : ∀ i, ∀ c ∈ (gaps i).toList, Lexer.isGap c = true := by
    intro i c hc
    rcases hblank i c hc with rfl | rfl | rfl | rfl <;> rfl
  obtain ⟨us, m, last, hgiven, hyields, -, -⟩ := (Lexer.tokens_eq_ok_iff _ _).mp htokens
  obtain ⟨rfl, -⟩ := List.append_inj' hgiven rfl
  have hsame : (Lexer.ofQuery (laidOut gaps ts)).rest = (laidOut gaps ts).toList := rfl
  obtain ⟨ts', m', hyields', hwording, hrest⟩ := hyields.laidOut hgap hparts hsame rfl
  have hstop := Lexer.next_eq_stop hrest
  exact ⟨ts', _, (Lexer.tokens_eq_ok_iff _ _).mpr ⟨ts', m', _, rfl, hyields', by rw [hstop], rfl⟩,
    hwording⟩

end Gaps

/-- A string, an operator and a regular expression without gaps, and with gaps of
which the blank in the expression is none. -/
theorem tokenize_laidOut_regex :
    let gaps : Nat → String := fun i => [" ", "\n", "\t "].getD i ""
    let ts : List Token := [
      ⟨.string, "'='", .string "=", ⟨⟨0, 1, 1⟩, ⟨3, 1, 4⟩⟩⟩,
      ⟨.operator (.equality .loose true), "!=", .null, ⟨⟨3, 1, 4⟩, ⟨5, 1, 6⟩⟩⟩,
      ⟨.regex, "/ /", .regex " ", ⟨⟨5, 1, 6⟩, ⟨8, 1, 9⟩⟩⟩]
    tokenize "'='!=/ /" = .ok (ts ++ [.eofAt ⟨8, 1, 9⟩]) ∧
      laidOut gaps ts = " '='\n!=\t / /" ∧
      ∃ ts' place, tokenize " '='\n!=\t / /" = .ok (ts' ++ [.eofAt place]) ∧
        ts'.map Token.wording = ts.map Token.wording := by
  intro gaps ts
  have htokens : tokenize "'='!=/ /" = .ok (ts ++ [.eofAt ⟨8, 1, 9⟩]) := by cbv
  have htext : laidOut gaps ts = " '='\n!=\t / /" := by decide
  refine ⟨htokens, htext, ?_⟩
  rw [← htext]
  refine tokenize_laidOut htokens (fun i c hc => ?_) fun i hpos hlt => ?_
  · obtain _ | _ | _ | i := i
    · exact .inl (by simpa [gaps] using hc)
    · exact .inr (.inr (.inr (by simpa [gaps] using hc)))
    · have htab : c = '\t' ∨ c = ' ' := by simpa [gaps] using hc
      exact htab.elim (fun h => .inr (.inl h)) .inl
    · cases hc
  · obtain _ | _ | _ | i := i
    · cases hpos
    · decide
    · decide
    · exact absurd (show i + 3 < 3 from hlt) (by omega)

end CardQuery
