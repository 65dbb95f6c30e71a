import CardQuery.Proofs.Query.Positions

/-!
# Where a text goes wrong

A text that cannot be cut into tokens goes wrong at one place, and what stands behind that place has
no part in what stands before. A call of a lexer does not look past the characters that it takes,
so the text up to the fault, on its own, gives the very tokens that came before the fault, in their
places, and then the end (`tokenize_before_fault`).

Two faults are about what comes later: a quotation mark, or a slash where a value follows, that
nothing closes. What counts as closing is said of the text alone. A delimiter is escaped if an odd
number of backslashes stands right before it (`Lexer.EscapesNext`), since of an even number each
second one is escaped itself. A lexer goes through the same text from the front, two characters at a
time where it sees a backslash, and comes to the same (`Lexer.splitAtDelimiter_eq_none_iff`).
-/

namespace CardQuery

namespace Lexer

/-! ## Delimiters that close nothing -/

/-- **Whether a text escapes what stands behind it**: an odd number of backslashes ends it. -/
def EscapesNext (body : List Char) : Prop :=
  Odd (body.reverse.takeWhile (· = '\\')).length

/-- **Whether a text holds no delimiter** but escaped ones. -/
def Unclosed (close : Char) (text : List Char) : Prop :=
  ∀ body after, text = body ++ close :: after → EscapesNext body

/-- A character in front adds to the backslashes at the end only if there is nothing else. -/
theorem length_backslashes_cons (c : Char) (body : List Char) :
    ((c :: body).reverse.takeWhile (· = '\\')).length
      = (body.reverse.takeWhile (· = '\\')).length
        + if c = '\\' ∧ ∀ d ∈ body, d = '\\' then 1 else 0 := by
  rw [List.reverse_cons]
  by_cases hbody : ∀ d ∈ body, d = '\\'
  · have hall : ∀ d ∈ body.reverse, decide (d = '\\') = true := by simpa using hbody
    rw [List.takeWhile_append_of_pos hall, List.length_append, List.takeWhile_eq_self_iff.mpr hall]
    by_cases hc : c = '\\'
    · subst hc
      rw [if_pos ⟨rfl, hbody⟩]
      rfl
    · rw [if_neg fun h => hc h.1, List.takeWhile_cons_of_neg (by simpa using hc)]
      rfl
  · rw [if_neg fun h => hbody h.2, List.takeWhile_append, if_neg, Nat.add_zero]
    intro hlength
    have hself := (List.takeWhile_prefix _).eq_of_length hlength
    exact hbody (by simpa using List.takeWhile_eq_self_iff.mp hself)

theorem escapesNext_cons {c : Char} (hc : c ≠ '\\') (body : List Char) :
    EscapesNext (c :: body) ↔ EscapesNext body := by
  rw [EscapesNext, length_backslashes_cons, if_neg fun h => hc h.1, Nat.add_zero, EscapesNext]

/-- **A backslash and what it escapes** do not count for what comes after them. -/
theorem escapesNext_pair (c : Char) (body : List Char) :
    EscapesNext ('\\' :: c :: body) ↔ EscapesNext body := by
  rw [EscapesNext, EscapesNext, length_backslashes_cons, length_backslashes_cons]
  by_cases h : c = '\\' ∧ ∀ d ∈ body, d = '\\'
  · rw [if_pos h, if_pos ⟨rfl, List.forall_mem_cons.mpr h⟩, Nat.add_assoc, Nat.odd_add]
    exact iff_true_right (by decide)
  · rw [if_neg h, if_neg fun hand => h (List.forall_mem_cons.mp hand.2)]
    rfl

/-- **Nothing closes a literal** if and only if every delimiter is escaped. -/
theorem splitAtDelimiter_eq_none_iff {close : Char} (hclose : close ≠ '\\') {text : List Char} :
    splitAtDelimiter close text = none ↔ Unclosed close text := by
  fun_induction splitAtDelimiter close text with
  | case1 => exact iff_of_true rfl fun body after h => by simp at h
  | case2 =>
    refine iff_of_true rfl fun body after h => ?_
    cases body with
    | nil => exact absurd (List.cons.inj h).1.symm hclose
    | cons d body => exact absurd (List.cons.inj h).2 (by simp)
  | case3 c text ih =>
    rw [Option.map_eq_none_iff, ih]
    constructor
    · intro htext body after h
      obtain _ | ⟨d, _ | ⟨d', body⟩⟩ := body
      · exact absurd (List.cons.inj h).1.symm hclose
      · obtain rfl : '\\' = d := (List.cons.inj h).1
        exact odd_one
      · simp only [List.cons_append, List.cons.injEq] at h
        obtain ⟨rfl, rfl, hrest⟩ := h
        exact (escapesNext_pair c body).mpr (htext body after hrest)
    · intro h body after htext
      exact (escapesNext_pair c body).mp (h ('\\' :: c :: body) after (by rw [htext]; rfl))
  | case4 text hne =>
    refine iff_of_false (by simp) fun h => ?_
    exact absurd (h [] text rfl) (by simp [EscapesNext])
  | case5 c text hlast hescape hne ih =>
    have hc : c ≠ '\\' := by
      intro hc
      cases text with
      | nil => exact hlast hc rfl
      | cons d text => exact hescape d text hc rfl
    rw [Option.map_eq_none_iff, ih]
    constructor
    · intro htext body after h
      cases body with
      | nil => exact absurd (List.cons.inj h).1 hne
      | cons d body =>
        obtain ⟨rfl, hrest⟩ := List.cons.inj h
        exact (escapesNext_cons hc body).mpr (htext body after hrest)
    · intro h body after htext
      exact (escapesNext_cons hc body).mp (h (c :: body) after (by rw [htext]; rfl))

/-! ## Faults of one cut -/

/-- **What is wrong where a cut fails**: a quotation mark is not closed, nor a slash where a value
follows, or the character starts neither a literal nor anything else. -/
inductive Faulty (valueFollows : Bool) (first : Char) (rest : List Char) : LexFault → Prop where
  | string (hquote : first = '"' ∨ first = '\'') (hopen : Unclosed first rest) :
    Faulty valueFollows first rest .unterminatedString
  | regex (hslash : first = '/') (hvalue : valueFollows = true) (hopen : Unclosed '/' rest) :
    Faulty valueFollows first rest .unterminatedRegex
  | unexpected (hquote : ¬ (first = '"' ∨ first = '\''))
    (hslash : ¬ (first = '/' ∧ valueFollows = true)) :
    Faulty valueFollows first rest (.unexpected first)

theorem splitAtDelimiter_of_outcome {close : Char} {rest : List Char} {fault fault' : LexFault}
    {token : List Char → TokenKind × Literal}
    (h : (cutDelimited close rest fault token).outcome = .error fault') :
    fault = fault' ∧ splitAtDelimiter close rest = none := by
  rw [cutDelimited] at h
  split at h
  · cases h
  · next hnone => exact ⟨Except.error.inj h, hnone⟩

theorem faulty_of_cut {v : Bool} {first : Char} {rest : List Char} {fault : LexFault}
    (h : (cut v first rest).outcome = .error fault) : Faulty v first rest fault := by
  rw [cut] at h
  split at h
  · next hquote =>
    obtain ⟨rfl, hnone⟩ := splitAtDelimiter_of_outcome h
    have hclose : first ≠ '\\' := by rcases hquote with rfl | rfl <;> decide
    exact .string hquote ((splitAtDelimiter_eq_none_iff hclose).mp hnone)
  · next hquote =>
    split at h
    · next hslash =>
      obtain ⟨rfl, hnone⟩ := splitAtDelimiter_of_outcome h
      exact .regex hslash.1 hslash.2 ((splitAtDelimiter_eq_none_iff (by decide)).mp hnone)
    · next hslash =>
      split at h
      · cases h
      split at h
      · cases h
      · rw [cutPunctuation] at h
        split at h
        · cases h
        · obtain rfl := Except.error.inj h
          exact .unexpected hquote hslash

section Faulty

variable {v : Bool} {first : Char} {rest : List Char} {fault : LexFault}

theorem Faulty.string_iff (h : Faulty v first rest fault) :
    fault = .unterminatedString ↔ (first = '"' ∨ first = '\'') ∧ Unclosed first rest := by
  cases h with
  | string hquote hopen => exact iff_of_true rfl ⟨hquote, hopen⟩
  | regex hslash => exact iff_of_false (by simp) fun h => by simp [hslash] at h
  | unexpected hquote => exact iff_of_false (by simp) fun h => hquote h.1

theorem Faulty.regex_iff (h : Faulty v first rest fault) :
    fault = .unterminatedRegex ↔ first = '/' ∧ v = true ∧ Unclosed '/' rest := by
  cases h with
  | string hquote => exact iff_of_false (by simp) fun h => by simp [h.1] at hquote
  | regex hslash hvalue hopen => exact iff_of_true rfl ⟨hslash, hvalue, hopen⟩
  | unexpected _ hslash => exact iff_of_false (by simp) fun h => hslash ⟨h.1, h.2.1⟩

theorem Faulty.cases (h : Faulty v first rest fault) :
    fault = .unterminatedString ∨ fault = .unterminatedRegex ∨ fault = .unexpected first := by
  cases h with
  | string => exact .inl rfl
  | regex => exact .inr (.inl rfl)
  | unexpected => exact .inr (.inr rfl)

end Faulty

/-- **A call that fails** does so where something stands behind the blanks, which is faulty. -/
theorem exists_faulty {l : Lexer} {e : LexError} (h : l.next.1 = .error e) :
    ∃ gap first rest, l.rest = gap ++ first :: rest ∧ (∀ c ∈ gap, isGap c = true) ∧
      e.position = l.position.after gap ∧ Faulty l.valueFollows first rest e.fault := by
  have htext : l.rest = l.rest.takeWhile isGap ++ l.rest.dropWhile isGap :=
    List.takeWhile_append_dropWhile.symm
  match hdrop : l.rest.dropWhile isGap with
  | [] =>
    rw [next_eq_stop hdrop] at h
    cases h
  | first :: rest =>
    rw [hdrop] at htext
    cases houtcome : (cut l.valueFollows first rest).outcome with
    | ok c =>
      rw [next_eq hdrop houtcome] at h
      cases h
    | error fault =>
      rw [next_eq_fault hdrop houtcome] at h
      obtain rfl := Except.error.inj h
      exact ⟨_, first, rest, htext, fun c hc => List.all_eq_true.mp List.all_takeWhile c hc, rfl,
        faulty_of_cut houtcome⟩

/-! ## Tokens in front of a fault -/

/-- **A text goes wrong** where the lexer fails after some tokens. -/
theorem exists_yields_of_tokens_error {l : Lexer} {e : LexError} (h : l.tokens = .error e) :
    ∃ ts m, Yields l ts m ∧ m.next.1 = .error e := by
  -- along the calls of the lexer, which shorten its text
  fun_induction tokens l with
  | case1 l e' he =>
    obtain rfl := Except.error.inj h
    exact ⟨[], l, .refl l, he⟩
  | case2 => cases h
  | case3 l t ht hk hlt e' he ih =>
    obtain rfl := Except.error.inj h
    obtain ⟨ts, m, hyields, hm⟩ := ih he
    exact ⟨t :: ts, m, .step ht hk hyields, hm⟩
  | case4 => cases h

/-- The last kind is that of the last token. -/
theorem Yields.previous_eq {l m : Lexer} {ts : List Token} (h : Yields l ts m) :
    m.previous = (ts.getLast?.map Token.kind).or l.previous := by
  induction h with
  | refl l => rfl
  | @step l m t ts ht hk rest ih =>
    obtain ⟨gap, first, lexeme, htakes⟩ := exists_takes ht hk
    rw [ih, htakes.previous, List.getLast?_cons]
    cases ts.getLast? <;> rfl

/-- **A call does not look past what it takes.** If the end of what it leaves is dropped, it gives
the same token. -/
theorem next_cutShort {l : Lexer} {t : Token} (h : l.next.1 = .ok t) (hk : t.kind ≠ .eof)
    {front kept dropped : List Char} (htext : l.rest = front ++ dropped)
    (hrest : l.next.2.rest = kept ++ dropped) :
    ({ l with rest := front } : Lexer).next = (.ok t, { l.next.2 with rest := kept }) := by
  obtain ⟨gap, first, lexeme, htakes⟩ := exists_takes h hk
  have hlong := next_of_text htakes.text htakes.blank htakes.visible htakes.taken
  have htaken := htakes.taken
  have hfront : front = gap ++ first :: (lexeme ++ kept) := by
    rw [← List.append_left_inj dropped, ← htext, htakes.text, hrest]
    simp
  rw [hrest] at htaken
  have hshort := next_of_text (l := { l with rest := front }) hfront htakes.blank htakes.visible
    (cut_truncate htaken)
  rw [hshort, Prod.mk.injEq]
  constructor
  · rw [← h, hlong]
  · rw [hlong]

/-- **The tokens of a text come from its front alone**, in their places. -/
theorem Yields.cutShort {l m : Lexer} {ts : List Token} (h : Yields l ts m)
    {front kept dropped : List Char} (htext : l.rest = front ++ dropped)
    (hrest : m.rest = kept ++ dropped) :
    Yields { l with rest := front } ts { m with rest := kept } := by
  induction h generalizing front with
  | refl l =>
    obtain rfl := List.append_cancel_right (htext.symm.trans hrest)
    exact .refl _
  | @step l m t ts ht hk rest ih =>
    obtain ⟨used, hused, -⟩ := rest.text
    rw [hrest, ← List.append_assoc] at hused
    have hnext := next_cutShort ht hk htext hused
    refine .step (by rw [hnext]) hk ?_
    rw [hnext]
    exact ih hused hrest

end Lexer

open Lexer

/-- **A fault is where the text goes wrong, and no sooner.** It names a place of the text. The text
up to there, on its own, gives the tokens that the lexer gave before it failed, with their spans,
and then the end. The fault is a string that is not closed if and only if the character there is a
quotation mark and every such mark behind it is escaped. It is a regular expression that is not
closed if and only if the character is a slash, a value follows the tokens before, and every slash
behind it is escaped. Of any other character it says that it is unexpected. -/
theorem tokenize_before_fault {source : String} {e : LexError} (h : tokenize source = .error e) :
    ∃ first rest ts, source.toList.drop e.position.offset = first :: rest ∧
      e.position.IsIn source ∧
      ((ofQuery source).nextMany (ts.length + 1)).1 = ts.map .ok ++ [.error e] ∧
      tokenize (.ofList (source.toList.take e.position.offset))
        = .ok (ts ++ [.eofAt e.position]) ∧
      (e.fault = .unterminatedString ↔ (first = '"' ∨ first = '\'') ∧ Unclosed first rest) ∧
      (e.fault = .unterminatedRegex ↔
        first = '/' ∧ ts.getLast?.all (·.kind.opensValue) = true ∧ Unclosed '/' rest) ∧
      (e.fault = .unterminatedString ∨ e.fault = .unterminatedRegex ∨
        e.fault = .unexpected first) := by
  obtain ⟨ts, m, hyields, hm⟩ := exists_yields_of_tokens_error h
  obtain ⟨gap, first, rest, hrest, hgap, hplace, hfaulty⟩ := exists_faulty hm
  obtain ⟨used, hused, hposition⟩ := hyields.text
  -- the text up to the fault: what the tokens take, and the blanks behind them
  have htext : (ofQuery source).rest = (used ++ gap) ++ first :: rest := by
    rw [hused, hrest, List.append_assoc]
  have hstart : e.position = Position.start.after (used ++ gap) := by
    rw [hplace, hposition, ← Position.after_append]
    rfl
  have hoffset : e.position.offset = (used ++ gap).length := by
    rw [hstart, Position.offset_after]
    exact Nat.zero_add _
  have htake : source.toList.take e.position.offset = used ++ gap := by
    rw [hoffset, show source.toList = _ from htext, List.take_left]
  have hdrop : source.toList.drop e.position.offset = first :: rest := by
    rw [hoffset, show source.toList = _ from htext, List.drop_left]
  have hvalue : m.valueFollows = ts.getLast?.all (·.kind.opensValue) := by
    rw [valueFollows, hyields.previous_eq]
    cases ts.getLast? <;> rfl
  rw [hvalue] at hfaulty
  refine ⟨first, rest, ts, hdrop, ?_, ?_, ?_, hfaulty.string_iff, hfaulty.regex_iff,
    hfaulty.cases⟩
  · rw [hstart]
    exact Position.isIn_after htext.symm
  · rw [hyields.nextMany_add, nextMany_succ, hm]
    rfl
  · rw [htake]
    have hfront := hyields.cutShort htext hrest
    have hlexer : ofQuery (.ofList (used ++ gap))
        = { ofQuery source with rest := used ++ gap } := by
      rw [ofQuery, String.toList_ofList]
      rfl
    refine (tokens_eq_ok_iff _ _).mpr ⟨ts, _, _, rfl, hlexer ▸ hfront, ?_, rfl⟩
    rw [next_eq_stop (List.dropWhile_eq_nil_iff.mpr hgap), List.takeWhile_eq_self_iff.mpr hgap,
      hplace]

/-- The first slash divides, the second one opens a regular expression, and the third one is
escaped and does not close it. -/
theorem tokenize_before_fault_slash :
    tokenize "',' / ',' != /a\\/b" = .error ⟨.unterminatedRegex, ⟨13, 1, 14⟩⟩ ∧
      Unclosed '/' ['a', '\\', '/', 'b'] ∧
      ∃ ts, ((ofQuery "',' / ',' != /a\\/b").nextMany (ts.length + 1)).1
          = ts.map .ok ++ [.error ⟨.unterminatedRegex, ⟨13, 1, 14⟩⟩] ∧
        tokenize "',' / ',' != " = .ok (ts ++ [.eofAt ⟨13, 1, 14⟩]) := by
  have herror : tokenize "',' / ',' != /a\\/b" = .error ⟨.unterminatedRegex, ⟨13, 1, 14⟩⟩ := by
    cbv
  obtain ⟨first, rest, ts, hdrop, -, hcalls, hbefore, -, hregex, -⟩ := tokenize_before_fault herror
  have hbehind : "',' / ',' != /a\\/b".toList.drop 13 = ['/', 'a', '\\', '/', 'b'] := by decide
  have hfront : String.ofList ("',' / ',' != /a\\/b".toList.take 13) = "',' / ',' != " := by decide
  obtain ⟨rfl, rfl⟩ := List.cons.inj (hbehind.symm.trans hdrop)
  exact ⟨herror, (hregex.mp rfl).2.2, ts, hcalls, hfront ▸ hbefore⟩

end CardQuery
