import CardQuery.Proofs.Query.RoundTrip

/-!
# Slices of a query

Every node of a tree stands for a stretch of the text it was read from. Cut
out at its span and read on its own, that stretch gives the node back, the
same but for its spans (`parseExpression_slice`).

The slice knows nothing of what stood around it, so the context must not
matter. A lexer does not look past the text that it leaves, hence the slice
ends where the node's last token ended (`Lexer.cut_truncate`). It is begun
as a value, and a node begins with no operator, so a slash is taken as it
was (`Lexer.cut_of_value`). What is left is that the tokens of a node are a
stretch of the tokens of the tree, and that the tree of a node is canonical
and needs no more room than the whole.
-/

namespace CardQuery

/-- **The text in a span.** -/
def Span.slice (s : Span) (source : String) : String :=
  .ofList ((source.toList.drop s.start.offset).take s.length)

/-! ## A shorter text is cut in the same way -/

namespace Lexer

variable {v : Bool} {first : Char} {cs lexeme kept dropped after : List Char} {c : Content}

/-- What stands behind the closing delimiter is not looked at. -/
theorem cutDelimited_replace {close : Char} (hclose : close ≠ '\\') {fault : LexFault}
    {token : List Char → Content}
    (h : cutDelimited close cs fault token = ⟨close :: lexeme, kept, .ok c⟩) :
    cutDelimited close (lexeme ++ after) fault token = ⟨close :: lexeme, after, .ok c⟩ := by
  unfold cutDelimited at h
  split at h
  · next body rest hsplit =>
    obtain ⟨hlexeme, -, houtcome⟩ := Cut.mk.inj h
    obtain rfl : body ++ [close] = lexeme := (List.cons.inj hlexeme).2
    have hafter := splitAtDelimiter_replace hclose hsplit after
    rw [List.append_assoc, List.singleton_append, cutDelimited, hafter, ← houtcome]
    rfl
  · exact absurd (Cut.mk.inj h).2.2 (by rintro ⟨⟩)

/-- A run ends in front of something else, whatever that is. -/
theorem takeWhile_replace {p : Char → Bool} (htake : cs.takeWhile p = lexeme)
    (hafter : ∀ d ∈ after.head?, p d = false) :
    (lexeme ++ after).takeWhile p = lexeme ∧ (lexeme ++ after).dropWhile p = after := by
  have hlexeme : ∀ c ∈ lexeme, p c = true := fun c hc =>
    List.all_eq_true.mp List.all_takeWhile c (htake ▸ hc)
  exact Content.takeWhile_append_separate hlexeme hafter

/-- Behind a run there is something else. -/
theorem head_of_takeWhile {p : Char → Bool}
    (htake : (lexeme ++ (kept ++ dropped)).takeWhile p = lexeme) :
    ∀ d ∈ kept.head?, p d = false := by
  have hlexeme : ∀ c ∈ lexeme, p c = true := fun c hc =>
    List.all_eq_true.mp List.all_takeWhile c (htake ▸ hc)
  refine fun d hd => Bool.eq_false_iff.mpr fun hp => ?_
  obtain ⟨rest, rfl⟩ := List.head?_eq_some_iff.mp hd
  rw [List.takeWhile_append_of_pos hlexeme, List.cons_append,
    List.takeWhile_cons_of_pos hp] at htake
  exact absurd (List.append_right_eq_self.mp htake) (List.cons_ne_nil _ _)

theorem cutNumber_replace (h : cutNumber first cs = ⟨first :: lexeme, kept, .ok c⟩)
    (hafter : ∀ d ∈ after.head?, Number.isDigit d = false) :
    cutNumber first (lexeme ++ after) = ⟨first :: lexeme, after, .ok c⟩ := by
  obtain ⟨hlexeme, -, houtcome⟩ := Cut.mk.inj h
  obtain ⟨htake, hdrop⟩ := takeWhile_replace (List.cons.inj hlexeme).2 hafter
  rw [hlexeme] at houtcome
  rw [cutNumber, htake, hdrop, ← houtcome]

theorem cutWord_replace (h : cutWord first cs = ⟨first :: lexeme, kept, .ok c⟩)
    (hafter : ∀ d ∈ after.head?, inName d = false) :
    cutWord first (lexeme ++ after) = ⟨first :: lexeme, after, .ok c⟩ := by
  obtain ⟨hlexeme, -, houtcome⟩ := Cut.mk.inj h
  obtain ⟨htake, hdrop⟩ := takeWhile_replace (List.cons.inj hlexeme).2 hafter
  rw [hlexeme] at houtcome
  rw [cutWord, htake, hdrop, ← houtcome]

theorem ne_nil_of_mem_punctuation : ∀ entry ∈ punctuation, entry.1 ≠ [] := by
  decide

theorem cutPunctuation_truncate
    (h : cutPunctuation first (lexeme ++ (kept ++ dropped))
      = ⟨first :: lexeme, kept ++ dropped, .ok c⟩) :
    cutPunctuation first (lexeme ++ kept) = ⟨first :: lexeme, kept, .ok c⟩ := by
  unfold cutPunctuation at h
  split at h
  · next symbol kind hfind =>
    obtain ⟨hlexeme, hrest, houtcome⟩ := Cut.mk.inj h
    obtain ⟨hsymbol, before, behind, htable, hbefore⟩ := List.find?_eq_some_iff_append.mp hfind
    have hsymbol := List.isPrefixOf_iff_prefix.mp hsymbol
    -- the symbol is what was taken
    obtain ⟨d, tail, rfl⟩ := List.exists_cons_of_ne_nil
      (ne_nil_of_mem_punctuation _ (List.mem_of_find?_eq_some hfind))
    obtain ⟨rfl, htail⟩ := List.cons_prefix_cons.mp hsymbol
    obtain rfl : tail = lexeme := by
      rw [← (List.cons.inj hlexeme).2]
      exact List.prefix_iff_eq_take.mp htail
    have hfound : punctuation.find? (fun entry => entry.1.isPrefixOf (d :: (tail ++ kept)))
        = some (d :: tail, kind) := by
      refine List.find?_eq_some_iff_append.mpr ⟨?_, before, behind, htable, fun entry hentry => ?_⟩
      · exact List.isPrefixOf_iff_prefix.mpr (List.prefix_append (d :: tail) kept)
      · -- what does not start the text does not start a shorter one
        have hnot := hbefore entry hentry
        rw [Bool.not_eq_true', ← Bool.not_eq_true, List.isPrefixOf_iff_prefix] at hnot ⊢
        refine fun hshort => hnot (hshort.trans ?_)
        rw [← List.append_assoc]
        exact List.prefix_append (d :: (tail ++ kept)) dropped
    rw [cutPunctuation, hfound, ← houtcome]
    simp
  · exact absurd (Cut.mk.inj h).2.2 (by rintro ⟨⟩)

theorem any_head?_append {p : Char → Bool} {cs : List Char} (h : cs.head?.any p = true)
    (ds : List Char) : (cs ++ ds).head?.any p = true := by
  cases cs with
  | nil => cases h
  | cons c cs => exact h

/-- **A cut does not look past the text that it leaves.** If the end of that is
dropped, the same is cut. -/
theorem cut_truncate
    (h : cut v first (lexeme ++ (kept ++ dropped)) = ⟨first :: lexeme, kept ++ dropped, .ok c⟩) :
    cut v first (lexeme ++ kept) = ⟨first :: lexeme, kept, .ok c⟩ := by
  by_cases hquote : first = '"' ∨ first = '\''
  · rw [cut, if_pos hquote] at h ⊢
    refine cutDelimited_replace ?_ h
    rcases hquote with rfl | rfl <;> decide
  by_cases hslash : first = '/' ∧ v = true
  · rw [cut, if_neg hquote, if_pos hslash] at h ⊢
    obtain ⟨rfl, -⟩ := hslash
    exact cutDelimited_replace (by decide) h
  by_cases hnumber : Number.isDigit first ∨
      (first = '-' ∧ (lexeme ++ (kept ++ dropped)).head?.any Number.isDigit)
  · rw [cut, if_neg hquote, if_neg hslash, if_pos hnumber] at h
    have hnumber' : Number.isDigit first ∨
        (first = '-' ∧ (lexeme ++ kept).head?.any Number.isDigit) := by
      refine hnumber.imp_right (And.imp_right fun hdigit => ?_)
      -- a digit behind the minus is taken
      have htake := (List.cons.inj (Cut.mk.inj h).1).2
      cases lexeme with
      | cons d lexeme => exact hdigit
      | nil =>
        cases hrest : kept ++ dropped with
        | nil =>
          rw [List.nil_append, hrest] at hdigit
          cases hdigit
        | cons d rest =>
          rw [List.nil_append, hrest] at hdigit htake
          have hd : Number.isDigit d = true := hdigit
          rw [List.takeWhile_cons_of_pos hd] at htake
          cases htake
    rw [cut, if_neg hquote, if_neg hslash, if_pos hnumber']
    exact cutNumber_replace h (head_of_takeWhile (List.cons.inj (Cut.mk.inj h).1).2)
  have hnumber' : ¬ (Number.isDigit first ∨
      (first = '-' ∧ (lexeme ++ kept).head?.any Number.isDigit)) := by
    refine fun h => hnumber (h.imp_right (And.imp_right fun hdigit => ?_))
    rw [← List.append_assoc]
    exact any_head?_append hdigit dropped
  by_cases hstart : startsName first = true
  · rw [cut, if_neg hquote, if_neg hslash, if_neg hnumber, if_pos hstart] at h
    rw [cut, if_neg hquote, if_neg hslash, if_neg hnumber', if_pos hstart]
    exact cutWord_replace h (head_of_takeWhile (List.cons.inj (Cut.mk.inj h).1).2)
  · rw [cut, if_neg hquote, if_neg hslash, if_neg hnumber, if_neg hstart] at h
    rw [cut, if_neg hquote, if_neg hslash, if_neg hnumber', if_neg hstart]
    exact cutPunctuation_truncate h

/-- Where a value follows, the same is cut, unless it is an operator. -/
theorem cut_of_value {rest after : List Char}
    (h : cut v first rest = ⟨first :: lexeme, after, .ok c⟩) (hop : ∀ op, c.1 ≠ .operator op) :
    cut true first rest = ⟨first :: lexeme, after, .ok c⟩ := by
  cases v with
  | true => exact h
  | false =>
    by_cases hslash : first = '/'
    · -- a slash where no value follows is a division
      subst hslash
      have hcut : (cut false '/' rest).outcome = .ok (.operator (.arithmetic .divide), .null) := rfl
      rw [h] at hcut
      cases hcut
      exact absurd rfl (hop _)
    · have hneg : ∀ w, ¬ (first = '/' ∧ w = true) := fun w hand => hslash hand.1
      rw [← h, cut, cut, if_neg (hneg true), if_neg (hneg false)]

/-! ## The tokens of a stretch of a text -/

/-- **What one call of a lexer takes**: the blanks in front, and the characters
of a token. -/
structure Takes (l : Lexer) (t : Token) (gap : List Char) (first : Char) (lexeme : List Char) :
    Prop where
  text : l.rest = gap ++ first :: (lexeme ++ l.next.2.rest)
  blank : ∀ c ∈ gap, isGap c = true
  visible : isGap first = false
  taken : cut l.valueFollows first (lexeme ++ l.next.2.rest)
    = ⟨first :: lexeme, l.next.2.rest, .ok t.content⟩
  start : t.span.start = l.position.after gap
  stop : t.span.stop = l.next.2.position
  position : l.next.2.position = l.position.after (gap ++ first :: lexeme)
  previous : l.next.2.previous = some t.kind

theorem exists_takes {l : Lexer} {t : Token} (h : l.next.1 = .ok t) (hk : t.kind ≠ .eof) :
    ∃ gap first lexeme, l.Takes t gap first lexeme := by
  obtain ⟨first, rest, hdrop, hcut, hprevious⟩ := of_next h hk
  obtain ⟨lexeme, hlexeme⟩ :
      ∃ lexeme, (cut l.valueFollows first rest).lexeme = first :: lexeme := by
    obtain ⟨d, lexeme, hd⟩ := List.exists_cons_of_ne_nil (lexeme_ne_nil l.valueFollows first rest)
    have happend := lexeme_append_rest l.valueFollows first rest
    rw [hd] at happend
    exact ⟨lexeme, by rw [hd, (List.cons.inj happend).1]⟩
  have hnext := next_eq hdrop hcut
  have hrest : l.next.2.rest = (cut l.valueFollows first rest).rest := by rw [hnext]
  have happend : lexeme ++ l.next.2.rest = rest := by
    have happend := lexeme_append_rest l.valueFollows first rest
    rw [hlexeme, ← hrest] at happend
    exact (List.cons.inj happend).2
  have hspan : t.span = ⟨l.position.after (l.rest.takeWhile isGap),
      (l.position.after (l.rest.takeWhile isGap)).after (first :: lexeme)⟩ := by
    rw [hnext] at h
    rw [← Except.ok.inj h, hlexeme]
  have hposition : l.next.2.position
      = (l.position.after (l.rest.takeWhile isGap)).after (first :: lexeme) := by
    rw [hnext]
    dsimp only
    rw [hlexeme]
  refine ⟨l.rest.takeWhile isGap, first, lexeme, ?_, ?_, ?_, ?_, ?_, ?_, ?_, hprevious⟩
  · rw [happend, ← hdrop, List.takeWhile_append_dropWhile]
  · exact fun c hc => List.all_eq_true.mp List.all_takeWhile c hc
  · have hhead := List.head?_dropWhile_not isGap l.rest
    rwa [hdrop] at hhead
  · rw [happend, ← hlexeme, hrest, ← hcut]
  · rw [hspan]
  · rw [hspan, hposition]
  · rw [hposition, Position.after_append]

/-- A call that takes some characters gives their token, where they stand. -/
theorem next_of_text {l : Lexer} {gap lexeme after : List Char} {first : Char} {c : Content}
    (htext : l.rest = gap ++ first :: (lexeme ++ after)) (hgap : ∀ c ∈ gap, isGap c = true)
    (hfirst : isGap first = false)
    (hcut : cut l.valueFollows first (lexeme ++ after) = ⟨first :: lexeme, after, .ok c⟩) :
    l.next =
      let start := l.position.after gap
      let stop := start.after (first :: lexeme)
      (.ok ⟨c.1, .ofList (first :: lexeme), c.2, ⟨start, stop⟩⟩, ⟨after, stop, some c.1⟩) := by
  have hdrop : l.rest.dropWhile isGap = first :: (lexeme ++ after) := by
    rw [htext, List.dropWhile_append_of_pos hgap,
      List.dropWhile_cons_of_neg (Bool.eq_false_iff.mp hfirst)]
  have htake : l.rest.takeWhile isGap = gap := by
    rw [htext, List.takeWhile_append_of_pos hgap,
      List.takeWhile_cons_of_neg (Bool.eq_false_iff.mp hfirst), List.append_nil]
  rw [next_eq hdrop (by rw [hcut]), hcut, htake]

theorem next_of_takes {l : Lexer} {gap lexeme after : List Char} {first : Char} {c : Content}
    (htext : l.rest = gap ++ first :: (lexeme ++ after)) (hgap : ∀ c ∈ gap, isGap c = true)
    (hfirst : isGap first = false)
    (hcut : cut l.valueFollows first (lexeme ++ after) = ⟨first :: lexeme, after, .ok c⟩) :
    ∃ t, l.next.1 = .ok t ∧ t.content = c ∧ l.next.2.rest = after ∧
      l.next.2.previous = some c.1 := by
  rw [next_of_text htext hgap hfirst hcut]
  exact ⟨_, rfl, rfl, rfl, rfl⟩

/-- The calls that give some tokens and then others. -/
theorem Yields.split {l m : Lexer} {us vs : List Token} (h : Yields l (us ++ vs) m) :
    ∃ k, Yields l us k ∧ Yields k vs m := by
  induction us generalizing l with
  | nil => exact ⟨l, .refl l, h⟩
  | cons t us ih =>
    cases h with
    | step ht hk rest =>
      obtain ⟨k, hus, hvs⟩ := ih rest
      exact ⟨k, .step ht hk hus, hvs⟩

/-- Tokens take text off the front, and the place moves along it. -/
theorem Yields.text {l m : Lexer} {ts : List Token} (h : Yields l ts m) :
    ∃ used, l.rest = used ++ m.rest ∧ m.position = l.position.after used := by
  induction h with
  | refl l => exact ⟨[], rfl, rfl⟩
  | @step l m t ts ht hk rest ih =>
    obtain ⟨gap, first, lexeme, htakes⟩ := exists_takes ht hk
    obtain ⟨used, hused, hposition⟩ := ih
    refine ⟨(gap ++ first :: lexeme) ++ used, ?_, ?_⟩
    · rw [htakes.text, hused]
      simp
    · rw [hposition, htakes.position, Position.after_append _ _ used]

/-- The last token ends where the lexer stands. -/
theorem Yields.stop {l m : Lexer} {ts : List Token} (h : Yields l ts m) {t : Token}
    (ht : ts.getLast? = some t) : t.span.stop = m.position := by
  induction h with
  | refl l => cases ht
  | @step l m u ts hu hk rest ih =>
    cases rest with
    | refl =>
      cases ht
      obtain ⟨gap, first, lexeme, htakes⟩ := exists_takes hu hk
      exact htakes.stop
    | step hv hkv rest => exact ih (by rwa [List.getLast?_cons_cons] at ht)

/-- **A stretch of a text gives the tokens it gave in front of what is
dropped.** -/
theorem Yields.truncate {l m : Lexer} {ts : List Token} (h : Yields l ts m) {l' : Lexer}
    {kept dropped : List Char} (hrest : m.rest = kept ++ dropped)
    (htext : l.rest = l'.rest ++ dropped) (hprevious : l'.previous = l.previous) :
    ∃ ts' m', Yields l' ts' m' ∧ ts'.map Token.content = ts.map Token.content ∧
      m'.rest = kept := by
  induction h generalizing l' with
  | refl l => exact ⟨[], l', .refl l', rfl, List.append_cancel_right (htext.symm.trans hrest)⟩
  | @step l m t ts ht hk rest ih =>
    obtain ⟨gap, first, lexeme, htakes⟩ := exists_takes ht hk
    obtain ⟨used, hused, -⟩ := rest.text
    rw [hrest, ← List.append_assoc] at hused
    have htext' : l'.rest = gap ++ first :: (lexeme ++ (used ++ kept)) := by
      rw [← List.append_left_inj dropped, ← htext, htakes.text, hused]
      simp
    have htaken := htakes.taken
    rw [hused, show l.valueFollows = l'.valueFollows by rw [valueFollows, ← hprevious]; rfl]
      at htaken
    obtain ⟨t', ht', hcontent, hrest', hprevious'⟩ :=
      next_of_takes htext' htakes.blank htakes.visible (cut_truncate htaken)
    have hkind : t'.kind = t.kind := congrArg Prod.fst hcontent
    have htail : l.next.2.rest = l'.next.2.rest ++ dropped := by rw [hused, hrest']
    have hlast : l'.next.2.previous = l.next.2.previous := by
      rw [hprevious', htakes.previous]
      rfl
    obtain ⟨ts', m', hyields, hcontents, hm'⟩ := ih hrest htail hlast
    exact ⟨t' :: ts', m', .step ht' (hkind ▸ hk) hyields,
      by rw [List.map_cons, List.map_cons, hcontent, hcontents], hm'⟩

/-- **A stretch of a text that starts with a value gives its tokens on its
own.** It starts where the first of them does, and ends where the lexer
stands after the last. -/
theorem Yields.slice {l m : Lexer} {t : Token} {ts : List Token} (h : Yields l (t :: ts) m)
    (hop : ∀ op, t.kind ≠ .operator op) :
    ∃ gap body, l.rest = gap ++ (body ++ m.rest) ∧ t.span.start = l.position.after gap ∧
      m.position = l.position.after (gap ++ body) ∧
      ∀ l' : Lexer, l'.rest = body → l'.valueFollows = true →
        ∃ us m', Yields l' us m' ∧ us.map Token.content = (t :: ts).map Token.content ∧
          m'.rest = [] := by
  cases h with
  | step ht hk rest =>
    obtain ⟨gap, first, lexeme, htakes⟩ := exists_takes ht hk
    obtain ⟨used, hused, hposition⟩ := rest.text
    refine ⟨gap, first :: (lexeme ++ used), ?_, htakes.start, ?_, fun l' htext hv => ?_⟩
    · rw [htakes.text, hused]
      simp
    · rw [hposition, htakes.position, ← Position.after_append]
      simp
    · -- the first token is cut as a value, the others as they were
      have htaken := htakes.taken
      rw [hused] at htaken
      have hcut := cut_of_value (cut_truncate htaken) hop
      rw [← hv] at hcut
      have htext : l'.rest = [] ++ first :: (lexeme ++ used) := htext
      obtain ⟨t', ht', hcontent, hrest', hprevious'⟩ :=
        next_of_takes htext (List.forall_mem_nil _) htakes.visible hcut
      have hkind : t'.kind = t.kind := congrArg Prod.fst hcontent
      have hlast : l'.next.2.previous = l.next.2.previous := by
        rw [hprevious', htakes.previous]
        rfl
      have hnone : m.rest = [] ++ m.rest := rfl
      obtain ⟨us, m', hyields, hcontents, hm'⟩ :=
        rest.truncate hnone (by rw [hused, hrest']) hlast
      exact ⟨t' :: us, m', .step ht' (hkind ▸ hk) hyields,
        by rw [List.map_cons, List.map_cons, hcontent, hcontents], hm'⟩

end Lexer

/-! ## The order of tokens -/

/-- **Whether tokens stand in the order of their text**: each before the next,
and none empty. -/
structure InOrder (ts : List Token) : Prop where
  nonempty : ∀ t ∈ ts, t.span.start.offset < t.span.stop.offset
  apart : ts.Pairwise fun t u => t.span.stop.offset ≤ u.span.start.offset

/-- **What a lexer gives stands in order**, from where it stood. -/
theorem Lexer.Yields.inOrder {l m : Lexer} {ts : List Token} (h : Yields l ts m) :
    InOrder ts ∧ ∀ t ∈ ts, l.position.offset ≤ t.span.start.offset := by
  induction h with
  | refl l => exact ⟨⟨List.forall_mem_nil _, .nil⟩, List.forall_mem_nil _⟩
  | @step l m t ts ht hk rest ih =>
    obtain ⟨gap, first, lexeme, htakes⟩ := exists_takes ht hk
    obtain ⟨⟨hnonempty, hapart⟩, hafter⟩ := ih
    have hstart : t.span.start.offset = l.position.offset + gap.length := by
      rw [htakes.start, Position.offset_after]
    have hstop : t.span.stop.offset = l.position.offset + (gap ++ first :: lexeme).length := by
      rw [htakes.stop, htakes.position, Position.offset_after]
    rw [List.length_append, List.length_cons] at hstop
    have hnext : ∀ u ∈ ts, t.span.stop.offset ≤ u.span.start.offset := by
      rw [htakes.stop]
      exact hafter
    refine ⟨⟨List.forall_mem_cons.mpr ⟨by omega, hnonempty⟩, .cons hnext hapart⟩,
      List.forall_mem_cons.mpr ⟨by omega, fun u hu => ?_⟩⟩
    have hle := hnext u hu
    omega

namespace InOrder

variable {ts us vs : List Token} {t u : Token}

theorem of_append_left (h : InOrder (us ++ vs)) : InOrder us :=
  ⟨(List.forall_mem_append.mp h.nonempty).1, (List.pairwise_append.mp h.apart).1⟩

theorem of_append_right (h : InOrder (us ++ vs)) : InOrder vs :=
  ⟨(List.forall_mem_append.mp h.nonempty).2, (List.pairwise_append.mp h.apart).2.1⟩

/-- Nothing starts before the first token. -/
theorem first_le (h : InOrder ts) (ht : ts.head? = some t) (hu : u ∈ ts) :
    t.span.start.offset ≤ u.span.start.offset := by
  obtain ⟨rest, rfl⟩ := List.head?_eq_some_iff.mp ht
  rcases List.mem_cons.mp hu with rfl | hu
  · exact Nat.le_refl _
  · have hbefore := h.nonempty t List.mem_cons_self
    have hapart := (List.pairwise_cons.mp h.apart).1 u hu
    omega

/-- Nothing stops after the last token. -/
theorem le_last (h : InOrder ts) (ht : ts.getLast? = some t) (hu : u ∈ ts) :
    u.span.stop.offset ≤ t.span.stop.offset := by
  obtain ⟨before, rfl⟩ := List.getLast?_eq_some_iff.mp ht
  rcases List.mem_append.mp hu with hu | hu
  · have hbehind := h.nonempty t (List.mem_append_right _ List.mem_cons_self)
    have hapart := (List.pairwise_append.mp h.apart).2.2 u hu t List.mem_cons_self
    omega
  · rw [List.mem_singleton.mp hu]

end InOrder

/-! ## The nodes of a tree -/

namespace Expr

/-- The nodes right below a node, in order. -/
def children : Expr → List Expr
  | literal _ _ | identifier _ _ => []
  | binary _ l r _ => [l, r]
  | group b _ => [b]
  | list es _ => es

/-- **What a node hands down to its children, the top hands down to every
node.** -/
theorem forall_mem_nodes {P : Expr → Prop} (hstep : ∀ n, P n → ∀ c ∈ n.children, P c) (e : Expr)
    (h : P e) (depth : Nat) : ∀ node ∈ e.nodesFrom depth, P node.2 := by
  induction e generalizing depth with
  | literal v s => exact List.forall_mem_singleton.mpr h
  | identifier n s => exact List.forall_mem_singleton.mpr h
  | binary op l r s ihl ihr =>
    refine List.forall_mem_cons.mpr ⟨h, List.forall_mem_append.mpr ⟨?_, ?_⟩⟩
    · exact ihl (hstep _ h l List.mem_cons_self) (depth + 1)
    · exact ihr (hstep _ h r (List.mem_cons_of_mem _ List.mem_cons_self)) (depth + 1)
  | group b s ih =>
    exact List.forall_mem_cons.mpr ⟨h, ih (hstep _ h b List.mem_cons_self) (depth + 1)⟩
  | list es s ih =>
    refine List.forall_mem_cons.mpr ⟨h, ?_⟩
    have hall := hstep _ h
    clear h
    show ∀ node ∈ listNodesFrom (depth + 1) es, P node.2
    induction es with
    | nil => exact List.forall_mem_nil _
    | cons e es ihes =>
      obtain ⟨hfirst, hothers⟩ := List.forall_mem_cons.mp ih
      obtain ⟨he, hes⟩ := List.forall_mem_cons.mp (show ∀ c ∈ e :: es, P c from hall)
      exact List.forall_mem_append.mpr ⟨hfirst he (depth + 1), ihes hothers hes⟩

theorem Canonical.child {e : Expr} (h : e.Canonical) : ∀ c ∈ e.children, c.Canonical := by
  cases e with
  | literal v s => exact List.forall_mem_nil _
  | identifier n s => exact List.forall_mem_nil _
  | binary op l r s => exact List.forall_mem_cons.mpr ⟨h.1, List.forall_mem_singleton.mpr h.2.1⟩
  | group b s => exact List.forall_mem_singleton.mpr h
  | list es s => exact (allCanonical_iff es).mp h

/-- A child needs no more room than its parent. -/
theorem need_child_le (e : Expr) : ∀ c ∈ e.children, c.need ≤ e.need := by
  cases e with
  | literal v s => exact List.forall_mem_nil _
  | identifier n s => exact List.forall_mem_nil _
  | binary op l r s =>
    have hneed : (binary op l r s).need = max l.need (l.links op.level + 1 + r.need) := rfl
    exact List.forall_mem_cons.mpr ⟨by omega, List.forall_mem_singleton.mpr (by omega)⟩
  | group b s => exact List.forall_mem_singleton.mpr (Nat.le_succ _)
  | list es s =>
    exact fun c hc => Nat.le_succ_of_le ((maxNeed_le_iff es _).mp (Nat.le_refl _) c hc)

/-- A node starts with its first token and stops with its last. -/
theorem SpelledBy.span_ends {e : Expr} {ts : List Token} (h : e.SpelledBy ts) :
    ∃ t u, ts.head? = some t ∧ ts.getLast? = some u ∧ e.span.start = t.span.start ∧
      e.span.stop = u.span.stop := by
  induction e generalizing ts with
  | literal v s =>
    obtain ⟨t, rfl, -, -, rfl⟩ := h
    exact ⟨t, t, rfl, rfl, rfl, rfl⟩
  | identifier n s =>
    obtain ⟨t, rfl, -, -, rfl⟩ := h
    exact ⟨t, t, rfl, rfl, rfl, rfl⟩
  | binary op l r s ihl ihr =>
    obtain ⟨us, k, vs, rfl, -, hl, hr, rfl⟩ := h
    obtain ⟨t, -, ht, -, hstart, -⟩ := ihl hl
    obtain ⟨-, u, -, hu, -, hstop⟩ := ihr hr
    exact ⟨t, u, by rw [List.head?_append, ht]; rfl,
      by rw [List.getLast?_append, List.getLast?_cons, hu]; rfl, hstart, hstop⟩
  | group b s ih =>
    obtain ⟨o, us, c, rfl, -, -, -, rfl⟩ := h
    exact ⟨o, c, rfl, by rw [← List.cons_append, List.getLast?_append]; rfl, rfl, rfl⟩
  | list es s ih =>
    obtain ⟨o, us, c, rfl, -, -, -, rfl⟩ := h
    exact ⟨o, c, rfl, by rw [← List.cons_append, List.getLast?_append]; rfl, rfl, rfl⟩

/-- Each element of a list is spelled by a stretch of the list's tokens. -/
theorem exists_stretch_of_mem {es : List Expr} {ts : List Token} (h : ElementsSpelledBy es ts) :
    ∀ e ∈ es, ∃ before used after, ts = before ++ (used ++ after) ∧ e.SpelledBy used := by
  induction es generalizing ts with
  | nil => exact List.forall_mem_nil _
  | cons e es ih =>
    by_cases hne : es = []
    · subst hne
      exact List.forall_mem_singleton.mpr ⟨[], ts, [], by rw [List.nil_append, List.append_nil], h⟩
    · obtain ⟨us, c, vs, rfl, -, hus, hvs⟩ := (elementsSpelledBy_cons e hne ts).mp h
      refine List.forall_mem_cons.mpr ⟨⟨[], us, c :: vs, rfl, hus⟩, fun f hf => ?_⟩
      obtain ⟨before, used, after, rfl, hused⟩ := ih hvs f hf
      exact ⟨us ++ c :: before, used, after, by simp, hused⟩

/-- **Each child is spelled by a stretch of the tokens of its parent.** -/
theorem SpelledBy.child {e : Expr} {ts : List Token} (h : e.SpelledBy ts) :
    ∀ c ∈ e.children, ∃ before used after, ts = before ++ (used ++ after) ∧ c.SpelledBy used := by
  cases e with
  | literal v s => exact List.forall_mem_nil _
  | identifier n s => exact List.forall_mem_nil _
  | binary op l r s =>
    obtain ⟨us, t, vs, rfl, -, hl, hr, -⟩ := h
    exact List.forall_mem_cons.mpr ⟨⟨[], us, t :: vs, rfl, hl⟩,
      List.forall_mem_singleton.mpr ⟨us ++ [t], vs, [], by simp, hr⟩⟩
  | group b s =>
    obtain ⟨o, us, c, rfl, -, -, hb, -⟩ := h
    exact List.forall_mem_singleton.mpr ⟨[o], us, [c], rfl, hb⟩
  | list es s =>
    obtain ⟨o, us, c, rfl, -, -, hes, -⟩ := h
    intro e he
    obtain ⟨before, used, after, rfl, hused⟩ := exists_stretch_of_mem hes e he
    exact ⟨o :: before, used, after ++ [c], by simp, hused⟩

/-- A node made of tokens of another stands inside it. -/
theorem SpelledBy.inside {e c : Expr} {ts used : List Token} (h : e.SpelledBy ts)
    (hc : c.SpelledBy used) (hused : used ⊆ ts) (horder : InOrder ts) :
    e.span.start.offset ≤ c.span.start.offset ∧ c.span.stop.offset ≤ e.span.stop.offset := by
  obtain ⟨t, u, ht, hu, hstart, hstop⟩ := h.span_ends
  obtain ⟨t', u', ht', hu', hstart', hstop'⟩ := hc.span_ends
  rw [hstart, hstop, hstart', hstop']
  exact ⟨horder.first_le ht (hused (List.mem_of_head? ht')),
    horder.le_last hu (hused (List.mem_of_getLast? hu'))⟩

/-- A node stops before another starts if its tokens come first. -/
theorem SpelledBy.apart {a b : Expr} {us vs used : List Token} (ha : a.SpelledBy us)
    (hb : b.SpelledBy used) (hused : used ⊆ vs) (horder : InOrder (us ++ vs)) :
    a.span.stop.offset ≤ b.span.start.offset := by
  obtain ⟨-, u, -, hu, -, hstop⟩ := ha.span_ends
  obtain ⟨t, -, ht, -, hstart, -⟩ := hb.span_ends
  rw [hstop, hstart]
  exact (List.pairwise_append.mp horder.apart).2.2 u (List.mem_of_getLast? hu) t
    (hused (List.mem_of_head? ht))

theorem subset_stretch (before used after : List Token) : used ⊆ before ++ (used ++ after) :=
  List.subset_append_of_subset_right _ (List.subset_append_left used after)

/-- The elements of a list stand one after another. -/
theorem elements_apart {es : List Expr} {ts : List Token} (h : ElementsSpelledBy es ts)
    (horder : InOrder ts) :
    es.Pairwise fun a b => a.span.stop.offset ≤ b.span.start.offset := by
  induction es generalizing ts with
  | nil => exact .nil
  | cons e es ih =>
    by_cases hne : es = []
    · subst hne
      exact List.pairwise_singleton _ e
    · obtain ⟨us, c, vs, rfl, -, hus, hvs⟩ := (elementsSpelledBy_cons e hne ts).mp h
      have hrest : InOrder ([c] ++ vs) := horder.of_append_right
      refine .cons (fun f hf => ?_) (ih hvs hrest.of_append_right)
      obtain ⟨before, used, after, rfl, hused⟩ := exists_stretch_of_mem hvs f hf
      exact hus.apart hused (subset_stretch (c :: before) used after) horder

/-- **The children of a node stand one after another.** -/
theorem SpelledBy.children_apart {e : Expr} {ts : List Token} (h : e.SpelledBy ts)
    (horder : InOrder ts) :
    e.children.Pairwise fun a b => a.span.stop.offset ≤ b.span.start.offset := by
  cases e with
  | literal v s => exact .nil
  | identifier n s => exact .nil
  | binary op l r s =>
    obtain ⟨us, t, vs, rfl, -, hl, hr, -⟩ := h
    exact List.pairwise_pair.mpr (hl.apart hr (List.subset_cons_self t vs) horder)
  | group b s => exact List.pairwise_singleton _ b
  | list es s =>
    obtain ⟨o, us, c, rfl, -, -, hes, -⟩ := h
    have hall : InOrder ([o] ++ (us ++ [c])) := horder
    exact elements_apart hes hall.of_append_right.of_append_left

end Expr

/-! ## Reading a slice -/

/-- The value of a token that was cut from a text is equal to itself. -/
theorem Content.Lexed.eq_self {c : Content} (h : Lexed c) : c.2.eq c.2 = true := by
  cases h with
  | number hbits negative => exact Number.beq_self_of_isNaN (Number.isNaN_withSign hbits.le negative)
  | boolean b => exact beq_self_eq_true b
  | string s => exact beq_self_eq_true s
  | regex => exact beq_self_eq_true _
  | name => exact beq_self_eq_true _
  | _ => rfl

/-- A tree does not start with an operator. -/
theorem Expr.kind_ne_operator {e : Expr} {t : Token} {ts : List Token}
    (h : e.contents = (t :: ts).map Token.content) (op : Operator) : t.kind ≠ .operator op := by
  intro hk
  have hrun := e.run_contents
  rw [h] at hrun
  have hend : (none : Option TokenKind).any TokenKind.endsOperand = true := hrun.1.2 op hk
  cases hend

/-- **A canonical tree of a stretch of the tokens is read from the text in its
span.** -/
theorem parseExpression_slice_of_spelledBy {source : String} {before used after : List Token}
    {m : Lexer} (hyields : (Lexer.ofQuery source).Yields (before ++ (used ++ after)) m) {n : Expr}
    (hspell : n.SpelledBy used) (hcan : n.Canonical) (hneed : n.need ≤ Parser.defaultLimit) :
    n.span.stop.offset ≤ source.length ∧
      ∃ e', parseExpression (n.span.slice source) = .ok e' ∧ e'.bare = n.bare ∧
        e'.sameShape n = true := by
  obtain ⟨k, hbefore, hrest⟩ := hyields.split
  obtain ⟨k', hused, -⟩ := hrest.split
  obtain ⟨t, u, ht, hu, hstart, hstop⟩ := hspell.span_ends
  obtain ⟨ts, rfl⟩ := List.head?_eq_some_iff.mp ht
  obtain ⟨hlexed, -⟩ := Lexer.lexed_of_yields hused
  have hcontents := hspell.contents_eq fun t ht => (hlexed t ht).fits
  -- the text in the span
  obtain ⟨pre, hpre, hk⟩ := hbefore.text
  obtain ⟨gap, body, hbody, hfirst, hk', hagain⟩ := hused.slice (Expr.kind_ne_operator hcontents)
  have htext : source.toList = (pre ++ gap) ++ (body ++ k'.rest) := by
    rw [List.append_assoc, ← hbody]
    exact hpre
  have hstartOffset : n.span.start.offset = (pre ++ gap).length := by
    rw [hstart, hfirst, hk, ← Position.after_append, Position.offset_after]
    exact Nat.zero_add _
  have hstopOffset : n.span.stop.offset = (pre ++ gap).length + body.length := by
    rw [hstop, hused.stop hu, hk', hk, ← Position.after_append, Position.offset_after,
      ← List.append_assoc, List.length_append]
    exact Nat.zero_add _
  have hslice : n.span.slice source = .ofList body := by
    rw [Span.slice, Span.length, hstartOffset, hstopOffset, Nat.add_sub_cancel_left, htext,
      List.drop_left, List.take_left]
  refine ⟨?_, ?_⟩
  · rw [hstopOffset, ← String.length_toList, htext]
    simp only [List.length_append]
    omega
  · -- its tokens are those of the node, and the tree over them is read
    obtain ⟨us, m', hus, hsame, hend⟩ :=
      hagain (Lexer.ofQuery (.ofList body)) String.toList_ofList rfl
    obtain ⟨stop, hstopToken, hstopKind⟩ := Lexer.next_of_nil (l := m') (by rw [hend]; rfl)
    obtain ⟨e', hbare, hspell'⟩ := n.exists_spelledBy (hcontents.trans hsame.symm)
    refine ⟨e', ?_, hbare, ?_⟩
    · rw [hslice]
      refine (parseExpression_eq_ok_iff _ _).mpr ⟨us, stop, ?_, Lexer.kind_ne_of_yields hus,
        hstopKind, hspell', .of_bare_eq hbare hcan, ?_⟩
      · exact (Lexer.tokens_eq_ok_iff _ _).mpr ⟨us, m', stop, rfl, hus, hstopToken, hstopKind⟩
      · rw [Expr.need_eq_of_bare_eq hbare]
        exact hneed
    · refine Expr.sameShape_of_forall_eq hbare.symm fun c hc => ?_
      rw [← e'.contents_bare, hbare, n.contents_bare, hcontents] at hc
      obtain ⟨t, ht, rfl⟩ := List.mem_map.mp hc
      exact (hlexed t ht).eq_self

/-- **Spans are faithful.** Every node of a tree that was read stands inside
the text, and the text in its span is read as the same tree but for the
spans. Its children stand inside it, one after another. -/
theorem parseExpression_slice {source : String} {e : Expr} (h : parseExpression source = .ok e) :
    ∀ node ∈ e.nodes,
      (node.2.span.stop.offset ≤ source.length ∧
        ∃ e', parseExpression (node.2.span.slice source) = .ok e' ∧ e'.bare = node.2.bare ∧
          e'.sameShape node.2 = true) ∧
      (∀ c ∈ node.2.children, node.2.span.start.offset ≤ c.span.start.offset ∧
        c.span.stop.offset ≤ node.2.span.stop.offset) ∧
      node.2.children.Pairwise fun a b => a.span.stop.offset ≤ b.span.start.offset := by
  obtain ⟨ts, stop, htokens, -, -, hspell, hcan, hneed⟩ := (parseExpression_eq_ok_iff _ _).mp h
  obtain ⟨m, hyields, -⟩ := contents_of_tokenize htokens hspell
  obtain ⟨horder, -⟩ := hyields.inOrder
  -- every node is a canonical tree of a stretch of the tokens
  have hnodes : ∀ node ∈ e.nodes, ∃ before used after, ts = before ++ (used ++ after) ∧
      node.2.SpelledBy used ∧ node.2.Canonical ∧ node.2.need ≤ Parser.defaultLimit := by
    refine Expr.forall_mem_nodes (P := fun n => ∃ before used after,
      ts = before ++ (used ++ after) ∧ n.SpelledBy used ∧ n.Canonical ∧
        n.need ≤ Parser.defaultLimit) ?_ e ⟨[], ts, [], by simp, hspell, hcan, hneed⟩ 0
    rintro n ⟨before, used, after, rfl, hn, hncan, hnneed⟩ c hc
    obtain ⟨before', used', after', rfl, hspellc⟩ := hn.child c hc
    exact ⟨before ++ before', used', after' ++ after, by simp, hspellc, hncan.child c hc,
      Nat.le_trans (n.need_child_le c hc) hnneed⟩
  rintro ⟨depth, n⟩ hn
  obtain ⟨before, used, after, rfl, hspelln, hcann, hneedn⟩ := hnodes _ hn
  have hused : InOrder used := horder.of_append_right.of_append_left
  refine ⟨parseExpression_slice_of_spelledBy hyields hspelln hcann hneedn, fun c hc => ?_,
    hspelln.children_apart hused⟩
  obtain ⟨before', used', after', rfl, hspellc⟩ := hspelln.child c hc
  exact hspelln.inside hspellc (Expr.subset_stretch before' used' after') hused

/-- In a list of a regular expression and a quotient, a slash opens the one and
not the other, and so it does in the slices. -/
theorem parseExpression_slice_quotient :
    ∃ e, parseExpression "[/'/,'/'/\"'\"]" = .ok e ∧ e.nodes.length = 5 ∧ ∀ node ∈ e.nodes,
      ∃ e', parseExpression (node.2.span.slice "[/'/,'/'/\"'\"]") = .ok e' ∧
        e'.bare = node.2.bare := by
  let place (n : Nat) : Position := ⟨n, 1, n + 1⟩
  let quotient : Expr := .binary (.arithmetic .divide) (.literal (.string "/") ⟨place 5, place 8⟩)
    (.literal (.string "'") ⟨place 9, place 12⟩) ⟨place 5, place 12⟩
  let both : Expr :=
    .list [.literal (.regex "'") ⟨place 1, place 4⟩, quotient] ⟨place 0, place 13⟩
  have hread : parseExpression "[/'/,'/'/\"'\"]" = .ok both := by cbv
  refine ⟨both, hread, rfl, fun node hnode => ?_⟩
  obtain ⟨⟨-, e', hslice, hbare, -⟩, -⟩ := parseExpression_slice hread node hnode
  exact ⟨e', hslice, hbare⟩

end CardQuery
