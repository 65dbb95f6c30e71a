import CardQuery.Proofs.Query.Slicing

/-!
# Call after call

A lexer may be asked any number of times, past faults and past the end. Every
call skips blanks and then takes some characters, for a token or for a fault,
unless none are left (`Lexer.Call`). Nothing else moves a lexer, so all the
time it stands behind what it has taken and in front of what is left
(`Lexer.StandsIn`), at the line and the column that the text before it gives
(`Position.IsIn`).

Everything a caller may rely on is read off one call and carried along any
number of them: lexemes are stretches of the text, spans follow one another,
and since every call but the last ones takes something, the end comes after
no more calls than there are characters, and then at every call.
-/

namespace CardQuery

/-! ## Lines and columns -/

namespace Position

/-- **Whether a place is one of a text**: on the line after as many newlines as
stand before it, and in the column after as many characters as stand between
it and the last of them. -/
structure IsIn (source : String) (p : Position) : Prop where
  offset : p.offset ≤ source.toList.length
  line : p.line = 1 + (source.toList.take p.offset).count '\n'
  column : p.column = 1 + ((source.toList.take p.offset).reverse.takeWhile (· ≠ '\n')).length

theorem line_after (p : Position) (cs : List Char) :
    (p.after cs).line = p.line + cs.count '\n' := by
  induction cs generalizing p with
  | nil => rfl
  | cons c cs ih =>
    rw [after_cons, ih, step]
    by_cases hc : c = '\n'
    · subst hc
      rw [if_pos rfl, List.count_cons_self]
      show p.line + 1 + cs.count '\n' = p.line + (cs.count '\n' + 1)
      omega
    · rw [if_neg hc, List.count_cons_of_ne hc]

/-- The column, of a text that is told from its end. -/
theorem column_after_reverse (cs : List Char) :
    (start.after cs.reverse).column = 1 + (cs.takeWhile (· ≠ '\n')).length := by
  induction cs with
  | nil => rfl
  | cons c cs ih =>
    rw [List.reverse_cons, after_append, after_cons, after_nil, step]
    by_cases hc : c = '\n'
    · rw [if_pos hc, List.takeWhile_cons_of_neg (by simpa using hc)]
      rfl
    · rw [if_neg hc, List.takeWhile_cons_of_pos (by simpa using hc), List.length_cons,
        ← Nat.add_assoc, ← ih]

/-- **Places that are reached along a text are places of it.** -/
theorem isIn_after {source : String} {before rest : List Char}
    (h : before ++ rest = source.toList) : (start.after before).IsIn source := by
  have hoffset : (start.after before).offset = before.length :=
    (offset_after start before).trans (Nat.zero_add _)
  have htake : source.toList.take (start.after before).offset = before := by
    rw [hoffset, ← h, List.take_left]
  refine ⟨?_, ?_, ?_⟩
  · rw [hoffset, ← h, List.length_append]
    omega
  · rw [htake, line_after]
    rfl
  · rw [htake, ← column_after_reverse, List.reverse_reverse]

end Position

/-- The text between two places that are reached along it. -/
theorem Span.slice_after {source : String} {before taken rest : List Char}
    (h : before ++ (taken ++ rest) = source.toList) :
    (Span.mk (.after .start before) (.after .start (before ++ taken))).slice source
      = .ofList taken := by
  have hoffset : ∀ cs, (Position.start.after cs).offset = cs.length := fun cs =>
    (Position.offset_after .start cs).trans (Nat.zero_add _)
  rw [slice, length, hoffset, hoffset, List.length_append, Nat.add_sub_cancel_left, ← h,
    List.drop_left, List.take_left]

namespace Lexer

/-! ## One call -/

/-- **Whether a lexer stands in a text**: behind what it has taken, and in front
of what is left. -/
def StandsIn (source : String) (l : Lexer) : Prop :=
  ∃ before, before ++ l.rest = source.toList ∧ l.position = .after .start before

theorem standsIn_ofQuery (source : String) : (ofQuery source).StandsIn source :=
  ⟨[], rfl, rfl⟩

theorem StandsIn.isIn {source : String} {l : Lexer} (h : l.StandsIn source) :
    l.position.IsIn source := by
  obtain ⟨before, htext, hposition⟩ := h
  rw [hposition]
  exact Position.isIn_after htext

/-- Where what a call gives is: a token starts there, and a fault shows
there. -/
def place : Except LexError Token → Position
  | .ok t => t.span.start
  | .error e => e.position

/-- How far what a call gives goes. Of a fault only the place is told. -/
def reach : Except LexError Token → Position
  | .ok t => t.span.stop
  | .error e => e.position

/-- Whether a call gives the end. -/
def IsEnd (r : Except LexError Token) : Prop := ∃ t, r = .ok t ∧ t.kind = .eof

/-- **What a call does** that gives a result and leaves another lexer: it skips
blanks, and takes some characters unless it gives the end. -/
structure Call (l : Lexer) (r : Except LexError Token) (m : Lexer) (gap lexeme : List Char) :
    Prop where
  text : l.rest = gap ++ (lexeme ++ m.rest)
  blank : ∀ c ∈ gap, isGap c = true
  position : m.position = l.position.after (gap ++ lexeme)
  place : place r = l.position.after gap
  token : ∀ t, r = .ok t → t.lexeme = .ofList lexeme ∧ t.span.stop = m.position
  taken : ¬ IsEnd r → lexeme ≠ []
  ended : IsEnd r → m.rest = [] ∧ r = .ok (.eofAt m.position)

/-- At the end a lexer gives the end where it stands past the blanks. -/
theorem next_eq_stop {l : Lexer} (h : l.rest.dropWhile isGap = []) :
    l.next =
      let stop := l.position.after (l.rest.takeWhile isGap)
      (.ok (.eofAt stop), ⟨[], stop, some .eof⟩) := by
  unfold next
  dsimp only
  rw [show l.skipGaps.rest = [] from h]
  rfl

/-- A fault takes the faulty characters, and leaves the last kind as it was. -/
theorem next_eq_fault {l : Lexer} {first : Char} {rest : List Char}
    (h : l.rest.dropWhile isGap = first :: rest) {fault : LexFault}
    (hc : (cut l.valueFollows first rest).outcome = .error fault) :
    l.next =
      let start := l.position.after (l.rest.takeWhile isGap)
      let taken := cut l.valueFollows first rest
      (.error ⟨fault, start⟩, ⟨taken.rest, start.after taken.lexeme, l.previous⟩) := by
  have hc' : (cut l.skipGaps.valueFollows first rest).outcome = .error fault := hc
  unfold next
  dsimp only
  rw [show l.skipGaps.rest = first :: rest from h]
  dsimp only
  rw [hc']
  rfl

theorem exists_call (l : Lexer) : ∃ gap lexeme, Call l l.next.1 l.next.2 gap lexeme := by
  have hblank : ∀ c ∈ l.rest.takeWhile isGap, isGap c = true := fun c hc =>
    List.all_eq_true.mp List.all_takeWhile c hc
  have htext : l.rest = l.rest.takeWhile isGap ++ l.rest.dropWhile isGap :=
    List.takeWhile_append_dropWhile.symm
  match hrest : l.rest.dropWhile isGap with
  | [] =>
    rw [hrest] at htext
    refine ⟨l.rest.takeWhile isGap, [], ?_⟩
    rw [next_eq_stop hrest]
    exact {
      text := htext
      blank := hblank
      position := by rw [List.append_nil]
      place := rfl
      token := by rintro t ⟨⟩; exact ⟨rfl, rfl⟩
      taken := fun h => absurd ⟨_, rfl, rfl⟩ h
      ended := fun _ => ⟨rfl, rfl⟩ }
  | first :: rest =>
    have htext : l.rest = l.rest.takeWhile isGap ++ ((cut l.valueFollows first rest).lexeme
        ++ (cut l.valueFollows first rest).rest) := by
      rw [lexeme_append_rest, ← hrest, ← htext]
    have htaken := lexeme_ne_nil l.valueFollows first rest
    have hposition := (Position.after_append l.position (l.rest.takeWhile isGap)
      (cut l.valueFollows first rest).lexeme).symm
    refine ⟨l.rest.takeWhile isGap, (cut l.valueFollows first rest).lexeme, ?_⟩
    match houtcome : (cut l.valueFollows first rest).outcome with
    | .ok (kind, value) =>
      rw [next_eq hrest houtcome]
      exact {
        text := htext
        blank := hblank
        position := hposition
        place := rfl
        token := by rintro t ⟨⟩; exact ⟨rfl, rfl⟩
        taken := fun _ => htaken
        ended := by
          rintro ⟨_, ⟨⟩, hkind⟩
          exact absurd hkind (Content.lexed_of_cut houtcome).1.kind_ne_eof }
    | .error fault =>
      rw [next_eq_fault hrest houtcome]
      exact {
        text := htext
        blank := hblank
        position := hposition
        place := rfl
        token := by rintro t ⟨⟩
        taken := fun _ => htaken
        ended := by rintro ⟨_, ⟨⟩, -⟩ }

/-! ## What a call tells -/

end Lexer

/-- **Whether there is nothing but blanks in a span.** -/
def Span.IsBlank (s : Span) (source : String) : Prop :=
  ∀ c ∈ (s.slice source).toList, c = ' ' ∨ c = '\t' ∨ c = '\r' ∨ c = '\n'

namespace Lexer

theorem eq_or_of_isGap {c : Char} (h : isGap c = true) :
    c = ' ' ∨ c = '\t' ∨ c = '\r' ∨ c = '\n' := by
  simpa [isGap, or_assoc] using h

/-- **What is known of what a call gives**: its places are places of the text, a
lexeme is what stands in its span, and only the end is empty. -/
structure Reported (source : String) (r : Except LexError Token) : Prop where
  place : (place r).IsIn source
  reach : (reach r).IsIn source
  lexeme : ∀ t, r = .ok t → t.lexeme = t.span.slice source
  nonempty : ∀ t, r = .ok t → t.kind ≠ .eof → t.span.start.offset < t.span.stop.offset

/-- A call goes forward: to a place, then as far as what it gives goes, and to
where it leaves the lexer. -/
theorem next_forward (l : Lexer) :
    l.position.offset ≤ (place l.next.1).offset ∧
      (place l.next.1).offset ≤ (reach l.next.1).offset ∧
      (reach l.next.1).offset ≤ l.next.2.position.offset := by
  obtain ⟨gap, lexeme, hcall⟩ := l.exists_call
  have hplace := congrArg Position.offset hcall.place
  have hposition := congrArg Position.offset hcall.position
  rw [Position.offset_after] at hplace hposition
  rw [List.length_append] at hposition
  match hr : l.next.1 with
  | .ok t =>
    rw [hr] at hplace
    rw [show reach (.ok t) = _ from (hcall.token t hr).2]
    omega
  | .error e =>
    rw [hr] at hplace
    show _ ∧ (place (.error e)).offset ≤ (place (.error e)).offset ∧
      (place (.error e)).offset ≤ _
    omega

/-- **A call that does not give the end takes something.** -/
theorem offset_lt_next {l : Lexer} (h : ¬ IsEnd l.next.1) :
    l.position.offset < l.next.2.position.offset := by
  obtain ⟨gap, lexeme, hcall⟩ := l.exists_call
  have hlength := List.length_pos_iff.mpr (hcall.taken h)
  rw [hcall.position, Position.offset_after, List.length_append]
  omega

section StandsIn

variable {source : String} {l : Lexer}

theorem StandsIn.next (h : l.StandsIn source) : l.next.2.StandsIn source := by
  obtain ⟨before, hbefore, hposition⟩ := h
  obtain ⟨gap, lexeme, hcall⟩ := l.exists_call
  refine ⟨before ++ (gap ++ lexeme), ?_, ?_⟩
  · rw [← hbefore, hcall.text, List.append_assoc, List.append_assoc]
  · rw [hcall.position, hposition, ← Position.after_append]

theorem StandsIn.reported (h : l.StandsIn source) : Reported source l.next.1 := by
  have hnext := h.next.isIn
  obtain ⟨before, hbefore, hposition⟩ := h
  obtain ⟨gap, lexeme, hcall⟩ := l.exists_call
  have hplace : place l.next.1 = .after .start (before ++ gap) := by
    rw [hcall.place, hposition, Position.after_append]
  have hstop : l.next.2.position = .after .start ((before ++ gap) ++ lexeme) := by
    rw [hcall.position, hposition, ← Position.after_append, List.append_assoc]
  have htext : (before ++ gap) ++ (lexeme ++ l.next.2.rest) = source.toList := by
    rw [← hbefore, hcall.text, List.append_assoc]
  have hisIn : (place l.next.1).IsIn source := by
    rw [hplace]
    exact Position.isIn_after htext
  refine ⟨hisIn, ?_, ?_, ?_⟩
  · match hr : l.next.1 with
    | .ok t =>
      rw [show reach (.ok t) = _ from (hcall.token t hr).2]
      exact hnext
    | .error e =>
      rw [hr] at hisIn
      exact hisIn
  · intro t ht
    obtain ⟨hlexeme, htstop⟩ := hcall.token t ht
    rw [ht] at hplace
    have hspan : t.span
        = ⟨.after .start (before ++ gap), .after .start ((before ++ gap) ++ lexeme)⟩ := by
      rw [← hstop, ← htstop, ← hplace]
      rfl
    rw [hlexeme, hspan, Span.slice_after htext]
  · intro t ht hkind
    have hlength := List.length_pos_iff.mpr (hcall.taken (by
      rintro ⟨t', ht', hk⟩
      obtain rfl : t = t' := Except.ok.inj (ht.symm.trans ht')
      exact hkind hk))
    have hstart := congrArg Position.offset hcall.place
    rw [ht, Position.offset_after] at hstart
    rw [(hcall.token t ht).2, hcall.position, Position.offset_after, List.length_append,
      show t.span.start.offset = _ from hstart]
    omega

/-- Up to where a call gives something there are blanks only. -/
theorem StandsIn.isBlank (h : l.StandsIn source) :
    (Span.mk l.position (place l.next.1)).IsBlank source := by
  obtain ⟨before, hbefore, hposition⟩ := h
  obtain ⟨gap, lexeme, hcall⟩ := l.exists_call
  have htext : before ++ (gap ++ (lexeme ++ l.next.2.rest)) = source.toList := by
    rw [← hbefore, hcall.text]
  intro c hc
  rw [hcall.place, hposition, ← Position.after_append, Span.slice_after htext,
    String.toList_ofList] at hc
  exact eq_or_of_isGap (hcall.blank c hc)

end StandsIn

/-! ## Any number of calls -/

theorem nextMany_succ (n : Nat) (l : Lexer) :
    l.nextMany (n + 1) = (l.next.1 :: (l.next.2.nextMany n).1, (l.next.2.nextMany n).2) := rfl

section Runs

variable {source : String} {l : Lexer}

theorem StandsIn.nextMany (h : l.StandsIn source) (n : Nat) :
    (l.nextMany n).2.StandsIn source := by
  induction n generalizing l with
  | zero => exact h
  | succ n ih => exact ih h.next

theorem StandsIn.reported_of_mem (h : l.StandsIn source) (n : Nat) :
    ∀ r ∈ (l.nextMany n).1, Reported source r := by
  induction n generalizing l with
  | zero => exact List.forall_mem_nil _
  | succ n ih =>
    rw [nextMany_succ]
    exact List.forall_mem_cons.mpr ⟨h.reported, ih h.next⟩

theorem offset_le_place (l : Lexer) (n : Nat) :
    ∀ r ∈ (l.nextMany n).1, l.position.offset ≤ (place r).offset := by
  induction n generalizing l with
  | zero => exact List.forall_mem_nil _
  | succ n ih =>
    obtain ⟨hplace, hreach, hnext⟩ := l.next_forward
    rw [nextMany_succ]
    refine List.forall_mem_cons.mpr ⟨hplace, fun r hr => ?_⟩
    have hle := ih l.next.2 r hr
    omega

/-- **What is given later is further on.** -/
theorem pairwise_nextMany (l : Lexer) (n : Nat) :
    (l.nextMany n).1.Pairwise fun r s => (reach r).offset ≤ (place s).offset := by
  induction n generalizing l with
  | zero => exact .nil
  | succ n ih =>
    rw [nextMany_succ]
    refine .cons (fun s hs => ?_) (ih l.next.2)
    exact Nat.le_trans l.next_forward.2.2 (offset_le_place l.next.2 n s hs)

/-- **Between a token and what is given next there are blanks only.** -/
theorem StandsIn.isChain_nextMany (h : l.StandsIn source) (n : Nat) :
    (l.nextMany n).1.IsChain fun r s =>
      ∀ t, r = .ok t → (Span.mk t.span.stop (place s)).IsBlank source := by
  induction n generalizing l with
  | zero => exact .nil
  | succ n ih =>
    rw [nextMany_succ]
    match n with
    | 0 => exact .singleton _
    | n + 1 =>
      have hrest := ih h.next
      rw [nextMany_succ] at hrest ⊢
      refine .cons_cons (fun t ht => ?_) hrest
      obtain ⟨gap, lexeme, hcall⟩ := l.exists_call
      rw [(hcall.token t ht).2]
      exact h.next.isBlank

/-- Where nothing is left every call gives the end. -/
theorem nextMany_of_nil (h : l.rest = []) (n : Nat) :
    (l.nextMany n).1 = List.replicate n (.ok (.eofAt l.position)) := by
  induction n generalizing l with
  | zero => rfl
  | succ n ih =>
    have hnext : l.next = (.ok (.eofAt l.position), ⟨[], l.position, some .eof⟩) := by
      rw [next_eq_stop (by rw [h]; rfl), h]
      rfl
    rw [nextMany_succ, hnext, ih rfl, List.replicate_succ]

/-- **The end comes after no more calls than there are characters left**, and
then at every call. -/
theorem exists_nextMany_eq (l : Lexer) :
    ∃ before : List (Except LexError Token), before.length ≤ l.rest.length ∧
      (∀ r ∈ before, ¬ IsEnd r) ∧
      ∀ n, (l.nextMany n).1 = before.take n
        ++ List.replicate (n - before.length) (.ok (.eofAt (l.position.after l.rest))) := by
  -- by what is left, which every call that does not give the end shortens
  induction hk : l.rest.length using Nat.strongRecOn generalizing l with
  | ind k ih =>
    obtain ⟨gap, lexeme, hcall⟩ := l.exists_call
    have hlast : l.next.2.position.after l.next.2.rest = l.position.after l.rest := by
      rw [hcall.position, hcall.text, ← Position.after_append, List.append_assoc]
    have hlength := congrArg List.length hcall.text
    rw [List.length_append, List.length_append] at hlength
    by_cases hend : IsEnd l.next.1
    · obtain ⟨hnil, hstop⟩ := hcall.ended hend
      rw [hnil, Position.after_nil] at hlast
      refine ⟨[], Nat.zero_le _, List.forall_mem_nil _, fun n => ?_⟩
      rw [List.take_nil, List.nil_append, List.length_nil, Nat.sub_zero, ← hlast]
      cases n with
      | zero => rfl
      | succ n => rw [nextMany_succ, nextMany_of_nil hnil, hstop, List.replicate_succ]
    · have htaken := List.length_pos_iff.mpr (hcall.taken hend)
      obtain ⟨before, hbefore, hnot, hcalls⟩ := ih l.next.2.rest.length (by omega) l.next.2 rfl
      refine ⟨l.next.1 :: before, ?_, List.forall_mem_cons.mpr ⟨hend, hnot⟩, fun n => ?_⟩
      · rw [List.length_cons]
        omega
      · cases n with
        | zero => rw [List.take_zero, Nat.zero_sub]; rfl
        | succ n =>
          rw [nextMany_succ, hcalls, hlast, List.take_succ_cons, List.length_cons,
            Nat.add_sub_add_right, List.cons_append]

/-- The calls that give some tokens, and those after them. -/
theorem Yields.nextMany_add {m : Lexer} {ts : List Token} (h : Yields l ts m) (n : Nat) :
    (l.nextMany (ts.length + n)).1 = ts.map .ok ++ (m.nextMany n).1 := by
  induction h with
  | refl l => rw [List.length_nil, Nat.zero_add]; rfl
  | @step l m t ts ht hk rest ih =>
    rw [List.length_cons, Nat.add_right_comm, nextMany_succ, ih, ht]
    rfl

end Runs

/-- **The tokens of a text are what as many calls give**, the last of which gives
the end. -/
theorem nextMany_of_tokens {l : Lexer} {given : List Token} (h : l.tokens = .ok given) :
    (l.nextMany given.length).1 = given.map .ok ∧
      ∃ ts stop, given = ts ++ [stop] ∧ (∀ t ∈ ts, t.kind ≠ .eof) ∧ stop.kind = .eof := by
  obtain ⟨ts, m, stop, rfl, hyields, hstop, hk⟩ := (tokens_eq_ok_iff l given).mp h
  refine ⟨?_, ts, stop, rfl, kind_ne_of_yields hyields, hk⟩
  rw [List.length_append, List.length_singleton, hyields.nextMany_add, nextMany_succ, hstop,
    List.map_append]
  rfl

/-- **What a lexer reports, call after call.** Of any number of calls, every
lexeme is what stands in its span, spans follow one another, only the end is
empty, and every place, of tokens, of faults and of the lexer itself, is one
of the text. A call that does not give the end takes at least one character,
so after no more calls than there are characters every call gives the same
empty end, where the text ends. If all calls up to the first end give tokens,
these are the tokens of the text: one end, the last of them, and blanks only
before and between them. -/
theorem nextMany_reports (source : String) :
    (∀ n, let calls := (ofQuery source).nextMany n
      (∀ t, .ok t ∈ calls.1 → t.lexeme = t.span.slice source ∧ t.span.start.IsIn source ∧
        t.span.stop.IsIn source ∧ (t.kind ≠ .eof → t.span.start.offset < t.span.stop.offset)) ∧
      (∀ e, .error e ∈ calls.1 → e.position.IsIn source) ∧
      (calls.1.Pairwise fun r s => (reach r).offset ≤ (place s).offset) ∧
      calls.2.position.IsIn source ∧
      (¬ IsEnd calls.2.next.1 → calls.2.position.offset < calls.2.next.2.position.offset)) ∧
    (∃ (before : List (Except LexError Token)) (stop : Position),
      before.length ≤ source.length ∧ (∀ r ∈ before, ¬ IsEnd r) ∧
      stop.offset = source.length ∧ stop.IsIn source ∧
      ∀ n, ((ofQuery source).nextMany n).1
        = before.take n ++ List.replicate (n - before.length) (.ok (.eofAt stop))) ∧
    ∀ tokens, tokenize source = .ok tokens →
      ((ofQuery source).nextMany tokens.length).1 = tokens.map .ok ∧
      (∃ ts stop, tokens = ts ++ [stop] ∧ (∀ t ∈ ts, t.kind ≠ .eof) ∧ stop.kind = .eof) ∧
      (∀ t ∈ tokens.head?, (Span.mk .start t.span.start).IsBlank source) ∧
      tokens.IsChain fun t u => (Span.mk t.span.stop u.span.start).IsBlank source := by
  have hstart := standsIn_ofQuery source
  have hlength : source.toList.length = source.length := String.length_toList
  refine ⟨fun n => ⟨fun t ht => ?_, fun e he => ?_, pairwise_nextMany _ n,
    (hstart.nextMany n).isIn, offset_lt_next⟩, ?_, fun tokens htokens => ?_⟩
  · obtain ⟨hplace, hreach, hlexeme, hnonempty⟩ := hstart.reported_of_mem n _ ht
    exact ⟨hlexeme t rfl, hplace, hreach, hnonempty t rfl⟩
  · exact (hstart.reported_of_mem n _ he).place
  · obtain ⟨before, hbefore, hnot, hcalls⟩ := (ofQuery source).exists_nextMany_eq
    refine ⟨before, _, hlength ▸ hbefore, hnot, ?_, ?_, hcalls⟩
    · rw [Position.offset_after, ← hlength]
      exact Nat.zero_add _
    · exact Position.isIn_after (List.append_nil _)
  · obtain ⟨hcalls, hends⟩ := nextMany_of_tokens htokens
    have hchain := hstart.isChain_nextMany tokens.length
    rw [hcalls, List.isChain_map] at hchain
    refine ⟨hcalls, hends, fun t ht => ?_, hchain.imp fun t u h => h t rfl⟩
    obtain ⟨rest, rfl⟩ := List.head?_eq_some_iff.mp ht
    rw [List.length_cons, nextMany_succ] at hcalls
    have hfirst : place (ofQuery source).next.1 = t.span.start :=
      congrArg place (List.cons.inj hcalls).1
    exact hfirst ▸ hstart.isBlank

end Lexer

end CardQuery
