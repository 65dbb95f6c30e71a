import CardQuery.Proofs.Text.Unmarking

/-!
# Case and blanks

To put a text in lowercase and to drop the blanks around it are two steps, and it does not matter
which one comes first (`lowercase_trim`), although a capital sigma looks at what stands around it:
blanks have no case, so a word ends where the text around it is blank just as it ends where there
is nothing more. Neither step does anything when it is taken again.
-/

namespace CardQuery.Text

/-! ## Blanks in lowercase -/

/-- The check of the blanks: lowercasing does not move them, and they are not cased. -/
theorem blanks_caseless : (blankCodes.all fun n =>
    (shiftCode lowercaseShifts n).beq n && !tableHolds casedTable n) = true := by
  decide +kernel

/-- **A blank stays in lowercase.** -/
theorem isSmall_of_isBlank {c : Char} (h : isBlank c = true) : IsSmall c := by
  have hstays := List.all_eq_true.mp blanks_caseless _ (mem_blankCodes h)
  rw [Bool.and_eq_true, Nat.beq_eq] at hstays
  have hne : ∀ {d : Char}, isBlank d = false → c ≠ d := by
    rintro d hd rfl
    exact Bool.noConfusion (hd.symm.trans h)
  refine ⟨hne (by decide), ?_⟩
  rw [lowercaseChar, if_neg (hne (by decide)), shiftChar, hstays.1, Char.ofNat_toNat]

theorem not_cased_of_isBlank {c : Char} (h : isBlank c = true) : inTable casedTable c = false := by
  have hstays := List.all_eq_true.mp blanks_caseless _ (mem_blankCodes h)
  rw [Bool.and_eq_true, Bool.not_eq_true'] at hstays
  exact hstays.2

/-- **Blanks at the end of a text hide no cased character.** -/
theorem meetsCased_append_run {ys : List Char} (h : IsRun ys) (xs : List Char) :
    meetsCased (xs ++ ys) = meetsCased xs := by
  rw [meetsCased, meetsCased, List.dropWhile_append]
  cases hxs : xs.dropWhile (inTable caseIgnorableTable) with
  | cons c rest => rfl
  | nil =>
    -- what is left of the blanks is nothing or starts with a blank
    rw [List.isEmpty_nil, if_pos rfl]
    cases hys : ys.dropWhile (inTable caseIgnorableTable) with
    | nil => rfl
    | cons c rest =>
      have hc : c ∈ ys := (List.dropWhile_sublist _).subset (hys ▸ List.mem_cons_self)
      exact not_cased_of_isBlank (h c hc)

/-- Blanks at the start of a text do not matter to what follows them. -/
theorem lowercaseAfter_before_run {xs : List Char} (h : IsRun xs) (before cs : List Char) :
    lowercaseAfter (before ++ xs) cs = lowercaseAfter before cs := by
  induction cs generalizing before with
  | nil => rfl
  | cons c cs ih =>
    rw [lowercaseAfter, lowercaseAfter, meetsCased_append_run h, ← List.cons_append, ih]

/-- Blanks at the end of a text stay, and do not matter to what stands before them. -/
theorem lowercaseAfter_append_run {ys : List Char} (h : IsRun ys) (before cs : List Char) :
    lowercaseAfter before (cs ++ ys) = lowercaseAfter before cs ++ ys := by
  induction cs generalizing before with
  | nil => exact lowercaseAfter_eq_self fun c hc => isSmall_of_isBlank (h c hc)
  | cons c cs ih =>
    rw [List.cons_append, lowercaseAfter, lowercaseAfter, meetsCased_append_run h, ih,
      List.append_assoc]

theorem lowercaseAfter_run_append {xs : List Char} (h : IsRun xs) (before cs : List Char) :
    lowercaseAfter before (xs ++ cs) = xs ++ lowercaseAfter (xs.reverse ++ before) cs := by
  induction xs generalizing before with
  | nil => rfl
  | cons c xs ih =>
    obtain ⟨hc, hxs⟩ := List.forall_mem_cons.mp h
    obtain ⟨hsigma, hlower⟩ := isSmall_of_isBlank hc
    rw [List.cons_append, lowercaseAfter, if_neg hsigma, hlower, ih hxs, List.reverse_cons,
      List.append_assoc]
    rfl

/-- **A text between blanks is put in lowercase as it is without them.** -/
theorem lowercaseAfter_between_runs {xs ys : List Char} (hxs : IsRun xs) (hys : IsRun ys)
    (cs : List Char) :
    lowercaseAfter [] (xs ++ cs ++ ys) = xs ++ lowercaseAfter [] cs ++ ys := by
  have hrun : IsRun xs.reverse := fun c hc => hxs c (List.mem_reverse.mp hc)
  rw [lowercaseAfter_append_run hys, lowercaseAfter_run_append hxs, List.append_nil,
    ← List.nil_append xs.reverse, lowercaseAfter_before_run hrun]

/-! ## What is no blank -/

/-- What stands in lowercase for a character that is no blank holds no blank. -/
theorem exists_lowercaseAfter_cons (before : List Char) {c : Char} (hc : isBlank c = false)
    (rest : List Char) : ∃ d more, lowercaseAfter before (c :: rest)
      = (d :: more) ++ lowercaseAfter (c :: before) rest ∧
        ∀ x ∈ d :: more, isBlank x = false := by
  obtain ⟨d, dots, hlower, -, hkind, hdots⟩ := lowercaseAfter_cons before c rest
  refine ⟨d, dots, hlower, List.forall_mem_cons.mpr ⟨?_, fun x hx => ?_⟩⟩
  · rcases hkind with hletter | rfl
    · exact isBlank_of_isLetter hletter
    · exact hc
  · rw [hdots x hx]
    decide

/-- **A text without blanks at its ends has none there in lowercase.** -/
theorem Trimmed.lowercaseAfter {cs : List Char} (h : Trimmed cs) (before : List Char) :
    Trimmed (lowercaseAfter before cs) := by
  refine ⟨?_, ?_⟩
  · cases cs with
    | nil => exact fun c hc => by cases hc
    | cons c rest =>
      obtain ⟨d, more, hlower, hsolid⟩ := exists_lowercaseAfter_cons before (h.first c rfl) rest
      rw [hlower]
      rintro _ ⟨⟩
      exact hsolid d List.mem_cons_self
  · replace h := h.last
    induction cs generalizing before with
    | nil => exact fun c hc => by cases hc
    | cons c rest ih =>
      cases rest with
      | nil =>
        obtain ⟨d, more, hlower, hsolid⟩ := exists_lowercaseAfter_cons before (h c rfl) []
        rw [hlower, Text.lowercaseAfter, List.append_nil]
        exact fun x hx => hsolid x (List.mem_of_getLast? hx)
      | cons c' rest =>
        obtain ⟨d, dots, hlower, -⟩ := lowercaseAfter_cons before c (c' :: rest)
        obtain ⟨d', dots', hrest, -⟩ := lowercaseAfter_cons (c :: before) c' rest
        have hlast := ih (c :: before) (by rwa [List.getLast?_cons_cons] at h)
        rw [hlower, ← List.cons_append, List.getLast?_append_of_ne_nil _ (by rw [hrest]; simp)]
        exact hlast

/-! ## Texts -/

/-- **To put a text in lowercase twice is to do it once.** -/
theorem lowercase_lowercase (s : String) : lowercase (lowercase s) = lowercase s := by
  rw [lowercase.eq_1 s]
  refine lowercase_eq_self fun d hd => ?_
  rcases mem_lowercaseAfter hd with rfl | ⟨hsmall, -⟩
  · unfold IsSmall
    decide
  · exact hsmall

theorem trim_trim (s : String) : trim (trim s) = trim s := by
  rw [trim.eq_1 s, trim, String.toList_ofList, trimChars_of_trimmed (trimmed_trimChars _)]

/-- **Blanks around a text may be dropped before or after it is put in lowercase.** -/
theorem lowercase_trim (s : String) : lowercase (trim s) = trim (lowercase s) := by
  obtain ⟨xs, ys, hs, hxs, hys⟩ := exists_trimChars s.toList
  have htrimmed := (trimmed_trimChars s.toList).lowercaseAfter []
  rw [trim, lowercase, trim, lowercase, String.toList_ofList, String.toList_ofList]
  congr 1
  conv_rhs => rw [hs]
  rw [lowercaseAfter_between_runs hxs hys, trimChars_append_blanks hys,
    trimChars_blanks_append hxs, trimChars_of_trimmed htrimmed]

/-- A string with a character that is no blank has something left of it. -/
theorem trim_ne_empty {s : String} (h : ∃ c ∈ s.toList, isBlank c = false) : trim s ≠ "" := by
  intro hempty
  obtain ⟨c, hc, hsolid⟩ := h
  have hnil : trimChars s.toList = [] := by
    rw [← String.toList_ofList (l := trimChars s.toList), ← trim, hempty]
    rfl
  exact Bool.noConfusion (hsolid.symm.trans (isBlank_of_trimChars_eq_nil hnil c hc))

theorem lowercase_ne_empty {s : String} (h : s ≠ "") : lowercase s ≠ "" := by
  obtain ⟨c, rest, hs⟩ := List.exists_cons_of_ne_nil (mt String.toList_eq_nil_iff.mp h)
  obtain ⟨d, dots, hlower, -⟩ := lowercaseAfter_cons [] c rest
  rw [Ne, ← String.toList_eq_nil_iff, lowercase, String.toList_ofList, hs, hlower]
  exact List.cons_ne_nil _ _

end CardQuery.Text
