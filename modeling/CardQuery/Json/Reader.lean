import CardQuery.Json.Written

/-!
# Reading JSON

A JSON text is cut into pieces (punctuation, words, numbers and strings),
and a small machine puts the pieces together. The machine keeps the
containers that are still open in a list, so that nesting costs it nothing,
and every piece is one step.

The grammar is the strict one: no comments, no comma after the last item, no
raw control character in a string, no leading zeros.
-/

namespace CardQuery

namespace JsonReader

/-! ## Strings -/

/-- A part of a string: a character, or a unit of sixteen bits written in
hexadecimal. -/
inductive StringPart where
  | char (c : Char)
  | unit (n : Nat)

/-- The value of a hexadecimal digit. -/
def hexValue? (c : Char) : Option Nat :=
  if Number.isDigit c then some (Number.digitValue c)
  else if 'a' ≤ c ∧ c ≤ 'f' then some (c.toNat - 'a'.toNat + 10)
  else if 'A' ≤ c ∧ c ≤ 'F' then some (c.toNat - 'A'.toNat + 10)
  else none

/-- The value of four hexadecimal digits. -/
def unitValue? (a b c d : Char) : Option Nat := do
  return (((← hexValue? a) * 16 + (← hexValue? b)) * 16 + (← hexValue? c)) * 16 + (← hexValue? d)

/-- The character that a backslash and a letter write. -/
def escaped? : Char → Option Char
  | '"' => some '"'
  | '\\' => some '\\'
  | '/' => some '/'
  | 'b' => some '\x08'
  | 'f' => some '\x0c'
  | 'n' => some '\n'
  | 'r' => some '\r'
  | 't' => some '\t'
  | _ => none

/-- The parts of a string up to the closing quotation mark, and what follows
it. -/
def cutString : List Char → Option (List StringPart × List Char)
  | [] => none
  | '"' :: rest => some ([], rest)
  | '\\' :: 'u' :: a :: b :: c :: d :: rest => do
    let n ← unitValue? a b c d
    let (parts, after) ← cutString rest
    return (.unit n :: parts, after)
  | '\\' :: c :: rest => do
    let c ← escaped? c
    let (parts, after) ← cutString rest
    return (.char c :: parts, after)
  | c :: rest =>
    if c = '\\' ∨ c.toNat < 0x20 then none
    else do
      let (parts, after) ← cutString rest
      return (.char c :: parts, after)

/-- **The text that the parts of a string make.** Two units that form a pair
make one character, and no unit of a pair may stand alone. -/
def text? : List StringPart → Option (List Char)
  | [] => some []
  | .char c :: rest => (text? rest).map (c :: ·)
  | .unit high :: .unit low :: rest =>
    if 0xD800 ≤ high ∧ high < 0xDC00 then
      if 0xDC00 ≤ low ∧ low < 0xE000 then
        (text? rest).map (Char.ofNat (0x10000 + (high - 0xD800) * 0x400 + (low - 0xDC00)) :: ·)
      else none
    else if 0xDC00 ≤ high ∧ high < 0xE000 then none
    else (text? (.unit low :: rest)).map (Char.ofNat high :: ·)
  | .unit n :: rest =>
    if 0xD800 ≤ n ∧ n < 0xE000 then none
    else (text? rest).map (Char.ofNat n :: ·)

/-! ## Pieces -/

/-- **The pieces of a JSON text.** -/
inductive Piece where
  | openArray
  | closeArray
  | openObject
  | closeObject
  | comma
  | colon
  | string (s : Option String)
  /-- A value that is neither a string nor a container. -/
  | scalar (v : Written)

/-- The blanks of JSON. -/
def isGap (c : Char) : Bool := c == ' ' || c == '\t' || c == '\n' || c == '\r'

/-- The digits before the point, of which a zero stands alone. -/
def cutWhole : List Char → Option (List Char × List Char)
  | '0' :: rest => some (['0'], rest)
  | cs =>
    if (cs.takeWhile Number.isDigit).isEmpty then none
    else some (cs.takeWhile Number.isDigit, cs.dropWhile Number.isDigit)

/-- The point and the digits after it, of which there has to be one. -/
def cutFraction : List Char → Option (Option (List Char) × List Char)
  | '.' :: rest =>
    if (rest.takeWhile Number.isDigit).isEmpty then none
    else some (some (rest.takeWhile Number.isDigit), rest.dropWhile Number.isDigit)
  | cs => some (none, cs)

/-- The sign and the digits of an exponent, of which there has to be one. -/
def cutExponentValue (negative : Bool) (cs : List Char) : Option (Option Int × List Char) :=
  if (cs.takeWhile Number.isDigit).isEmpty then none
  else some (some (Number.signedValue negative (cs.takeWhile Number.isDigit)),
    cs.dropWhile Number.isDigit)

/-- The exponent, which either case of its letter opens. -/
def cutExponent : List Char → Option (Option Int × List Char)
  | c :: rest =>
    if c = 'e' ∨ c = 'E' then
      match rest with
      | '-' :: rest => cutExponentValue true rest
      | '+' :: rest => cutExponentValue false rest
      | rest => cutExponentValue false rest
    else some (none, c :: rest)
  | [] => some (none, [])

/-- A number without its minus. -/
def cutNumeral (negative : Bool) (cs : List Char) : Option (Numeral × List Char) := do
  let (whole, cs) ← cutWhole cs
  let (fraction, cs) ← cutFraction cs
  let (exponent, cs) ← cutExponent cs
  return (⟨negative, whole, fraction, exponent⟩, cs)

/-- The piece that a numeral makes. -/
def numberPiece (num : Numeral) : Piece := .scalar (.number num.value?)

/-- **The piece at the front of a text**, and what follows it. -/
def cut : List Char → Option (Piece × List Char)
  | '[' :: rest => some (.openArray, rest)
  | ']' :: rest => some (.closeArray, rest)
  | '{' :: rest => some (.openObject, rest)
  | '}' :: rest => some (.closeObject, rest)
  | ',' :: rest => some (.comma, rest)
  | ':' :: rest => some (.colon, rest)
  | 'n' :: 'u' :: 'l' :: 'l' :: rest => some (.scalar .null, rest)
  | 't' :: 'r' :: 'u' :: 'e' :: rest => some (.scalar (.boolean true), rest)
  | 'f' :: 'a' :: 'l' :: 's' :: 'e' :: rest => some (.scalar (.boolean false), rest)
  | '"' :: rest =>
    (cutString rest).map fun (parts, after) => (.string ((text? parts).map .ofList), after)
  | '-' :: rest => (cutNumeral true rest).map fun (num, after) => (numberPiece num, after)
  | cs => (cutNumeral false cs).map fun (num, after) => (numberPiece num, after)

theorem length_cutString {cs after : List Char} {parts : List StringPart}
    (h : cutString cs = some (parts, after)) : after.length < cs.length := by
  fun_induction cutString cs generalizing parts after with
  | case1 => simp at h
  | case2 => cases h; simp
  | case3 a b c d rest ih =>
    simp only [Option.bind_eq_bind, Option.bind_eq_some_iff, Prod.exists] at h
    obtain ⟨n, _, ps, aft, hs, he⟩ := h
    cases he
    have := ih hs
    simp only [List.length_cons]
    omega
  | case4 c rest _ ih =>
    simp only [Option.bind_eq_bind, Option.bind_eq_some_iff, Prod.exists] at h
    obtain ⟨n, _, ps, aft, hs, he⟩ := h
    cases he
    have := ih hs
    simp only [List.length_cons]
    omega
  | case5 => simp at h
  | case6 c rest _ _ _ _ ih =>
    simp only [Option.bind_eq_bind, Option.bind_eq_some_iff, Prod.exists] at h
    obtain ⟨ps, aft, hs, he⟩ := h
    cases he
    have := ih hs
    simp only [List.length_cons]
    omega

theorem length_dropWhile_digits_lt {cs : List Char}
    (h : ¬(cs.takeWhile Number.isDigit).isEmpty = true) :
    (cs.dropWhile Number.isDigit).length < cs.length := by
  have hpos : 0 < (cs.takeWhile Number.isDigit).length := by
    rw [List.length_pos_iff]
    simpa using h
  have := congrArg List.length (List.takeWhile_append_dropWhile (p := Number.isDigit) (l := cs))
  rw [List.length_append] at this
  omega

theorem length_cutWhole {cs whole after : List Char} (h : cutWhole cs = some (whole, after)) :
    after.length < cs.length := by
  unfold cutWhole at h
  split at h
  · cases h; simp
  · split at h
    · simp at h
    · next hd => cases h; exact length_dropWhile_digits_lt hd

theorem length_cutFraction {cs after : List Char} {fraction : Option (List Char)}
    (h : cutFraction cs = some (fraction, after)) : after.length ≤ cs.length := by
  unfold cutFraction at h
  split at h
  · split at h
    · simp at h
    · next hd =>
      cases h
      have := length_dropWhile_digits_lt hd
      simp only [List.length_cons]
      omega
  · cases h; exact Nat.le_refl _

theorem length_cutExponentValue {cs after : List Char} {negative : Bool} {e : Option Int}
    (h : cutExponentValue negative cs = some (e, after)) : after.length ≤ cs.length := by
  unfold cutExponentValue at h
  split at h
  · simp at h
  · next hd => cases h; exact Nat.le_of_lt (length_dropWhile_digits_lt hd)

theorem length_cutExponent {cs after : List Char} {e : Option Int}
    (h : cutExponent cs = some (e, after)) : after.length ≤ cs.length := by
  unfold cutExponent at h
  split at h
  · split at h
    · split at h <;> have := length_cutExponentValue h <;> simp only [List.length_cons] <;> omega
    · cases h; exact Nat.le_refl _
  · cases h; exact Nat.le_refl _

theorem length_cutNumeral {cs after : List Char} {negative : Bool} {num : Numeral}
    (h : cutNumeral negative cs = some (num, after)) : after.length < cs.length := by
  simp only [cutNumeral, Option.bind_eq_bind, Option.bind_eq_some_iff, Prod.exists] at h
  obtain ⟨_, _, hw, _, _, hf, _, _, he, hr⟩ := h
  cases hr
  have := length_cutWhole hw
  have := length_cutFraction hf
  have := length_cutExponent he
  omega

/-- A piece takes at least one character. -/
theorem length_cut {cs after : List Char} {p : Piece} (h : cut cs = some (p, after)) :
    after.length < cs.length := by
  unfold cut at h
  split at h
  case h_10 =>
    obtain ⟨⟨ps, aft⟩, hs, he⟩ := Option.map_eq_some_iff.1 h
    cases he
    exact Nat.lt_succ_of_lt (length_cutString hs)
  case h_11 =>
    obtain ⟨⟨num, aft⟩, hs, he⟩ := Option.map_eq_some_iff.1 h
    cases he
    exact Nat.lt_succ_of_lt (length_cutNumeral hs)
  case h_12 =>
    obtain ⟨⟨num, aft⟩, hs, he⟩ := Option.map_eq_some_iff.1 h
    cases he
    exact length_cutNumeral hs
  all_goals cases h; simp only [List.length_cons]; omega

/-- **The pieces of a text**, if it falls into pieces. -/
def pieces (cs : List Char) : Option (List Piece) :=
  match hcs : cs.dropWhile isGap with
  | [] => some []
  | c :: rest =>
    match h : cut (c :: rest) with
    | none => none
    | some (p, after) =>
      have : after.length < cs.length := by
        have hlt := length_cut h
        have hle := (List.dropWhile_sublist isGap (l := cs)).length_le
        rw [hcs] at hle
        omega
      (pieces after).map (p :: ·)
termination_by cs.length

/-! ## Putting pieces together -/

/-- A container that is still open, its contents backwards. -/
inductive Container where
  | array (items : List Written)
  /-- An object, and the name whose value is being read. -/
  | object (members : List (Option String × Written)) (name : Option String)

/-- **What the machine has read and waits for**, inside the containers that
are still open, the innermost first. -/
inductive State where
  /-- A value has to come. -/
  | value (outer : List Container)
  /-- The first item of an array has to come, or its end. -/
  | firstItem (outer : List Container)
  /-- The name of a member has to come, or, before the first, the end of the
  object. -/
  | name (first : Bool) (members : List (Option String × Written)) (outer : List Container)
  /-- The colon after a name has to come. -/
  | colon (members : List (Option String × Written)) (name : Option String)
    (outer : List Container)
  /-- A value is complete. -/
  | complete (v : Written) (outer : List Container)

/-- The first piece of a value. -/
def startValue (outer : List Container) : Piece → Option State
  | .scalar v => some (.complete v outer)
  | .string s => some (.complete (.string s) outer)
  | .openArray => some (.firstItem outer)
  | .openObject => some (.name true [] outer)
  | _ => none

/-- **One step of the machine.** -/
def step : State → Piece → Option State
  | .value outer, p => startValue outer p
  | .firstItem outer, .closeArray => some (.complete (.array []) outer)
  | .firstItem outer, p => startValue (.array [] :: outer) p
  | .name true _ outer, .closeObject => some (.complete (.object []) outer)
  | .name _ members outer, .string s => some (.colon members s outer)
  | .colon members name outer, .colon => some (.value (.object members name :: outer))
  | .complete v (.array items :: outer), .comma => some (.value (.array (v :: items) :: outer))
  | .complete v (.array items :: outer), .closeArray =>
    some (.complete (.array (v :: items).reverse) outer)
  | .complete v (.object members name :: outer), .comma =>
    some (.name false ((name, v) :: members) outer)
  | .complete v (.object members name :: outer), .closeObject =>
    some (.complete (.object ((name, v) :: members).reverse) outer)
  | _, _ => none

/-- The value of a machine that has nothing left to wait for. -/
def State.result? : State → Option Written
  | .complete v [] => some v
  | _ => none

end JsonReader

open JsonReader in
/-- **The tree of a JSON text.** -/
def Written.ofText? (text : String) : Option Written := do
  let ps ← pieces text.toList
  let final ← ps.foldlM step (.value [])
  final.result?

/-- **The value of a JSON text.** -/
def Json.ofText? (text : String) : Option Json := (Written.ofText? text).bind Written.toJson?

end CardQuery
