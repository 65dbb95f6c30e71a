import CardQuery.Json.Reader
import CardQuery.Json.Writer
import Mathlib

/-!
# JSON that is read back

A JSON text is read in two movements: it is cut into pieces, and a machine puts the pieces
together. Either can be told of a part of the text by itself. Some characters spell some pieces
if they are cut into them whatever stands behind (`Spells`), so texts may be put one behind
the other (`Spells.append`). Some pieces make a value if they take the machine from waiting
for a value to having it, whatever containers are open (`Makes`).

Every tree has pieces that make it (`Written.makes_pieces`). A value is written so that the text
spells the pieces of its tree, on one line (`Json.spells_compact`) and over several
(`Json.spells_prettyAt`), and so it is read back (`Json.ofText?_written`). In a string, the text
of a character is cut off as one part, of which the reader makes the character again, whatever
parts follow (`exists_part`). Only a control character becomes a unit of sixteen bits, and none
of them is half of a pair.

Numbers are left out. Where the text of a number ends is told by what stands behind it, so
by itself it spells nothing.
-/

namespace CardQuery

namespace JsonReader

/-! ## Strings -/

/-- The digits of a control character. -/
theorem unitValue?_control : ∀ n < 0x20,
    unitValue? '0' '0' (Nat.digitChar (n / 16)) (Nat.digitChar (n % 16)) = some n := by
  decide

/-- A unit that is no half of a pair makes a character, whatever follows. -/
theorem text?_unit {n : Nat} (h : n < 0xD800) (parts : List StringPart) :
    text? (.unit n :: parts) = (text? parts).map (Char.ofNat n :: ·) := by
  have hhalf : ¬ (0xD800 ≤ n ∧ n < 0xE000) := fun hn => absurd h (not_lt.mpr hn.1)
  have hhigh : ¬ (0xD800 ≤ n ∧ n < 0xDC00) := fun hn => absurd h (not_lt.mpr hn.1)
  have hlow : ¬ (0xDC00 ≤ n ∧ n < 0xE000) := by omega
  match parts with
  | .unit low :: rest => rw [text?, if_neg hhigh, if_neg hlow]
  | .char c :: rest => exact if_neg hhalf
  | [] => exact if_neg hhalf

/-- A backslash and a letter are cut off together. -/
theorem cutString_escaped {letter c : Char} (h : escaped? letter = some c) (rest : List Char) :
    cutString ('\\' :: letter :: rest) = (cutString rest).map fun p => (.char c :: p.1, p.2) := by
  have hu : letter ≠ 'u' := by
    rintro rfl
    cases h
  rw [cutString.eq_def]
  simp [hu, h, Option.map_eq_bind]

/-- A character that needs no backslash is cut off by itself. -/
theorem cutString_plain {c : Char} (hquote : c ≠ '"') (hbackslash : c ≠ '\\')
    (hcontrol : ¬ c.toNat < 0x20) (rest : List Char) :
    cutString (c :: rest) = (cutString rest).map fun p => (.char c :: p.1, p.2) := by
  rw [cutString.eq_def]
  simp [hbackslash, hcontrol, Option.map_eq_bind]

/-- **A character is written as one part**, of which the reader makes it again. -/
theorem exists_part (c : Char) : ∃ part,
    (∀ parts, text? (part :: parts) = (text? parts).map (c :: ·)) ∧
      ∀ rest, cutString (JsonWriter.escape c ++ rest)
        = (cutString rest).map fun p => (part :: p.1, p.2) := by
  unfold JsonWriter.escape
  split
  case h_8 hquote hbackslash _ _ _ _ _ =>
    by_cases hcontrol : c.toNat < 0x20
    · -- a control character is below all halves of pairs
      rw [if_pos hcontrol]
      refine ⟨.unit c.toNat, fun parts => ?_, fun rest => ?_⟩
      · rw [text?_unit (hcontrol.trans (by decide)), Char.ofNat_toNat]
      · simp only [JsonWriter.hexEscape, List.cons_append, List.nil_append, cutString,
          unitValue?_control _ hcontrol, Option.map_eq_bind]
        rfl
    · rw [if_neg hcontrol]
      exact ⟨.char c, fun _ => rfl, cutString_plain hquote hbackslash hcontrol⟩
  -- the characters for which there is a letter behind a backslash
  all_goals exact ⟨.char _, fun _ => rfl, cutString_escaped rfl⟩

/-- **A text that is written between quotation marks** is made of parts of which the
reader makes it again. -/
theorem exists_parts (cs : List Char) : ∃ parts, text? parts = some cs ∧
    ∀ rest, cutString (cs.flatMap JsonWriter.escape ++ '"' :: rest) = some (parts, rest) := by
  induction cs with
  | nil => exact ⟨[], rfl, fun _ => rfl⟩
  | cons c cs ih =>
    obtain ⟨part, hpart, hcut⟩ := exists_part c
    obtain ⟨parts, hparts, hcuts⟩ := ih
    refine ⟨part :: parts, by rw [hpart, hparts, Option.map_some], fun rest => ?_⟩
    rw [List.flatMap_cons, List.append_assoc, hcut, hcuts, Option.map_some]

theorem cut_quote (s : String) (rest : List Char) :
    cut ((JsonWriter.quote s).toList ++ rest) = some (.string (some s), rest) := by
  obtain ⟨parts, hparts, hcut⟩ := exists_parts s.toList
  rw [JsonWriter.quote, String.toList_ofList, List.cons_append, List.cons_append,
    List.append_assoc, List.singleton_append]
  show (cutString _).map _ = _
  rw [hcut, Option.map_some]
  dsimp only
  rw [hparts, Option.map_some, String.ofList_toList]

/-! ## Pieces -/

theorem pieces_eq (cs : List Char) :
    pieces cs = match cs.dropWhile isGap with
      | [] => some []
      | c :: rest => (cut (c :: rest)).bind fun p => (pieces p.2).map (p.1 :: ·) := by
  rw [pieces]
  split
  · next hgap => rw [hgap]
  · next c rest hgap =>
    simp only [hgap]
    split
    · next hcut => rw [hcut, Option.bind_none]
    · next p after hcut => rw [hcut, Option.bind_some]

/-- **Whether a text is cut into some pieces**, whatever stands behind it. -/
def Spells (cs : List Char) (ps : List Piece) : Prop :=
  ∀ rest, pieces (cs ++ rest) = (pieces rest).map (ps ++ ·)

theorem Spells.nil : Spells [] [] := fun rest => by
  simp

theorem Spells.append {cs cs' : List Char} {ps ps' : List Piece} (h : Spells cs ps)
    (h' : Spells cs' ps') : Spells (cs ++ cs') (ps ++ ps') := fun rest => by
  rw [List.append_assoc, h, h', Option.map_map]
  simp only [Function.comp_def, List.append_assoc]

theorem spells_gap {cs : List Char} (h : cs.all isGap = true) : Spells cs [] := fun rest => by
  rw [pieces_eq, pieces_eq rest, List.dropWhile_append_of_pos (List.all_eq_true.mp h)]
  simp

/-- A piece that is cut off whatever stands behind it. -/
theorem spells_of_cut (c : Char) (cs : List Char) {p : Piece} (hgap : isGap c = false)
    (hcut : ∀ rest, cut (c :: cs ++ rest) = some (p, rest)) : Spells (c :: cs) [p] := fun rest => by
  rw [pieces_eq, List.cons_append, List.dropWhile_cons_of_neg (Bool.not_eq_true _ ▸ hgap)]
  dsimp only
  rw [← List.cons_append, hcut, Option.bind_some]
  rfl

/-! ## Pieces put together -/

/-- **Whether some pieces make a value**, whatever containers are open. -/
def Makes (ps : List Piece) (v : Written) : Prop :=
  ∀ outer, ps.foldlM step (.value outer) = some (.complete v outer)

/-- The pieces of a container: its contents, with commas between them. -/
def between (opening closing : Piece) (pss : List (List Piece)) : List Piece :=
  opening :: ([.comma].intercalate pss ++ [closing])

/-- Whether some pieces make a member of an object. -/
def MakesMember (ps : List Piece) (member : Option String × Written) : Prop :=
  ∃ ps', ps = .string member.1 :: .colon :: ps' ∧ Makes ps' member.2

theorem Makes.foldlM_append {ps : List Piece} {v : Written} (h : Makes ps v)
    (outer : List Container) (rest : List Piece) :
    (ps ++ rest).foldlM step (.value outer) = rest.foldlM step (.complete v outer) := by
  rw [List.foldlM_append, h]
  rfl

theorem MakesMember.foldlM_append {ps : List Piece} {m : Option String × Written}
    (h : MakesMember ps m) (first : Bool) (done : List (Option String × Written))
    (outer : List Container) (rest : List Piece) :
    (ps ++ rest).foldlM step (.name first done outer)
      = rest.foldlM step (.complete m.2 (.object done m.1 :: outer)) := by
  obtain ⟨ps, rfl, h⟩ := h
  cases first with
  | false => exact h.foldlM_append _ rest
  | true => exact h.foldlM_append _ rest

/-- The first item of an array is read as any other value. -/
theorem Makes.foldlM_firstItem {ps : List Piece} {v : Written} (h : Makes ps v)
    (outer : List Container) (rest : List Piece) :
    (ps ++ rest).foldlM step (.firstItem outer)
      = (ps ++ rest).foldlM step (.value (.array [] :: outer)) := by
  have hvalue := h outer
  cases ps with
  | nil => cases hvalue
  | cons p ps =>
    cases p with
    | closeArray => cases hvalue
    | _ => rfl

/-- The items of an array that is open, and its end. -/
theorem foldlM_items {ps : List Piece} {v : Written} {pss : List (List Piece)}
    {vs : List Written} (h : Makes ps v) (hs : List.Forall₂ Makes pss vs) (done : List Written)
    (outer : List Container) :
    ([.comma].intercalate (ps :: pss) ++ [Piece.closeArray]).foldlM step
        (.value (.array done :: outer))
      = some (.complete (.array (done.reverse ++ v :: vs)) outer) := by
  induction hs generalizing ps v done with
  | nil =>
    rw [List.intercalate_singleton, h.foldlM_append]
    show some (State.complete (.array (v :: done).reverse) outer) = _
    rw [List.reverse_cons]
  | cons h' _ ih =>
    rw [List.intercalate_cons_cons, List.append_assoc, List.append_assoc, h.foldlM_append]
    refine (ih h' (v :: done)).trans ?_
    rw [List.reverse_cons, List.append_assoc, List.singleton_append]

/-- The members of an object that is open, and its end. -/
theorem foldlM_members {ps : List Piece} {m : Option String × Written}
    {pss : List (List Piece)} {ms : List (Option String × Written)} (h : MakesMember ps m)
    (hs : List.Forall₂ MakesMember pss ms) (first : Bool)
    (done : List (Option String × Written)) (outer : List Container) :
    ([.comma].intercalate (ps :: pss) ++ [Piece.closeObject]).foldlM step
        (.name first done outer)
      = some (.complete (.object (done.reverse ++ m :: ms)) outer) := by
  induction hs generalizing ps m first done with
  | nil =>
    rw [List.intercalate_singleton, h.foldlM_append]
    show some (State.complete (.object (m :: done).reverse) outer) = _
    rw [List.reverse_cons]
  | cons h' _ ih =>
    rw [List.intercalate_cons_cons, List.append_assoc, List.append_assoc, h.foldlM_append]
    refine (ih h' false (m :: done)).trans ?_
    rw [List.reverse_cons, List.append_assoc, List.singleton_append]

theorem makes_array {pss : List (List Piece)} {vs : List Written}
    (h : List.Forall₂ Makes pss vs) :
    Makes (between .openArray .closeArray pss) (.array vs) :=
  fun outer => by
    cases h with
    | nil => rfl
    | @cons ps _ pss _ h hs =>
      obtain ⟨rest, hrest⟩ : ∃ rest, [Piece.comma].intercalate (ps :: pss) = ps ++ rest := by
        cases pss with
        | nil => exact ⟨[], by rw [List.intercalate_singleton, List.append_nil]⟩
        | cons ps' pss => exact ⟨_, List.intercalate_cons_cons.trans (List.append_assoc ..)⟩
      have hitems := foldlM_items h hs [] outer
      rw [hrest, List.append_assoc, ← h.foldlM_firstItem] at hitems
      show ([Piece.comma].intercalate (ps :: pss) ++ [Piece.closeArray]).foldlM step
        (.firstItem outer) = _
      rw [hrest, List.append_assoc, hitems]
      rfl

theorem makes_object {pss : List (List Piece)} {ms : List (Option String × Written)}
    (h : List.Forall₂ MakesMember pss ms) :
    Makes (between .openObject .closeObject pss) (.object ms) :=
  fun outer => by
    cases h with
    | nil => rfl
    | cons h hs => exact foldlM_members h hs true [] outer

end JsonReader

namespace Written

open JsonReader

mutual

/-- **The pieces of a tree.** -/
def pieces : Written → List Piece
  | array items => between .openArray .closeArray (itemPieces items)
  | object members => between .openObject .closeObject (memberPieces members)
  | string s => [.string s]
  | v => [.scalar v]

/-- The pieces of each of some trees. -/
def itemPieces : List Written → List (List Piece)
  | [] => []
  | v :: rest => v.pieces :: itemPieces rest

/-- The pieces of each of some members. -/
def memberPieces : List (Option String × Written) → List (List Piece)
  | [] => []
  | (name, v) :: rest => (.string name :: .colon :: v.pieces) :: memberPieces rest

end

mutual

/-- **The pieces of a tree make the tree.** -/
theorem makes_pieces : ∀ v : Written, Makes v.pieces v
  | null | boolean _ | number _ | string _ => fun _ => rfl
  | array items => makes_array (makes_itemPieces items)
  | object members => makes_object (makes_memberPieces members)

theorem makes_itemPieces : ∀ vs, List.Forall₂ Makes (itemPieces vs) vs
  | [] => .nil
  | v :: rest => .cons (makes_pieces v) (makes_itemPieces rest)

theorem makes_memberPieces : ∀ ms, List.Forall₂ MakesMember (memberPieces ms) ms
  | [] => .nil
  | (_, v) :: rest => .cons ⟨v.pieces, rfl, makes_pieces v⟩ (makes_memberPieces rest)

end

end Written

/-! ## Values that are written -/

namespace JsonReader

/-- Whether some texts are cut into pieces, each into its own. -/
def SpellsEach : List String → List (List Piece) → Prop :=
  List.Forall₂ fun text ps => Spells text.toList ps

theorem spells_quote (s : String) : Spells (JsonWriter.quote s).toList [.string (some s)] := by
  have hcut := cut_quote s
  have hquote : (JsonWriter.quote s).toList
      = '"' :: (s.toList.flatMap JsonWriter.escape ++ ['"']) := String.toList_ofList
  rw [hquote] at hcut ⊢
  exact spells_of_cut _ _ rfl hcut

section Words

theorem spells_null : Spells "null".toList [.scalar .null] :=
  spells_of_cut 'n' ['u', 'l', 'l'] rfl fun _ => rfl

theorem spells_boolean (b : Bool) :
    Spells (Json.boolean b).compact.toList [.scalar (.boolean b)] := by
  cases b with
  | false => exact spells_of_cut 'f' ['a', 'l', 's', 'e'] rfl fun _ => rfl
  | true => exact spells_of_cut 't' ['r', 'u', 'e'] rfl fun _ => rfl

theorem spells_openArray : Spells "[".toList [.openArray] :=
  spells_of_cut '[' [] rfl fun _ => rfl

theorem spells_closeArray : Spells "]".toList [.closeArray] :=
  spells_of_cut ']' [] rfl fun _ => rfl

theorem spells_openObject : Spells "\x7b".toList [.openObject] :=
  spells_of_cut '\x7b' [] rfl fun _ => rfl

theorem spells_closeObject : Spells "\x7d".toList [.closeObject] :=
  spells_of_cut '\x7d' [] rfl fun _ => rfl

theorem spells_comma : Spells ",".toList [.comma] :=
  spells_of_cut ',' [] rfl fun _ => rfl

theorem spells_colon : Spells ":".toList [.colon] :=
  spells_of_cut ':' [] rfl fun _ => rfl

theorem spells_blank : Spells [' '] [] := spells_gap rfl

theorem spells_colonGap : Spells ": ".toList [.colon] :=
  (spells_of_cut ':' [] rfl fun _ => rfl).append spells_blank

end Words

theorem Spells.append_text {s t : String} {ps ps' : List Piece} (h : Spells s.toList ps)
    (h' : Spells t.toList ps') : Spells (s ++ t).toList (ps ++ ps') := by
  rw [String.toList_append]
  exact h.append h'

/-- What separates some texts stands for a comma. -/
theorem spells_intercalate {separator : String} (hcomma : Spells separator.toList [.comma])
    {texts : List String} {pss : List (List Piece)} (h : SpellsEach texts pss) :
    Spells (separator.intercalate texts).toList ([.comma].intercalate pss) := by
  rw [String.toList_intercalate]
  induction h with
  | nil => exact .nil
  | @cons text ps texts pss h hs ih =>
    cases hs with
    | nil => simpa using h
    | cons =>
      rw [List.map_cons, List.map_cons, List.intercalate_cons_cons, List.intercalate_cons_cons]
      exact (h.append hcomma).append ih

theorem spells_between {opening closing separator : String} {o c : Piece}
    (hopen : Spells opening.toList [o]) (hclose : Spells closing.toList [c])
    (hcomma : Spells separator.toList [.comma]) {texts : List String} {pss : List (List Piece)}
    (h : SpellsEach texts pss) :
    Spells (opening ++ separator.intercalate texts ++ closing).toList (between o c pss) :=
  (hopen.append_text (spells_intercalate hcomma h)).append_text hclose

end JsonReader

namespace Json

open JsonReader

mutual

/-- **The tree that a value is written as.** -/
def written : Json → Written
  | null => .null
  | boolean b => .boolean b
  | number n => .number n
  | string s => .string s
  | array items => .array (itemsWritten items)
  | object members => .object (membersWritten members)

/-- The trees that some values are written as. -/
def itemsWritten : List Json → List Written
  | [] => []
  | v :: rest => v.written :: itemsWritten rest

/-- The trees that some members are written as. -/
def membersWritten : List (String × Json) → List (Option String × Written)
  | [] => []
  | (name, v) :: rest => (name, v.written) :: membersWritten rest

end

mutual

/-- Whether there is no number in a value. -/
def NumberFree : Json → Prop
  | number _ => False
  | array items => ItemsNumberFree items
  | object members => MembersNumberFree members
  | _ => True

/-- Whether there is no number in some values. -/
def ItemsNumberFree : List Json → Prop
  | [] => True
  | v :: rest => v.NumberFree ∧ ItemsNumberFree rest

/-- Whether there is no number in some members. -/
def MembersNumberFree : List (String × Json) → Prop
  | [] => True
  | (_, v) :: rest => v.NumberFree ∧ MembersNumberFree rest

end

mutual

theorem spells_compact : ∀ {v : Json}, v.NumberFree → Spells v.compact.toList v.written.pieces
  | null, _ => spells_null
  | boolean b, _ => spells_boolean b
  | string s, _ => spells_quote s
  | array _, h =>
    spells_between spells_openArray spells_closeArray spells_comma (spells_compactItems h)
  | object _, h =>
    spells_between spells_openObject spells_closeObject spells_comma (spells_compactMembers h)

theorem spells_compactItems : ∀ {vs : List Json}, ItemsNumberFree vs →
    SpellsEach (compactItems vs) (Written.itemPieces (itemsWritten vs))
  | [], _ => .nil
  | _ :: _, h => .cons (spells_compact h.1) (spells_compactItems h.2)

theorem spells_compactMembers : ∀ {ms : List (String × Json)}, MembersNumberFree ms →
    SpellsEach (compactMembers ms) (Written.memberPieces (membersWritten ms))
  | [], _ => .nil
  | (name, _) :: _, h =>
    .cons (((spells_quote name).append_text spells_colon).append_text (spells_compact h.1))
      (spells_compactMembers h.2)

end

theorem spells_newline (depth : Nat) : Spells (newline depth).toList [] := by
  have hgap : ∀ c ∈ '\n' :: List.replicate (2 * depth) ' ', isGap c = true := by
    intro c hc
    rcases List.mem_cons.mp hc with rfl | hc
    · rfl
    · rw [List.eq_of_mem_replicate hc]
      rfl
  rw [newline, String.toList_ofList]
  exact spells_gap (List.all_eq_true.mpr hgap)

/-- Lines of their own change nothing about the pieces. -/
theorem spells_bracketed {opening closing : String} {o c : Piece}
    (hopen : Spells opening.toList [o]) (hclose : Spells closing.toList [c]) (depth : Nat)
    {texts : List String} {pss : List (List Piece)} (h : SpellsEach texts pss) :
    Spells (bracketed opening closing depth texts).toList (between o c pss) := by
  cases h with
  | nil => exact hopen.append_text hclose
  | cons h hs =>
    rw [bracketed, List.isEmpty_cons, if_neg Bool.false_ne_true, String.append_assoc]
    exact spells_between (hopen.append_text (spells_newline _))
      ((spells_newline depth).append_text hclose) (spells_comma.append_text (spells_newline _))
      (.cons h hs)

mutual

theorem spells_prettyAt : ∀ {v : Json} (depth : Nat), v.NumberFree →
    Spells (v.prettyAt depth).toList v.written.pieces
  | null, _, _ => spells_null
  | boolean true, _, _ => spells_boolean true
  | boolean false, _, _ => spells_boolean false
  | string s, _, _ => spells_quote s
  | array _, depth, h =>
    spells_bracketed spells_openArray spells_closeArray depth (spells_prettyItems (depth + 1) h)
  | object _, depth, h =>
    spells_bracketed spells_openObject spells_closeObject depth
      (spells_prettyMembers (depth + 1) h)

theorem spells_prettyItems : ∀ {vs : List Json} (depth : Nat), ItemsNumberFree vs →
    SpellsEach (prettyItems depth vs) (Written.itemPieces (itemsWritten vs))
  | [], _, _ => .nil
  | _ :: _, depth, h => .cons (spells_prettyAt depth h.1) (spells_prettyItems depth h.2)

theorem spells_prettyMembers : ∀ {ms : List (String × Json)} (depth : Nat),
    MembersNumberFree ms →
    SpellsEach (prettyMembers depth ms) (Written.memberPieces (membersWritten ms))
  | [], _, _ => .nil
  | (name, _) :: _, depth, h =>
    .cons (((spells_quote name).append_text spells_colonGap).append_text
        (spells_prettyAt depth h.1)) (spells_prettyMembers depth h.2)

end

end Json

/-! ## Texts that are read -/

/-- A text that spells the pieces of a tree is read as the tree. -/
theorem Written.ofText?_of_spells {text : String} {w : Written}
    (h : JsonReader.Spells text.toList w.pieces) : Written.ofText? text = some w := by
  have hpieces := h []
  have hempty : JsonReader.pieces [] = some [] := by rw [JsonReader.pieces_eq]; rfl
  rw [List.append_nil, hempty, Option.map_some, List.append_nil] at hpieces
  simp only [Written.ofText?, hpieces, Option.bind_eq_bind, Option.bind_some, w.makes_pieces []]
  rfl

/-- **A value without numbers is read back** as the tree of its members and items, be it
written on one line or over several. -/
theorem Json.ofText?_written {v : Json} (h : v.NumberFree) :
    Written.ofText? v.compact = some v.written ∧ Written.ofText? v.pretty = some v.written :=
  ⟨Written.ofText?_of_spells (Json.spells_compact h),
    Written.ofText?_of_spells (Json.spells_prettyAt 0 h)⟩

end CardQuery
