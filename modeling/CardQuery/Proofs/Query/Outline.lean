import CardQuery.Proofs.Card.Lookup
import CardQuery.Proofs.Query.Slicing

/-!
# Outlines can be read

The outline of a tree has a line for every node, parents first: two blanks for each step of depth,
and what the node says about itself. Depths and labels in this order are enough to find the tree
again, because what is deeper than a node and follows it belongs to it
(`Expr.bare_eq_of_notes_eq`).

That the lines can be found in the text is another matter. A string is written with its line breaks
escaped, a regular expression is not, so the text has more lines than the tree has nodes exactly if
a regular expression in it is broken over lines. No two trees are confused even then: a regular
expression ends at the first slash that no backslash escapes, so what a line says can be told from
what follows it without looking for the end of the line (`Expr.sign_eq_of_label`). Two trees that
were read from queries have one outline only if they have the same shape (`toTree_lines_iff`).
-/

namespace CardQuery

open Lexer

namespace Expr

/-! ## What a node says about itself -/

/-- **The token that tells a node** from others but for its children: what a leaf holds, an
operator, or the bracket that opens. -/
def sign : Expr → Content
  | literal v _ => (v.kind, v)
  | identifier name _ => (.identifier, .string name)
  | binary op _ _ _ => (.operator op, .null)
  | group _ _ => (.leftParen, .null)
  | list _ _ => (.leftBracket, .null)

/-- What a label starts with. -/
def caption : Expr → String
  | literal _ _ => "Literal "
  | identifier _ _ => "Identifier "
  | binary _ _ _ _ => "Binary "
  | group _ _ => "Group"
  | list _ _ => "List"

/-- What follows the caption of a label. -/
def detail : Expr → String
  | literal v _ => v.toQuery
  | identifier name _ => name
  | binary op _ _ _ => op.symbol
  | group _ _ | list _ _ => ""

theorem label_eq (e : Expr) : e.label = e.caption ++ e.detail := by
  cases e with
  | group b s => exact String.append_empty.symm
  | list es s => exact String.append_empty.symm
  | _ => rfl

/-- All captions. -/
def captions : List String := ["Literal ", "Identifier ", "Binary ", "Group", "List"]

theorem caption_mem (e : Expr) : e.caption ∈ captions := by
  cases e <;> simp [caption, captions]

/-- No caption starts another one. -/
theorem caption_eq_of_starts :
    ∀ p ∈ captions, ∀ q ∈ captions, p.toList <+: q.toList → p = q := by
  decide

theorem caption_head : ∀ p ∈ captions, p.toList.head?.any (· != ' ') = true := by
  decide

theorem caption_oneLine : ∀ p ∈ captions, '\n' ∉ p.toList := by
  decide

end Expr

/-! ## What follows a line -/

/-- Whether a text is what follows a line: a line break and more, or nothing. -/
def EndsLine (rest : List Char) : Prop := ∀ c ∈ rest.head?, c = '\n'

theorem EndsLine.separate {rest : List Char} (h : EndsLine rest) : Separate rest := by
  intro c hc
  rw [h c hc]
  decide

/-- Texts of one line are told from what follows them. -/
theorem EndsLine.append_inj {cs ds rest rest' : List Char} (h : EndsLine rest)
    (h' : EndsLine rest') (hcs : '\n' ∉ cs) (hds : '\n' ∉ ds) (heq : cs ++ rest = ds ++ rest') :
    cs = ds ∧ rest = rest' := by
  have hinside : ∀ {xs : List Char}, '\n' ∉ xs → ∀ c ∈ xs, (c != '\n') = true := by
    intro xs hxs c hc
    exact bne_iff_ne.mpr fun hbreak => hxs (hbreak ▸ hc)
  have hoff : ∀ {ys : List Char}, EndsLine ys → ∀ c ∈ ys.head?, (c != '\n') = false := by
    intro ys hys c hc
    rw [hys c hc]
    rfl
  obtain ⟨htake, hdrop⟩ := Content.takeWhile_append_separate (hinside hcs) (hoff h)
  obtain ⟨htake', hdrop'⟩ := Content.takeWhile_append_separate (hinside hds) (hoff h')
  exact ⟨htake.symm.trans (heq ▸ htake'), hdrop.symm.trans (heq ▸ hdrop')⟩

namespace Content

theorem mark_literal (v : Literal) : mark (v.kind, v) = v.toQuery.toList := by
  cases v with
  | boolean b => cases b <;> rfl
  | _ => rfl

/-- A number that is not written as one is infinite. -/
theorem Lexed.eq_infinity {v : Literal} (h : Lexed (v.kind, v)) (hclean : ¬ Clean (v.kind, v)) :
    ∃ negative, v = .number (Number.withSign negative (.ofBits Number.infinityBits.toUInt64)) := by
  cases v with
  | number x =>
    generalize hc : ((Literal.number x).kind, Literal.number x) = c at h
    cases h with
    | @number bits hbits negative =>
      obtain rfl := Literal.number.inj (congrArg Prod.snd hc)
      have hfinite := mt (Number.isFinite_withSign hbits negative).trans hclean
      obtain rfl : bits = Number.infinityBits := by
        by_contra hne
        exact hfinite (decide_eq_true hne)
      exact ⟨negative, rfl⟩
    | boolean b => cases b <;> cases hc
    | _ => cases hc
  | boolean b => cases b <;> exact absurd trivial hclean
  | _ => exact absurd trivial hclean

/-- **What a literal is cut as** in front of what it does not run into: itself, or if it is an
infinite number something that is no literal. -/
theorem Lexed.exists_cut {v : Literal} (h : Lexed (v.kind, v)) {rest : List Char}
    (hrest : Separate rest) :
    ∃ first tail, v.toQuery.toList = first :: tail ∧
      ((cut true first (tail ++ rest)).outcome = .ok (v.kind, v) ∧
          (cut true first (tail ++ rest)).rest = rest ∨
        (∃ negative,
            v = .number (Number.withSign negative (.ofBits Number.infinityBits.toUInt64))) ∧
          ∀ c, (cut true first (tail ++ rest)).outcome = .ok c → c.1.isLiteral = false) := by
  by_cases hclean : Clean (v.kind, v)
  · have hoperator : ∀ op, v.kind = .operator op → true = false := by
      intro op hop
      have hliteral := v.isLiteral_kind
      rw [hop] at hliteral
      cases hliteral
    have hgap : gap (v.kind, v) = [] := by
      cases v with
      | boolean b => cases b <;> rfl
      | _ => rfl
    obtain ⟨first, tail, hmark, -, hcut, hafter⟩ :=
      h.cutBack hclean (fun _ => rfl) hoperator fun _ => hrest
    rw [hgap, List.nil_append] at hcut hafter
    exact ⟨first, tail, (mark_literal v).symm.trans hmark, .inl ⟨hcut, hafter⟩⟩
  · obtain ⟨negative, rfl⟩ := h.eq_infinity hclean
    have htext := congrArg String.toList (Number.plainText_infinity negative)
    cases negative with
    | false =>
      refine ⟨'i', ['n', 'f'], htext, .inr ⟨⟨false, rfl⟩, fun c hc => ?_⟩⟩
      have hword : ['n', 'f'].all inName = true := by decide
      rw [cut_of_startsName (by decide)] at hc
      have hcut : wordToken ('i' :: (['n', 'f'] ++ rest).takeWhile inName) = c := Except.ok.inj hc
      rw [(takeWhile_append_separate (List.all_eq_true.mp hword) hrest).1] at hcut
      rw [← hcut]
      decide
    | true =>
      refine ⟨'-', ['i', 'n', 'f'], htext, .inr ⟨⟨true, rfl⟩, fun c hc => ?_⟩⟩
      have hminus : TokenKind.operator (.arithmetic .subtract) = c.1 :=
        congrArg Prod.fst (Except.ok.inj hc)
      rw [← hminus]
      rfl

/-- **Two literals are told apart by their texts** in front of anything that they do not run
into. -/
theorem Lexed.literal_inj {v w : Literal} (hv : Lexed (v.kind, v)) (hw : Lexed (w.kind, w))
    {rest rest' : List Char} (hrest : Separate rest) (hrest' : Separate rest')
    (h : v.toQuery.toList ++ rest = w.toQuery.toList ++ rest') : v = w ∧ rest = rest' := by
  obtain ⟨first, tail, htext, hcut⟩ := hv.exists_cut hrest
  obtain ⟨first', tail', htext', hcut'⟩ := hw.exists_cut hrest'
  have hsame := h
  rw [htext, htext', List.cons_append, List.cons_append] at hsame
  obtain ⟨rfl, htails⟩ := List.cons.inj hsame
  rw [← htails] at hcut'
  rcases hcut with ⟨hread, hafter⟩ | ⟨⟨negative, rfl⟩, hother⟩
  · rcases hcut' with ⟨hread', hafter'⟩ | ⟨-, hother'⟩
    · have hcontent := Except.ok.inj (hread.symm.trans hread')
      exact ⟨congrArg Prod.snd hcontent, hafter.symm.trans hafter'⟩
    · exact Bool.noConfusion ((hother' _ hread).symm.trans v.isLiteral_kind)
  · rcases hcut' with ⟨hread', -⟩ | ⟨⟨negative', rfl⟩, -⟩
    · exact Bool.noConfusion ((hother _ hread').symm.trans w.isLiteral_kind)
    · -- only the texts of the two infinite numbers are left, which start differently
      have hword : first :: tail = (if negative then "-inf" else "inf").toList :=
        htext.symm.trans (congrArg String.toList (Number.plainText_infinity negative))
      have hword' : first :: tail' = (if negative' then "-inf" else "inf").toList :=
        htext'.symm.trans (congrArg String.toList (Number.plainText_infinity negative'))
      obtain rfl : negative = negative' := by
        cases negative <;> cases negative' <;>
          first
          | rfl
          | exact absurd ((List.cons.inj hword).1.symm.trans (List.cons.inj hword').1) (by decide)
      exact ⟨rfl, List.append_cancel_left h⟩

/-! ## Line breaks -/

/-- A name stands on one line. -/
theorem Lexed.name_oneLine {name : String} (h : Lexed (.identifier, .string name)) :
    '\n' ∉ name.toList := by
  generalize hc : (TokenKind.identifier, Literal.string name) = c at h
  cases h with
  | @name first rest hstart hfirst hrest hfree =>
    obtain rfl := Literal.string.inj (congrArg Prod.snd hc)
    rw [String.toList_ofList]
    intro hmem
    rcases List.mem_cons.mp hmem with rfl | hmem
    · exact absurd hstart (by decide)
    · rcases hrest _ hmem with hdot | ⟨hname, -⟩
      · exact absurd hdot (by decide)
      · exact absurd hname (by decide)
  | boolean b => cases b <;> cases hc
  | mark => cases hc
  | _ => cases hc

/-- A number stands on one line. -/
theorem Lexed.number_oneLine {x : Float} (h : Lexed (.number, .number x)) :
    '\n' ∉ (Number.plainText x).toList := by
  generalize hc : (TokenKind.number, Literal.number x) = c at h
  cases h with
  | @number bits hbits negative =>
    obtain rfl := Literal.number.inj (congrArg Prod.snd hc)
    by_cases hinf : bits = Number.infinityBits
    · rw [hinf, Number.plainText_infinity]
      cases negative <;> decide
    · rw [Number.toList_plainText hbits negative hinf]
      have hdigits := (Number.plainDigits_spec hbits negative hinf).2.1
      intro hmem
      rcases List.mem_append.mp hmem with hsign | hdigit
      · cases negative with
        | false => exact absurd hsign List.not_mem_nil
        | true => exact absurd (List.mem_singleton.mp hsign) (by decide)
      · exact absurd (hdigits _ hdigit) (by decide)
  | boolean b => cases b <;> cases hc
  | mark => cases hc
  | _ => cases hc

/-- No escape breaks a line. -/
theorem escape_oneLine (c : Char) : '\n' ∉ Literal.escape c := by
  unfold Literal.escape
  split
  · decide
  · decide
  · decide
  · decide
  · decide
  · next hbreak _ _ => exact fun hmem => hbreak (List.mem_singleton.mp hmem).symm

end Content

namespace Expr

/-- An operator stands on one line. -/
theorem symbol_oneLine : ∀ op ∈ Operator.all, '\n' ∉ op.symbol.toList := by
  decide

theorem symbol_inj : ∀ f ∈ Operator.all, ∀ g ∈ Operator.all, f.symbol = g.symbol → f = g := by
  decide

/-- Whether a node is a regular expression that is broken over lines. -/
def IsBroken : Expr → Prop
  | literal (.regex source) _ => '\n' ∈ source.toList
  | _ => False

theorem IsBroken.exists_regex {e : Expr} (h : e.IsBroken) :
    ∃ text s, e = literal (.regex text) s ∧ '\n' ∈ text.toList := by
  cases e with
  | literal v s =>
    cases v with
    | regex text => exact ⟨text, s, rfl, h⟩
    | _ => cases h
  | _ => cases h

/-- **A label stands on one line** unless it is that of a regular expression which does not. -/
theorem label_oneLine_iff {e : Expr} (h : Content.Lexed e.sign) :
    '\n' ∉ e.label.toList ↔ ¬ e.IsBroken := by
  have hlabel : '\n' ∈ e.label.toList ↔ '\n' ∈ e.detail.toList := by
    rw [label_eq, String.toList_append, List.mem_append]
    exact or_iff_right (caption_oneLine _ e.caption_mem)
  rw [hlabel]
  refine not_congr ?_
  cases e with
  | literal v s =>
    cases v with
    | null => exact iff_of_false (show '\n' ∉ "null".toList by decide) id
    | boolean b =>
      cases b with
      | false => exact iff_of_false (show '\n' ∉ "false".toList by decide) id
      | true => exact iff_of_false (show '\n' ∉ "true".toList by decide) id
    | number x => exact iff_of_false h.number_oneLine id
    | string text =>
      refine iff_of_false (fun hmem => ?_) id
      rw [detail, Literal.toQuery, String.toList_ofList] at hmem
      rcases List.mem_append.mp hmem with hmem | hmem
      · rcases List.mem_cons.mp hmem with hquote | hmem
        · exact absurd hquote (by decide)
        · obtain ⟨c, -, hc⟩ := List.mem_flatMap.mp hmem
          exact Content.escape_oneLine c hc
      · exact absurd (List.mem_singleton.mp hmem) (by decide)
    | regex source =>
      rw [detail, Literal.toQuery, String.toList_append, String.toList_append, List.mem_append,
        List.mem_append]
      exact (or_iff_left (by decide)).trans (or_iff_right (by decide))
  | identifier name s => exact iff_of_false h.name_oneLine id
  | binary op l r s => exact iff_of_false (symbol_oneLine op op.mem_all) id
  | group b s => exact iff_of_false List.not_mem_nil id
  | list es s => exact iff_of_false List.not_mem_nil id

/-! ## From a line to its node -/

/-- **What a label says** can be told from what follows it, wherever the line ends. -/
theorem sign_eq_of_label {a b : Expr} (ha : Content.Lexed a.sign) (hb : Content.Lexed b.sign)
    {rest rest' : List Char} (hrest : EndsLine rest) (hrest' : EndsLine rest')
    (h : a.label.toList ++ rest = b.label.toList ++ rest') : a.sign = b.sign ∧ rest = rest' := by
  rw [label_eq, label_eq, String.toList_append, String.toList_append, List.append_assoc,
    List.append_assoc] at h
  have hcaption : a.caption = b.caption := by
    -- of two captions in front of one text, one starts the other
    rcases List.prefix_or_prefix_of_prefix (List.prefix_append _ _) (h ▸ List.prefix_append _ _)
      with hp | hp
    · exact (caption_eq_of_starts _ b.caption_mem _ a.caption_mem hp).symm
    · exact caption_eq_of_starts _ a.caption_mem _ b.caption_mem hp
  rw [hcaption] at h
  have hdetail := List.append_cancel_left h
  cases a with
  | literal v s =>
    cases b with
    | literal w t =>
      obtain ⟨rfl, htail⟩ := Content.Lexed.literal_inj ha hb hrest.separate hrest'.separate hdetail
      exact ⟨rfl, htail⟩
    | _ => simp [caption] at hcaption
  | identifier n s =>
    cases b with
    | identifier m t =>
      obtain ⟨hname, htail⟩ := hrest.append_inj hrest' ha.name_oneLine hb.name_oneLine hdetail
      obtain rfl : n = m := String.toList_inj.mp hname
      exact ⟨rfl, htail⟩
    | _ => simp [caption] at hcaption
  | binary f l r s =>
    cases b with
    | binary g l' r' t =>
      obtain ⟨hsymbol, htail⟩ := hrest.append_inj hrest' (symbol_oneLine f f.mem_all)
        (symbol_oneLine g g.mem_all) hdetail
      obtain rfl : f = g :=
        symbol_inj f f.mem_all g g.mem_all (String.toList_inj.mp hsymbol)
      exact ⟨rfl, htail⟩
    | _ => simp [caption] at hcaption
  | group body s =>
    cases b with
    | group body' t => exact ⟨rfl, hdetail⟩
    | _ => simp [caption] at hcaption
  | list es s =>
    cases b with
    | list es' t => exact ⟨rfl, hdetail⟩
    | _ => simp [caption] at hcaption

/-- The line of a node at a depth. -/
def line (node : Nat × Expr) : List Char :=
  List.replicate (2 * node.1) ' ' ++ node.2.label.toList

/-- **The depth that a line shows**: half as many as there are blanks in front of it. -/
def shownDepth (line : List Char) : Nat := (line.takeWhile (· == ' ')).length / 2

/-- The indentation of a line ends where its label starts. -/
theorem takeWhile_line (node : Nat × Expr) (rest : List Char) :
    (line node ++ rest).takeWhile (· == ' ') = List.replicate (2 * node.1) ' ' ∧
      (line node ++ rest).dropWhile (· == ' ') = node.2.label.toList ++ rest := by
  have hblank : ∀ c ∈ List.replicate (2 * node.1) ' ', (c == ' ') = true :=
    fun c hc => beq_iff_eq.mpr (List.eq_of_mem_replicate hc)
  have hlabel : ∀ c ∈ (node.2.label.toList ++ rest).head?, (c == ' ') = false := by
    intro c hc
    have hhead := caption_head _ node.2.caption_mem
    rw [label_eq, String.toList_append, List.append_assoc, List.head?_append] at hc
    cases hcaption : node.2.caption.toList.head? with
    | none =>
      rw [hcaption] at hhead
      cases hhead
    | some d =>
      rw [hcaption] at hc hhead
      obtain rfl : d = c := Option.some.inj hc
      exact bne_iff_ne.mp hhead |> beq_false_of_ne
  rw [line, List.append_assoc]
  exact Content.takeWhile_append_separate hblank hlabel

/-- The depth of a node is shown by its line. -/
theorem shownDepth_line (node : Nat × Expr) : shownDepth (line node) = node.1 := by
  have h := (takeWhile_line node []).1
  rw [List.append_nil] at h
  rw [shownDepth, h, List.length_replicate]
  omega

/-! ## From lines to trees -/

/-- A node as its line shows it: its depth and its token. -/
def note (node : Nat × Expr) : Nat × Content := (node.1, node.2.sign)

/-- Some nodes line by line, a line break in front of each. -/
def linesText (nodes : List (Nat × Expr)) : List Char := nodes.flatMap fun node => '\n' :: line node

theorem endsLine_linesText (nodes : List (Nat × Expr)) : EndsLine (linesText nodes) := by
  cases nodes with
  | nil => exact fun _ h => by cases h
  | cons node nodes => exact fun _ h => (Option.some.inj h).symm

/-- **Lines are told one after another**, each up to its end. -/
theorem notes_eq_of_linesText {nodes nodes' : List (Nat × Expr)}
    (hnodes : ∀ node ∈ nodes, Content.Lexed node.2.sign)
    (hnodes' : ∀ node ∈ nodes', Content.Lexed node.2.sign)
    (h : linesText nodes = linesText nodes') : nodes.map note = nodes'.map note := by
  induction nodes generalizing nodes' with
  | nil =>
    cases nodes' with
    | nil => rfl
    | cons node' nodes' => cases h
  | cons node nodes ih =>
    cases nodes' with
    | nil => cases h
    | cons node' nodes' =>
      obtain ⟨hnode, hnodes⟩ := List.forall_mem_cons.mp hnodes
      obtain ⟨hnode', hnodes'⟩ := List.forall_mem_cons.mp hnodes'
      have hline : line node ++ linesText nodes = line node' ++ linesText nodes' :=
        (List.cons.inj h).2
      obtain ⟨hindent, hlabel⟩ := takeWhile_line node (linesText nodes)
      obtain ⟨hindent', hlabel'⟩ := takeWhile_line node' (linesText nodes')
      rw [hline] at hindent hlabel
      have hdepth := congrArg List.length (hindent.symm.trans hindent')
      rw [List.length_replicate, List.length_replicate] at hdepth
      obtain ⟨hsign, htail⟩ := sign_eq_of_label hnode hnode' (endsLine_linesText nodes)
        (endsLine_linesText nodes') (hlabel.symm.trans hlabel')
      rw [List.map_cons, List.map_cons, ih hnodes hnodes' htail, note, note, hsign]
      congr 2
      omega

/-- What the lines of a tree at a depth show. -/
def notesFrom (depth : Nat) (e : Expr) : List (Nat × Content) := (e.nodesFrom depth).map note

/-- What the lines of several trees at a depth show. -/
def listNotesFrom (depth : Nat) (es : List Expr) : List (Nat × Content) :=
  (listNodesFrom depth es).map note

theorem notesFrom_leaf {e : Expr} {depth : Nat} (h : e.nodesFrom depth = [(depth, e)]) :
    e.notesFrom depth = [(depth, e.sign)] := by
  rw [notesFrom, h]
  rfl

theorem notesFrom_binary (depth : Nat) (op : Operator) (l r : Expr) (s : Span) :
    (binary op l r s).notesFrom depth
      = (depth, .operator op, .null) :: (l.notesFrom (depth + 1) ++ r.notesFrom (depth + 1)) := by
  rw [notesFrom, nodesFrom, List.map_cons, List.map_append]
  rfl

theorem notesFrom_group (depth : Nat) (b : Expr) (s : Span) :
    (group b s).notesFrom depth = (depth, .leftParen, .null) :: b.notesFrom (depth + 1) := by
  rw [notesFrom, nodesFrom, List.map_cons]
  rfl

theorem notesFrom_list (depth : Nat) (es : List Expr) (s : Span) :
    (list es s).notesFrom depth
      = (depth, .leftBracket, .null) :: listNotesFrom (depth + 1) es := by
  rw [notesFrom, nodesFrom, List.map_cons]
  rfl

theorem listNotesFrom_cons (depth : Nat) (e : Expr) (es : List Expr) :
    listNotesFrom depth (e :: es) = e.notesFrom depth ++ listNotesFrom depth es := by
  rw [listNotesFrom, listNodesFrom, List.map_append]
  rfl

/-- The first line of a tree is that of its root. -/
theorem exists_notesFrom_cons (depth : Nat) (e : Expr) :
    ∃ notes, e.notesFrom depth = (depth, e.sign) :: notes := by
  cases e with
  | binary op l r s => exact ⟨_, notesFrom_binary depth op l r s⟩
  | group b s => exact ⟨_, notesFrom_group depth b s⟩
  | list es s => exact ⟨_, notesFrom_list depth es s⟩
  | literal v s => exact ⟨[], notesFrom_leaf rfl⟩
  | identifier n s => exact ⟨[], notesFrom_leaf rfl⟩

theorem sign_eq_of_notes_eq {a b : Expr} {depth : Nat} {rest rest' : List (Nat × Content)}
    (h : a.notesFrom depth ++ rest = b.notesFrom depth ++ rest') : a.sign = b.sign := by
  obtain ⟨notes, hnotes⟩ := exists_notesFrom_cons depth a
  obtain ⟨notes', hnotes'⟩ := exists_notesFrom_cons depth b
  rw [hnotes, hnotes'] at h
  exact congrArg Prod.snd (List.cons.inj h).1

/-- Whether what follows a tree at a depth is no part of it: its first line, if there is one, is no
deeper. -/
def Outside (depth : Nat) (notes : List (Nat × Content)) : Prop :=
  ∀ n ∈ notes.head?, n.1 ≤ depth

theorem Outside.deeper {depth : Nat} {notes : List (Nat × Content)} (h : Outside depth notes) :
    Outside (depth + 1) notes :=
  fun n hn => Nat.le_succ_of_le (h n hn)

theorem outside_notesFrom (depth : Nat) (e : Expr) (notes : List (Nat × Content)) :
    Outside depth (e.notesFrom depth ++ notes) := by
  obtain ⟨others, h⟩ := exists_notesFrom_cons depth e
  rw [h]
  rintro n ⟨⟩
  exact Nat.le_refl depth

theorem Outside.elements {depth : Nat} {notes : List (Nat × Content)} (h : Outside depth notes)
    (es : List Expr) : Outside (depth + 1) (listNotesFrom (depth + 1) es ++ notes) := by
  cases es with
  | nil => exact h.deeper
  | cons e es =>
    rw [listNotesFrom_cons, List.append_assoc]
    exact outside_notesFrom _ e _

/-- The elements of a list are told from their lines if each of them is. -/
theorem bareElements_eq_of_notes_eq {es : List Expr} {depth : Nat}
    (h : ∀ e ∈ es, ∀ {f : Expr} {rest rest' : List (Nat × Content)}, Outside (depth + 1) rest →
      Outside (depth + 1) rest' →
      e.notesFrom (depth + 1) ++ rest = f.notesFrom (depth + 1) ++ rest' →
      e.bare = f.bare ∧ rest = rest')
    {fs : List Expr} {rest rest' : List (Nat × Content)} (hrest : Outside depth rest)
    (hrest' : Outside depth rest')
    (heq : listNotesFrom (depth + 1) es ++ rest = listNotesFrom (depth + 1) fs ++ rest') :
    bareElements es = bareElements fs ∧ rest = rest' := by
  -- a line of an element is too deep to follow the list
  have houtside : ∀ (f : Expr) (fs : List Expr) {notes notes' : List (Nat × Content)},
      Outside depth notes → notes ≠ listNotesFrom (depth + 1) (f :: fs) ++ notes' := by
    rintro f fs notes notes' hnotes rfl
    obtain ⟨others, hfirst⟩ := exists_notesFrom_cons (depth + 1) f
    rw [listNotesFrom_cons, hfirst] at hnotes
    exact absurd (hnotes _ rfl) (Nat.not_succ_le_self depth)
  induction es generalizing fs with
  | nil =>
    cases fs with
    | nil => exact ⟨rfl, heq⟩
    | cons f fs => exact absurd heq (houtside f fs hrest)
  | cons e es ih =>
    cases fs with
    | nil => exact absurd heq.symm (houtside e es hrest')
    | cons f fs =>
      obtain ⟨hfirst, hothers⟩ := List.forall_mem_cons.mp h
      rw [listNotesFrom_cons, listNotesFrom_cons, List.append_assoc, List.append_assoc] at heq
      obtain ⟨hbare, htail⟩ := hfirst (hrest.elements es) (hrest'.elements fs) heq
      obtain ⟨hbares, hafter⟩ := ih hothers htail
      rw [bareElements, bareElements, hbare, hbares]
      exact ⟨rfl, hafter⟩

/-- Only a literal has the token of one. -/
theorem eq_literal_of_sign {v : Literal} {b : Expr} (h : (v.kind, v) = b.sign) :
    ∃ s, b = literal v s := by
  have hliteral := v.isLiteral_kind
  rw [show v.kind = b.sign.1 from congrArg Prod.fst h] at hliteral
  cases b with
  | literal w s =>
    obtain rfl : v = w := congrArg Prod.snd h
    exact ⟨s, rfl⟩
  | _ => cases hliteral

/-- **The token of a node tells what kind of node it is**, up to its span and its children. -/
theorem root_of_sign {a b : Expr} (h : a.sign = b.sign) :
    match a with
    | literal v _ => ∃ s, b = literal v s
    | identifier n _ => ∃ s, b = identifier n s
    | binary op _ _ _ => ∃ l r s, b = binary op l r s
    | group _ _ => ∃ body s, b = group body s
    | list _ _ => ∃ es s, b = list es s := by
  cases b with
  | literal v s =>
    obtain ⟨t, rfl⟩ := eq_literal_of_sign h.symm
    exact ⟨s, rfl⟩
  | identifier n s =>
    cases a with
    | identifier m t =>
      cases h
      exact ⟨s, rfl⟩
    | literal v t => obtain ⟨u, ⟨⟩⟩ := eq_literal_of_sign h
    | _ => cases h
  | binary op l r s =>
    cases a with
    | binary op' l' r' t =>
      cases h
      exact ⟨l, r, s, rfl⟩
    | literal v t => obtain ⟨u, ⟨⟩⟩ := eq_literal_of_sign h
    | _ => cases h
  | group body s =>
    cases a with
    | group body' t => exact ⟨body, s, rfl⟩
    | literal v t => obtain ⟨u, ⟨⟩⟩ := eq_literal_of_sign h
    | _ => cases h
  | list es s =>
    cases a with
    | list es' t => exact ⟨es, s, rfl⟩
    | literal v t => obtain ⟨u, ⟨⟩⟩ := eq_literal_of_sign h
    | _ => cases h

/-- **Depths and tokens tell a tree**, up to the first line that is no deeper than its root. -/
theorem bare_eq_of_notes_eq {a b : Expr} {depth : Nat} {rest rest' : List (Nat × Content)}
    (hrest : Outside depth rest) (hrest' : Outside depth rest')
    (h : a.notesFrom depth ++ rest = b.notesFrom depth ++ rest') :
    a.bare = b.bare ∧ rest = rest' := by
  -- the lines of the children are one deeper, and what follows each of them is not deeper
  induction a generalizing b depth rest rest' with
  | literal v s =>
    obtain ⟨t, rfl⟩ := root_of_sign (sign_eq_of_notes_eq h)
    exact ⟨rfl, (List.cons.inj h).2⟩
  | identifier n s =>
    obtain ⟨t, rfl⟩ := root_of_sign (sign_eq_of_notes_eq h)
    exact ⟨rfl, (List.cons.inj h).2⟩
  | binary op l r s ihl ihr =>
    obtain ⟨l', r', t, rfl⟩ := root_of_sign (sign_eq_of_notes_eq h)
    rw [notesFrom_binary, notesFrom_binary, List.cons_append, List.cons_append,
      List.append_assoc, List.append_assoc] at h
    obtain ⟨hl, htail⟩ := ihl (outside_notesFrom _ r rest) (outside_notesFrom _ r' rest')
      (List.cons.inj h).2
    obtain ⟨hr, hafter⟩ := ihr hrest.deeper hrest'.deeper htail
    rw [bare, bare, hl, hr]
    exact ⟨rfl, hafter⟩
  | group body s ih =>
    obtain ⟨body', t, rfl⟩ := root_of_sign (sign_eq_of_notes_eq h)
    rw [notesFrom_group, notesFrom_group, List.cons_append, List.cons_append] at h
    obtain ⟨hbody, hafter⟩ := ih hrest.deeper hrest'.deeper (List.cons.inj h).2
    rw [bare, bare, hbody]
    exact ⟨rfl, hafter⟩
  | list es s ih =>
    obtain ⟨fs, t, rfl⟩ := root_of_sign (sign_eq_of_notes_eq h)
    rw [notesFrom_list, notesFrom_list, List.cons_append, List.cons_append] at h
    obtain ⟨helements, hafter⟩ :=
      bareElements_eq_of_notes_eq (fun e he => ih e he) hrest hrest' (List.cons.inj h).2
    rw [bare, bare, helements]
    exact ⟨rfl, hafter⟩

/-! ## Outlines -/

/-- The token that tells a tree is one of those it is made of. -/
theorem sign_mem_contents (e : Expr) : e.sign ∈ e.contents := by
  cases e with
  | binary op l r s => exact List.mem_append_right _ List.mem_cons_self
  | _ => exact List.mem_cons_self

/-- A child is made of tokens of its parent. -/
theorem mem_contents_of_child {e c : Expr} (h : c ∈ e.children) {t : Content}
    (ht : t ∈ c.contents) : t ∈ e.contents := by
  cases e with
  | literal v s => cases h
  | identifier n s => cases h
  | binary op l r s =>
    rcases List.mem_cons.mp h with rfl | h
    · exact List.mem_append_left _ ht
    · rw [List.mem_singleton.mp h] at ht
      exact List.mem_append_right _ (List.mem_cons_of_mem _ ht)
  | group b s =>
    rw [List.mem_singleton.mp h] at ht
    exact List.mem_cons_of_mem _ (List.mem_append_left _ ht)
  | list es s => exact List.mem_cons_of_mem _ (List.mem_append_left _ (mem_elementContents h ht))

/-- What tells a node of a tree that was cut from a text can be cut from one. -/
theorem lexed_sign {e : Expr} (h : ∀ c ∈ e.contents, Content.Lexed c) :
    ∀ node ∈ e.nodes, Content.Lexed node.2.sign := by
  have hcontents := forall_mem_nodes (P := fun n => ∀ c ∈ n.contents, Content.Lexed c)
    (fun n hn c hc d hd => hn d (mem_contents_of_child hc hd)) e h 0
  exact fun node hnode => hcontents node hnode _ node.2.sign_mem_contents

theorem nodes_ne_nil (e : Expr) : e.nodes ≠ [] := by
  cases e <;> exact List.cons_ne_nil _ _

/-- Texts with one character between each and the next. -/
theorem cons_intercalate {α : Type} (a : α) {xs : List (List α)} (h : xs ≠ []) :
    a :: [a].intercalate xs = xs.flatMap (a :: ·) := by
  induction xs with
  | nil => exact absurd rfl h
  | cons x xs ih =>
    by_cases hxs : xs = []
    · subst hxs
      simp
    · obtain ⟨y, ys, rfl⟩ := List.exists_cons_of_ne_nil hxs
      rw [List.flatMap_cons, ← ih hxs]
      simp

/-- **The outline of a tree** is made of the lines of its nodes. -/
theorem toList_toTree (e : Expr) : e.toTree.toList = ['\n'].intercalate (e.nodes.map line) := by
  have hbreak : "\n".toList = ['\n'] := rfl
  rw [toTree, String.toList_intercalate, hbreak, treeLines, List.map_map]
  congr 1
  refine List.map_congr_left fun node _ => ?_
  obtain ⟨depth, n⟩ := node
  exact String.toList_append.trans (congrArg (· ++ _) String.toList_ofList)

/-- Outlines of trees whose tokens can be cut from a text tell the trees. -/
theorem bare_eq_of_toTree_eq {a b : Expr} (ha : ∀ c ∈ a.contents, Content.Lexed c)
    (hb : ∀ c ∈ b.contents, Content.Lexed c) (h : a.toTree = b.toTree) : a.bare = b.bare := by
  have htext : ∀ e : Expr, '\n' :: e.toTree.toList = linesText e.nodes := by
    intro e
    rw [toList_toTree, cons_intercalate '\n' (List.map_eq_nil_iff.not.mpr e.nodes_ne_nil),
      List.flatMap_map]
    rfl
  have hlines : linesText a.nodes = linesText b.nodes := by
    rw [← htext, ← htext, h]
  have hnotes : a.notesFrom 0 ++ [] = b.notesFrom 0 ++ [] := by
    rw [List.append_nil, List.append_nil]
    exact notes_eq_of_linesText (lexed_sign ha) (lexed_sign hb) hlines
  have hnothing : Outside 0 [] := fun _ h => by cases h
  exact (bare_eq_of_notes_eq hnothing hnothing hnotes).1

/-- **The lines of an outline are those of its nodes** unless a label is broken over lines. -/
theorem splitOn_toTree_iff (e : Expr) :
    e.toTree.toList.splitOn '\n' = e.nodes.map line ↔
      ∀ node ∈ e.nodes, '\n' ∉ node.2.label.toList := by
  have hline : ∀ node : Nat × Expr, '\n' ∈ line node ↔ '\n' ∈ node.2.label.toList := by
    intro node
    refine List.mem_append.trans (or_iff_right fun hmem => ?_)
    exact absurd (List.eq_of_mem_replicate hmem) (by decide)
  constructor
  · intro h node hnode
    rw [← hline]
    exact not_mem_of_mem_splitOn (h ▸ List.mem_map_of_mem hnode)
  · intro h
    rw [toList_toTree]
    refine List.splitOn_intercalate _ (fun l hl => ?_)
      (List.map_eq_nil_iff.not.mpr e.nodes_ne_nil)
    obtain ⟨node, hnode, rfl⟩ := List.mem_map.mp hl
    rw [hline]
    exact h node hnode

end Expr

/-- What a tree that was read is made of can be cut from a text. -/
theorem lexed_of_parseExpression {source : String} {e : Expr} (h : parseExpression source = .ok e) :
    ∀ c ∈ e.contents, Content.Lexed c := by
  obtain ⟨ts, stop, htokens, -, -, hspell, -, -⟩ := (parseExpression_eq_ok_iff _ _).mp h
  obtain ⟨-, -, -, hlexed, -⟩ := contents_of_tokenize htokens hspell
  exact hlexed

/-- **An outline has one line for every node**, parents first, each showing the depth of its node,
exactly if no regular expression is broken over lines. Two trees that were read have the same
outline only if they differ in spans alone, broken or not. -/
theorem toTree_lines_iff {source : String} {e : Expr} (h : parseExpression source = .ok e) :
    (e.toTree.toList.splitOn '\n'
          = e.nodes.map (fun (depth, node) => List.replicate (2 * depth) ' ' ++ node.label.toList) ↔
        ∀ depth text s, (depth, Expr.literal (.regex text) s) ∈ e.nodes → '\n' ∉ text.toList) ∧
      ((∀ depth text s, (depth, Expr.literal (.regex text) s) ∈ e.nodes → '\n' ∉ text.toList) →
        (e.toTree.toList.splitOn '\n').map Expr.shownDepth = e.nodes.map Prod.fst) ∧
      ∀ source' e', parseExpression source' = .ok e' → e.toTree = e'.toTree →
        e.bare = e'.bare ∧ e.sameShape e' = true := by
  have hlabels : (∀ node ∈ e.nodes, '\n' ∉ node.2.label.toList) ↔
      ∀ depth text s, (depth, Expr.literal (.regex text) s) ∈ e.nodes → '\n' ∉ text.toList := by
    have hsigns := Expr.lexed_sign (lexed_of_parseExpression h)
    constructor
    · intro hlabels depth text s hmem
      exact (Expr.label_oneLine_iff (hsigns _ hmem)).mp (hlabels _ hmem)
    · intro htexts node hmem
      refine (Expr.label_oneLine_iff (hsigns _ hmem)).mpr fun hbroken => ?_
      obtain ⟨text, s, hnode, hbreak⟩ := hbroken.exists_regex
      exact htexts node.1 text s (hnode ▸ hmem) hbreak
  have hlines := e.splitOn_toTree_iff.trans hlabels
  refine ⟨hlines, fun htexts => ?_, fun source' e' h' htree => ?_⟩
  · rw [hlines.mpr htexts, List.map_map]
    exact List.map_congr_left fun node _ => Expr.shownDepth_line node
  · have hbare := Expr.bare_eq_of_toTree_eq (lexed_of_parseExpression h)
      (lexed_of_parseExpression h') htree
    exact ⟨hbare, Expr.sameShape_of_forall_eq hbare.symm fun c hc =>
      (lexed_of_parseExpression h c hc).eq_self⟩

/-- A string with a line break in it stands on one line, and two spellings of it have one
outline. -/
theorem toTree_lines_iff_string :
    ∃ e e', parseExpression "['\n',/c/]" = .ok e ∧ parseExpression "[\"\\n\", /c/]" = .ok e' ∧
      (e.toTree.toList.splitOn '\n').map Expr.shownDepth = [0, 1, 1] ∧
      e.toTree = e'.toTree ∧ e.sameShape e' = true := by
  let e : Expr := .list [.literal (.string "\n") ⟨⟨1, 1, 2⟩, ⟨4, 2, 2⟩⟩,
    .literal (.regex "c") ⟨⟨5, 2, 3⟩, ⟨8, 2, 6⟩⟩] ⟨⟨0, 1, 1⟩, ⟨9, 2, 7⟩⟩
  let e' : Expr := .list [.literal (.string "\n") ⟨⟨1, 1, 2⟩, ⟨5, 1, 6⟩⟩,
    .literal (.regex "c") ⟨⟨7, 1, 8⟩, ⟨10, 1, 11⟩⟩] ⟨⟨0, 1, 1⟩, ⟨11, 1, 12⟩⟩
  have hread : parseExpression "['\n',/c/]" = .ok e := by cbv
  have hread' : parseExpression "[\"\\n\", /c/]" = .ok e' := by cbv
  have htree : e.toTree = e'.toTree := by decide
  have hbroken : ∀ depth text s, (depth, Expr.literal (.regex text) s) ∈ e.nodes →
      '\n' ∉ text.toList := by
    intro depth text s hmem
    obtain ⟨-, rfl, -⟩ : depth = 1 ∧ text = "c" ∧ s = ⟨⟨5, 2, 3⟩, ⟨8, 2, 6⟩⟩ := by
      simpa [e, Expr.nodes, Expr.nodesFrom, Expr.listNodesFrom] using hmem
    decide
  obtain ⟨-, hdepths, hshape⟩ := toTree_lines_iff hread
  exact ⟨e, e', hread, hread', hdepths hbroken, htree, (hshape _ e' hread' htree).2⟩

/-- A regular expression that is broken over two lines is one node and makes two lines. -/
theorem toTree_broken :
    ∃ e, parseExpression "/a\nb/" = .ok e ∧ e.nodes.length = 1 ∧
      (e.toTree.toList.splitOn '\n').length = 2 ∧
      e.toTree.toList.splitOn '\n'
        ≠ e.nodes.map fun (depth, node) => List.replicate (2 * depth) ' ' ++ node.label.toList := by
  let e : Expr := .literal (.regex "a\nb") ⟨⟨0, 1, 1⟩, ⟨5, 2, 3⟩⟩
  have hread : parseExpression "/a\nb/" = .ok e := by cbv
  exact ⟨e, hread, by decide, by decide, by decide⟩

end CardQuery
