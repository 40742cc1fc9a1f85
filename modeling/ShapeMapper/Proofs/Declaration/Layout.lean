import ShapeMapper.Proofs.Declaration.Separated

/-!
# Types on several lines

A type may be spread over lines: a line may end after each of its operators, and before those that
no other member begins with. However it is laid out, it is one member, and it is read as if it
stood on one line: `members_layout`.
-/

namespace ShapeMapper

open Source Declaration

/-! ### Line ends inside a type -/

namespace Declaration

theorem goesOn_cons {c : Char} (hplain : IsPlain c) (hc : c ∈ ['|', '&', '?', ':']) (t : Text) :
    goesOn (Cut.ofText (c :: t)).pieces = true := by
  have hoperators : ∀ d ∈ ['|', '&', '?', ':'], Text.isBlank d = false :=
    Text.forall_mem_of_all (by decide)
  have htext (pieces : List Piece) :
      (textOf (.char c :: pieces)).dropWhile Text.isBlank = c :: textOf pieces :=
    List.dropWhile_cons_of_neg (by simp [hoperators c hc])
  rw [ofText_char hplain.isQuote_eq hplain.ne_equals, Cut.pieces_cons, goesOn, htext]
  exact List.contains_iff_mem.2 hc

theorem goesOn_blank_append {b : Text} (hb : ∀ c ∈ b, Text.isBlank c = true) (t : Text) :
    goesOn (Cut.ofText (b ++ t)).pieces = goesOn (Cut.ofText t).pieces := by
  induction b with
  | nil => rfl
  | cons c b ih =>
    have hc := hb c List.mem_cons_self
    have hplain := isPlain_of_isBlank hc
    have htext (pieces : List Piece) : (textOf (.char c :: pieces)).dropWhile Text.isBlank =
        (textOf pieces).dropWhile Text.isBlank := List.dropWhile_cons_of_pos hc
    rw [← ih fun d hd => hb d (List.mem_cons_of_mem c hd), List.cons_append,
      ofText_char hplain.isQuote_eq hplain.ne_equals, Cut.pieces_cons, goesOn, htext, goesOn]

/-- A gap in a type is read over: each line end in it stands after an operator or before one. -/
theorem trimmedFrom_gap (pending : Text) {gap t : Text} (hgap : ∀ c ∈ gap, Text.isBlank c = true)
    (hline : '\n' ∈ gap → wantsOperand (Text.strip pending) = true ∨
      goesOn (Cut.ofText t).pieces = true) :
    trimmedFrom pending (gap ++ t) = trimmedFrom (pending ++ gap) t := by
  induction gap generalizing pending with
  | nil => rw [List.nil_append, List.append_nil]
  | cons c gap ih =>
    have hc := hgap c List.mem_cons_self
    have hrest : ∀ d ∈ gap, Text.isBlank d = true := fun d hd => hgap d (List.mem_cons_of_mem c hd)
    have hseparates : separates pending (.char c) (Cut.ofText (gap ++ t)).pieces = false := by
      by_cases hnewline : c = '\n'
      · subst hnewline
        show endsMember pending _ = false
        rcases hline List.mem_cons_self with hwants | hgoes
        · simp [endsMember, hwants]
        · simp [endsMember, goesOn_blank_append hrest, hgoes]
      · exact separates_char ⟨ne_of_isBlank hc (by decide), ne_of_isBlank hc (by decide), hnewline⟩
          _ _
    -- what has been read of the gap changes nothing for the line ends that are left in it
    have hstrip : Text.strip (pending ++ [c]) = Text.strip pending :=
      Text.strip_append_blank pending (List.forall_mem_singleton.2 hc)
    rw [List.cons_append, trimmedFrom_cons (isPlain_of_isBlank hc), hseparates,
      if_neg Bool.false_ne_true, ih _ hrest, List.append_assoc, List.singleton_append]
    rw [hstrip]
    exact fun hmem => hline (List.mem_cons_of_mem c hmem)

end Declaration

namespace Written

/-! ### Gaps -/

theorem IsGap.exists_last {gap : Text} (h : IsGap gap) :
    ∃ b c, gap = b ++ [c] ∧ Text.isBlank c = true := by
  obtain ⟨b, c, rfl⟩ := (List.eq_nil_or_concat gap).resolve_left h.1
  exact ⟨b, c, List.concat_eq_append .., h.2 c (by simp)⟩

theorem IsGap.words_append {gap : Text} (h : IsGap gap) (t u : Text) :
    Text.words (t ++ (gap ++ u)) = Text.words t ++ Text.words u := by
  obtain ⟨c, gap, rfl⟩ := List.exists_cons_of_ne_nil h.1
  rw [List.cons_append, Text.words_append_blank t _ (h.2 c List.mem_cons_self),
    Text.words_blank_append fun d hd => h.2 d (List.mem_cons_of_mem c hd)]

theorem IsGap.bracketed {gap : Text} (h : IsGap gap) :
    Bracketed (fun _ => True) (fun _ => True) gap :=
  bracketed_of_isFiller fun c hc => .inl (h.2 c hc)

/-! ### Operators -/

/-- An operator between two types. -/
inductive Operator
  | bar
  | ampersand
  | arrow
  | question
  | colon
  | extending
  deriving DecidableEq

namespace Operator

def text : Operator → Text
  | bar => ['|']
  | ampersand => ['&']
  | arrow => ['=', '>']
  | question => ['?']
  | colon => [':']
  | extending => "extends".toList

/-- Whether a line may end before the operator. -/
def BeginsLine : Operator → Prop
  | bar | ampersand | question | colon => True
  | arrow | extending => False

variable (o : Operator)

theorem isWord_text : o.text ≠ [] ∧ ∀ c ∈ o.text, Text.isBlank c = false :=
  ⟨by cases o <;> decide, Text.forall_mem_of_all (by cases o <;> decide)⟩

theorem isSpaced_text : Text.IsSpaced o.text :=
  .of_word o.isWord_text.1 o.isWord_text.2

theorem bracketed_text : Bracketed (fun _ => True) isWithin o.text := by
  cases o with
  | arrow => exact .arrow .nil
  | bar | ampersand | question | colon | extending => exact .of_all (by decide)

theorem goesOn_text (h : o.BeginsLine) (u : Text) :
    goesOn (Cut.ofText (o.text ++ u)).pieces = true := by
  cases o with
  | bar | ampersand | question | colon => exact goesOn_cons (by decide) (by decide) u
  | arrow | extending => exact h.elim

/-- After an operator that stands apart an operand is wanted. -/
theorem wantsOperand_text {gap : Text} (hgap : IsGap gap) (u : Text) :
    wantsOperand (Text.strip ((u ++ gap) ++ o.text)) = true := by
  rw [Text.strip_append_word o.isWord_text.1 o.isWord_text.2]
  cases o with
  | bar | ampersand | arrow | question | colon =>
    exact wantsOperand_of_suffix (by decide) (List.suffix_append _ _)
  | extending =>
    -- the gap keeps the word apart from a name before it
    refine wantsOperand_extends fun c hc => ?_
    obtain ⟨b, d, rfl, hblank⟩ := hgap.exists_last
    have hlast : c ∈ (u ++ (b ++ [d])).getLast? := by
      obtain ⟨v, hv⟩ := List.dropWhile_suffix (l := u ++ (b ++ [d])) Text.isBlank
      rw [← hv]
      exact List.mem_getLast?_append_of_mem_getLast? hc
    rw [← List.append_assoc, List.getLast?_concat] at hlast
    rw [← Option.some.inj hlast]
    exact Text.not_isNameChar_of_isBlank hblank

end Operator

/-! ### Atoms -/

/-- A text that ends with a group in brackets: `Map<string, number>`, `(a | b)[]`. -/
structure Group where
  head : Text
  pair : Char × Char
  body : Text
  mem_brackets : pair ∈ brackets
  bracketed_head : Bracketed (fun _ => True) isWithinType head
  bracketed_body : Bracketed (fun _ => True) (fun _ => True) body
  isSpaced : Text.IsSpaced (head ++ (pair.1 :: body ++ [pair.2]))
  not_operator_head : ∀ c ∈ head.head?, c ≠ '|' ∧ c ≠ '&'

def Group.text (g : Group) : Text :=
  g.head ++ (g.pair.1 :: g.body ++ [g.pair.2])

/-- A type without operators outside of brackets. -/
inductive Atom
  | name (n : Name) (h : n.text ≠ "extends".toList)
  | literal (l : Literal) (h : Text.IsSpaced l.text)
  | group (g : Group)

def Atom.text : Atom → Text
  | name n _ => n.text
  | literal l _ => l.text
  | group g => g.text

/-- What stands before the bracket that closes a group does not make it an arrow. -/
theorem Group.isComplete_text (g : Group) : IsComplete g.text := by
  have hbrackets : ∀ pair ∈ brackets, pair.1 ≠ '=' ∧ pair.2 ∉ ['|', '&', ':', '?', ',', 's'] := by
    decide
  obtain ⟨hopen, hclose⟩ := hbrackets g.pair g.mem_brackets
  have hsplit : g.text = (g.head ++ g.pair.1 :: g.body) ++ [g.pair.2] := by
    rw [Group.text, List.append_assoc]
  rw [hsplit]
  refine isComplete_concat hclose fun _ hlast => ?_
  rw [List.getLast?_append_of_ne_nil _ (List.cons_ne_nil _ _), List.getLast?_cons] at hlast
  cases hbody : g.body.getLast? with
  | none =>
    rw [hbody] at hlast
    exact hopen (Option.some.inj hlast)
  | some c =>
    rw [hbody] at hlast
    exact g.bracketed_body.getLast?_ne_equals (hbody.trans hlast)

theorem Group.isLineType_text (g : Group) : IsLineType g.text where
  bracketed := g.bracketed_head.append (.group g.mem_brackets g.bracketed_body .nil)
  isSpaced := g.isSpaced
  ne_nil := List.append_ne_nil_of_right_ne_nil _ (List.cons_ne_nil _ _)
  isComplete := g.isComplete_text

theorem Atom.isLineType_text (a : Atom) : IsLineType a.text := by
  cases a with
  | name n h => exact n.isLineType_text h
  | literal l h => exact isLineType_literal h
  | group g => exact g.isLineType_text

theorem Atom.not_operator_head (a : Atom) : ∀ c ∈ a.text.head?, c ≠ '|' ∧ c ≠ '&' := by
  intro c hc
  cases a with
  | name n h =>
    have hname := Name.isNameChar_of_mem (List.mem_of_head? hc)
    exact ⟨ne_of_isNameChar hname (by decide), ne_of_isNameChar hname (by decide)⟩
  | literal l h =>
    obtain rfl : l.quote = c := Option.some.inj hc
    rcases isQuote_iff.1 l.isQuote_quote with h | h | h <;> rw [h] <;> decide
  | group g =>
    have hopen : ∀ pair ∈ brackets, pair.1 ≠ '|' ∧ pair.1 ≠ '&' := by decide
    have hhead := g.not_operator_head
    rw [text, Group.text] at hc
    cases hcases : g.head with
    | nil =>
      rw [hcases] at hc
      rw [← Option.some.inj hc]
      exact hopen g.pair g.mem_brackets
    | cons d t =>
      rw [hcases] at hc hhead
      exact hhead c hc

/-! ### Layouts -/

/-- An operator and the atom after it, each with the gap before it. A line ends in the first gap
only if no member begins with the operator. -/
structure Link where
  before : Text
  operator : Operator
  after : Text
  atom : Atom
  isGap_before : IsGap before
  isGap_after : IsGap after
  beginsLine : '\n' ∈ before → operator.BeginsLine

def Link.text (k : Link) : Text :=
  k.before ++ (k.operator.text ++ (k.after ++ k.atom.text))

/-- The bar or ampersand in front of a type, with the gap after it. -/
structure Lead where
  operator : Operator
  gap : Text
  operator_eq : operator = .bar ∨ operator = .ampersand
  isGap_gap : IsGap gap

def Lead.text (p : Lead) : Text :=
  p.operator.text ++ p.gap

/-- A type after the colon of its property: atoms with operators between them. -/
structure Layout where
  opening : Text
  lead? : Option Lead
  first : Atom
  links : List Link
  isGap_opening : IsGap opening

namespace Layout

def text (l : Layout) : Text :=
  l.opening ++ (l.lead?.elim [] Lead.text ++ (l.first.text ++ l.links.flatMap Link.text))

/-- The atoms and operators of a type, without the operator in front of it. -/
def parts (l : Layout) : List Text :=
  l.first.text :: l.links.flatMap fun k => [k.operator.text, k.atom.text]

/-- The type on one line. -/
def oneLine (l : Layout) : Text :=
  [' '].intercalate l.parts

end Layout

/-! ### Splitting -/

theorem Link.trimmedFrom_append (k : Link) (pending t : Text) :
    trimmedFrom pending (k.text ++ t) = trimmedFrom (pending ++ k.text) t := by
  have hbefore := trimmedFrom_gap pending k.isGap_before.2
    fun hline => .inr (k.operator.goesOn_text (k.beginsLine hline) (k.after ++ (k.atom.text ++ t)))
  have hafter := trimmedFrom_gap ((pending ++ k.before) ++ k.operator.text)
    (t := k.atom.text ++ t) k.isGap_after.2
    fun _ => .inl (k.operator.wantsOperand_text k.isGap_before pending)
  have hsplit : k.text ++ t =
      k.before ++ (k.operator.text ++ (k.after ++ (k.atom.text ++ t))) := by
    simp only [text, List.append_assoc]
  have hjoin : pending ++ k.text =
      (((pending ++ k.before) ++ k.operator.text) ++ k.after) ++ k.atom.text := by
    simp only [text, List.append_assoc]
  rw [hsplit, hjoin, hbefore, Declaration.trimmedFrom_append k.operator.bracketed_text, hafter,
    Declaration.trimmedFrom_append k.atom.isLineType_text.bracketed_isWithin]

theorem trimmedFrom_links (links : List Link) (pending t : Text) :
    trimmedFrom pending (links.flatMap Link.text ++ t) =
      trimmedFrom (pending ++ links.flatMap Link.text) t := by
  induction links generalizing pending with
  | nil => rw [List.flatMap_nil, List.nil_append, List.append_nil]
  | cons k links ih =>
    rw [List.flatMap_cons, List.append_assoc, k.trimmedFrom_append, ih, List.append_assoc]

/-- After the colon of a property a type is wanted. -/
theorem PropertyName.wantsOperand_label (n : PropertyName) (optional : Bool) :
    wantsOperand (Text.strip (n.label optional)) = true := by
  have hcolon : n.label optional = (n.text ++ if optional then ['?'] else []) ++ [':'] := by
    rw [label, List.append_assoc]
  rw [hcolon, Text.strip_append_word (by decide) (List.forall_mem_singleton.2 (by decide))]
  exact wantsOperand_of_suffix (by decide) (List.suffix_append _ _)

/-- A type is read to its end, whatever lines it stands on. -/
theorem Layout.trimmedFrom_append (l : Layout) (n : PropertyName) (optional : Bool) (t : Text) :
    trimmedFrom [] (n.label optional ++ (l.text ++ t)) =
      trimmedFrom (n.label optional ++ l.text) t := by
  have hopening (u : Text) := trimmedFrom_gap (n.label optional) (t := u) l.isGap_opening.2
    fun _ => .inl (n.wantsOperand_label optional)
  have hlead (u : Text) :
      trimmedFrom (n.label optional ++ l.opening) (l.lead?.elim [] Lead.text ++ u) =
        trimmedFrom ((n.label optional ++ l.opening) ++ l.lead?.elim [] Lead.text) u := by
    cases l.lead? with
    | none => rw [Option.elim_none, List.nil_append, List.append_nil]
    | some p =>
      have hgap := trimmedFrom_gap ((n.label optional ++ l.opening) ++ p.operator.text) (t := u)
        p.isGap_gap.2
        fun _ => .inl (p.operator.wantsOperand_text l.isGap_opening (n.label optional))
      rw [Option.elim_some, Lead.text, List.append_assoc,
        Declaration.trimmedFrom_append p.operator.bracketed_text, hgap]
      simp only [List.append_assoc]
  have hsplit : l.text ++ t = l.opening ++ (l.lead?.elim [] Lead.text ++
      (l.first.text ++ (l.links.flatMap Link.text ++ t))) := by
    simp only [text, List.append_assoc]
  rw [Declaration.trimmedFrom_append (n.bracketed_label optional), List.nil_append, hsplit,
    hopening, hlead, Declaration.trimmedFrom_append l.first.isLineType_text.bracketed_isWithin,
    trimmedFrom_links]
  simp only [text, List.append_assoc]

/-! ### Reading -/

namespace Layout

variable (l : Layout)

/-- A type ends with an atom that stands apart. -/
theorem exists_last : ∃ u b, ∃ a : Atom, Text.isBlank b = true ∧ l.text = u ++ b :: a.text := by
  rcases List.eq_nil_or_concat l.links with hlinks | ⟨links, k, hlinks⟩
  · cases hlead : l.lead? with
    | none =>
      obtain ⟨u, b, hopening, hb⟩ := l.isGap_opening.exists_last
      exact ⟨u, b, l.first, hb, by simp [text, hlinks, hlead, hopening]⟩
    | some p =>
      obtain ⟨u, b, hgap, hb⟩ := p.isGap_gap.exists_last
      exact ⟨l.opening ++ (p.operator.text ++ u), b, l.first, hb, by
        simp [text, hlinks, hlead, Lead.text, hgap]⟩
  · obtain ⟨u, b, hafter, hb⟩ := k.isGap_after.exists_last
    exact ⟨l.opening ++ (l.lead?.elim [] Lead.text ++ (l.first.text ++
      (links.flatMap Link.text ++ (k.before ++ (k.operator.text ++ u))))), b, k.atom, hb, by
        simp [text, hlinks, Link.text, hafter]⟩

theorem isComplete_label (n : PropertyName) (optional : Bool) :
    IsComplete (n.label optional ++ l.text) := by
  obtain ⟨u, b, a, hb, htext⟩ := l.exists_last
  rw [htext, ← List.append_assoc]
  exact a.isLineType_text.isComplete.append _ hb

theorem strip_label (n : PropertyName) (optional : Bool) :
    Text.strip (n.label optional ++ l.text) = n.label optional ++ l.text := by
  have hhead : ∀ c ∈ (n.label optional ++ l.text).head?, Text.isBlank c = false := by
    rw [n.label_append]
    exact n.not_isBlank_head _
  have hlast : ∀ c ∈ (n.label optional ++ l.text).getLast?, Text.isBlank c = false := by
    obtain ⟨u, b, a, -, htext⟩ := l.exists_last
    rw [htext, List.append_cons, ← List.append_assoc,
      List.getLast?_append_of_ne_nil _ a.isLineType_text.ne_nil]
    exact a.isLineType_text.isSpaced.not_isBlank_last
  exact Text.strip_of_not_isBlank hhead hlast

theorem bracketed_text : Bracketed (fun _ => True) (fun _ => True) l.text := by
  have hoperator (o : Operator) : Bracketed (fun _ => True) (fun _ => True) o.text :=
    o.bracketed_text.mono fun _ _ => trivial
  have hatom (a : Atom) : Bracketed (fun _ => True) (fun _ => True) a.text :=
    a.isLineType_text.bracketed.mono fun _ _ => trivial
  have hlead : Bracketed (fun _ => True) (fun _ => True) (l.lead?.elim [] Lead.text) := by
    cases l.lead? with
    | none => exact .nil
    | some p => exact (hoperator p.operator).append p.isGap_gap.bracketed
  have hlinks : Bracketed (fun _ => True) (fun _ => True) (l.links.flatMap Link.text) :=
    .flatMap fun k _ => k.isGap_before.bracketed.append
      ((hoperator k.operator).append (k.isGap_after.bracketed.append (hatom k.atom)))
  exact l.isGap_opening.bracketed.append (hlead.append ((hatom l.first).append hlinks))

theorem words_links (links : List Link) (t : Text) :
    Text.words (t ++ links.flatMap Link.text) =
      (t :: links.flatMap fun k => [k.operator.text, k.atom.text]).flatMap Text.words := by
  induction links generalizing t with
  | nil => simp
  | cons k links ih =>
    rw [List.flatMap_cons, Link.text]
    simp only [List.append_assoc]
    rw [k.isGap_before.words_append, k.isGap_after.words_append, ih]
    simp

/-- The words of a type are those of its parts. -/
theorem words_text :
    Text.words l.text =
      (l.lead?.toList.map (fun p => p.operator.text) ++ l.parts).flatMap Text.words := by
  have hopening (u : Text) : Text.words (l.opening ++ u) = Text.words u :=
    Text.words_blank_append l.isGap_opening.2 u
  rw [text, hopening]
  cases l.lead? with
  | none => exact words_links l.links l.first.text
  | some p =>
    rw [Option.elim_some, Lead.text, List.append_assoc, p.isGap_gap.words_append, words_links]
    simp [parts]

theorem isSpaced_parts : ∀ t ∈ l.parts, Text.IsSpaced t ∧ t ≠ [] := by
  have hatom (a : Atom) := And.intro a.isLineType_text.isSpaced a.isLineType_text.ne_nil
  simp only [parts, List.forall_mem_cons, List.mem_flatMap]
  refine ⟨hatom l.first, ?_⟩
  rintro t ⟨k, -, ht⟩
  rcases List.mem_pair.1 ht with rfl | rfl
  · exact ⟨k.operator.isSpaced_text, k.operator.isWord_text.1⟩
  · exact hatom k.atom

/-- The operator in front of a type is left out, and its parts get single spaces between them. -/
theorem normalizeType_text : normalizeType l.text = l.oneLine := by
  have hparts := l.isSpaced_parts
  have hwords := l.words_text
  cases hlead : l.lead? with
  | none =>
    rw [hlead] at hwords
    refine normalizeType_of_words ?_ ?_
    · rw [hwords]
      exact Text.IsSpaced.intercalate_flatMap_words hparts
    · rw [oneLine, parts, Text.head?_intercalate_cons l.first.isLineType_text.ne_nil]
      exact l.first.not_operator_head
  | some p =>
    rw [hlead] at hwords
    have hoperator := And.intro p.operator.isSpaced_text p.operator.isWord_text.1
    have hline : [' '].intercalate (Text.words l.text) = p.operator.text ++ ' ' :: l.oneLine := by
      rw [hwords, Text.IsSpaced.intercalate_flatMap_words (by simpa using ⟨hoperator, hparts⟩)]
      simp [oneLine, parts, List.intercalate_cons_cons]
    have hstrip : Text.strip (' ' :: l.oneLine) = l.oneLine :=
      (Text.strip_blank_append l.oneLine Text.isBlank_of_mem_space).trans
        (Text.IsSpaced.intercalate hparts).strip_eq
    rw [normalizeType, hline]
    rcases p.operator_eq with h | h <;> rw [h] <;> exact hstrip

/-- A property is read with its type on one line. -/
theorem ofText_label (n : PropertyName) (optional : Bool) :
    Member.ofText (n.label optional ++ l.text) =
      .property { name := n.value, type := l.oneLine, optional := optional } := by
  have hne : Text.trimStart l.text ≠ [] := fun hnil => by
    have hblank := List.dropWhile_eq_nil_iff.1 hnil
    obtain ⟨u, b, a, -, htext⟩ := l.exists_last
    obtain ⟨c, t, ha⟩ := List.exists_cons_of_ne_nil a.isLineType_text.ne_nil
    have hc := a.isLineType_text.isSpaced.not_isBlank_head c (by rw [ha]; rfl)
    rw [hblank c (by simp [htext, ha])] at hc
    cases hc
  have htype : normalizeType (Text.trimStart l.text) = l.oneLine := by
    rw [← l.normalizeType_text, normalizeType, normalizeType, Text.words_trimStart]
  have hread := n.ofText_label false optional hne
  rwa [htype] at hread

/-- A type ends where its last line does, if another property stands on the next line. -/
theorem trimmedFrom_newline (n : PropertyName) (optional : Bool) (next : Signature) :
    trimmedFrom [] (n.label optional ++ (l.text ++ '\n' :: next.text)) =
      [n.label optional ++ l.text, next.text] := by
  have hne : n.label optional ++ l.text ≠ [] := by
    rw [n.label_append]
    exact List.append_ne_nil_of_right_ne_nil _ (List.append_ne_nil_of_right_ne_nil _
      (List.cons_ne_nil _ _))
  have hnext := next.isLine_text.startsFresh_append []
  rw [List.append_nil] at hnext
  rw [l.trimmedFrom_append, ← List.singleton_append,
    trimmedFrom_separated hne (l.strip_label n optional) (l.isComplete_label n optional)
      isFiller_newline ⟨'\n', by simp, .inr (.inr rfl)⟩ hnext, next.isLine_text.trimmedFrom_eq]

end Layout

/-- The lines that a type stands on do not matter: its property is read with the type on one line,
and the property on the next line is read as well. -/
theorem members_layout (n : PropertyName) (optional : Bool) (l : Layout) (next : Signature) :
    members (n.label optional ++ (l.text ++ '\n' :: next.text)) =
      .ok [.property { name := n.value, type := l.oneLine, optional := optional },
        .property next.declared] := by
  have hbracketed : Bracketed (fun _ => True) (fun _ => True)
      (n.label optional ++ (l.text ++ '\n' :: next.text)) :=
    ((n.bracketed_label optional).mono fun _ _ => trivial).append
      (l.bracketed_text.append (.char (by decide) trivial
        (next.isLine_text.bracketed.mono fun _ _ => trivial)))
  simp only [members, hbracketed.torn_ofText, if_true, splitMembers_eq, l.trimmedFrom_newline,
    List.map_cons, List.map_nil, l.ofText_label, next.ofText_text]

/-- All operators, on seven lines. -/
theorem members_layout_conditional :
    ∃ (n : PropertyName) (l : Layout) (next : Signature),
      n.label false ++ (l.text ++ '\n' :: next.text) =
        ("p:\n  | A\n  & Map<string, B> extends\n  'c d'\n".toList ++
          "  ? (e) =>\n  F\n  : G\n  | H\nq: string".toList) ∧
      members (n.label false ++ (l.text ++ '\n' :: next.text)) =
        .ok [.property {
            name := ['p']
            type := "A & Map<string, B> extends 'c d' ? (e) => F : G | H".toList },
          .property { name := ['q'], type := "string".toList }] := by
  let map : Group := {
    head := "Map".toList
    pair := ('<', '>')
    body := "string, B".toList
    mem_brackets := by decide
    bracketed_head := .of_all (by decide)
    bracketed_body := .of_all (by decide)
    isSpaced := .of_words (by decide)
    not_operator_head := by
      rintro c ⟨⟩
      decide }
  let argument : Group := {
    head := []
    pair := ('(', ')')
    body := ['e']
    mem_brackets := by decide
    bracketed_head := .nil
    bracketed_body := .of_all (by decide)
    isSpaced := .of_words (by decide)
    not_operator_head := by
      rintro c ⟨⟩ }
  let literal : Quoted := ⟨'\'', "c d".toList, .inl rfl, Text.forall_mem_of_all (by decide)⟩
  let letter (c : Char) (h : Text.isNameStart c = true) : Name := ⟨c, [], h, List.forall_mem_nil _⟩
  have hspace : IsGap [' '] := ⟨by decide, Text.forall_mem_of_all (by decide)⟩
  have hnewline : IsGap "\n  ".toList := ⟨by decide, Text.forall_mem_of_all (by decide)⟩
  let l : Layout := {
    opening := "\n  ".toList
    lead? := some ⟨.bar, [' '], .inl rfl, hspace⟩
    first := .name (letter 'A' (by decide)) (by decide)
    links := [
      ⟨"\n  ".toList, .ampersand, [' '], .group map, hnewline, hspace, fun _ => trivial⟩,
      ⟨[' '], .extending, "\n  ".toList, .literal literal.literal (.of_words (by decide)), hspace,
        hnewline, fun h => absurd h (by decide)⟩,
      ⟨"\n  ".toList, .question, [' '], .group argument, hnewline, hspace, fun _ => trivial⟩,
      ⟨[' '], .arrow, "\n  ".toList, .name (letter 'F' (by decide)) (by decide), hspace, hnewline,
        fun h => absurd h (by decide)⟩,
      ⟨"\n  ".toList, .colon, [' '], .name (letter 'G' (by decide)) (by decide), hnewline, hspace,
        fun _ => trivial⟩,
      ⟨"\n  ".toList, .bar, [' '], .name (letter 'H' (by decide)) (by decide), hnewline, hspace,
        fun _ => trivial⟩]
    isGap_opening := hnewline }
  let string : Name := ⟨'s', "tring".toList, by decide, Text.forall_mem_of_all (by decide)⟩
  let q : Signature := {
    readonly := false
    name := .plain (letter 'q' (by decide))
    optional := false
    type := string.text
    isLineType := string.isLineType_text (by decide)
    not_operator_head := by
      rintro c ⟨⟩
      decide }
  exact ⟨.plain (letter 'p' (by decide)), l, q, rfl, members_layout _ false l q⟩

end Written

end ShapeMapper
