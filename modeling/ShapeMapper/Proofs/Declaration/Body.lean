import ShapeMapper.Proofs.Declaration.Lines

/-!
# Reading the properties of a shape

A written property is read as what it declares (`Property.ofText_text`), and a body is split
into its properties (`Shape.members_body`).
-/

namespace ShapeMapper.Written

open Source Declaration

/-! ### One property -/

/-- A name with the type that it is declared with. -/
def PropertyName.typed (n : PropertyName) (optional : Bool) (type : Text) : Text :=
  n.text ++ ((if optional then ['?'] else []) ++ ": ".toList ++ type)

/-- A name up to the colon before its type. -/
def PropertyName.label (n : PropertyName) (optional : Bool) : Text :=
  n.text ++ ((if optional then ['?'] else []) ++ [':'])

theorem PropertyName.typed_eq (n : PropertyName) (optional : Bool) (type : Text) :
    n.typed optional type = n.label optional ++ ' ' :: type := by
  simp only [typed, label, List.append_assoc]
  rfl

theorem Property.text_eq (p : Property) :
    p.text = (if p.readonly then "readonly ".toList else []) ++
      p.name.typed p.optional p.type.text := by
  simp only [Property.text, PropertyName.typed, List.append_assoc]

/-- What follows the name in a label. -/
theorem not_isNameChar_label (optional : Bool) (t : Text) :
    ∀ c ∈ ((if optional then ['?'] else []) ++ ':' :: t).head?,
      Text.isNameChar c = false ∧ Text.isBlank c = false := by
  cases optional <;> simp <;> decide

theorem PropertyName.label_append (n : PropertyName) (optional : Bool) (t : Text) :
    n.label optional ++ t = n.text ++ ((if optional then ['?'] else []) ++ ':' :: t) := by
  simp only [label, List.append_assoc, List.singleton_append]

theorem Name.propertyName?_append (n : Name) {t : Text}
    (ht : ∀ c ∈ t.head?, Text.isNameChar c = false) :
    propertyName? (n.text ++ t) = some (n.text, t) := by
  have hquote := (isPlain_of_isNameChar
    (Text.isNameChar_of_isNameStart n.isNameStart_first)).isQuote_eq
  have hread : propertyName? (n.text ++ t) = Text.name? (n.text ++ t) := by
    rw [Name.text, List.cons_append]
    unfold propertyName?
    split
    · next heq =>
      rw [(List.cons.inj heq).1] at hquote
      cases hquote
    · next heq =>
      rw [(List.cons.inj heq).1] at hquote
      cases hquote
    · rfl
  rw [hread, n.name?_append ht]

theorem PropertyName.propertyName?_append (n : PropertyName) {t : Text}
    (ht : ∀ c ∈ t.head?, Text.isNameChar c = false) :
    propertyName? (n.text ++ t) = some (n.value, t) := by
  cases n with
  | plain n => exact n.propertyName?_append ht
  | quoted q => exact q.propertyName?_append t

/-- A name with a type after its label is read as the property that it declares. -/
theorem PropertyName.property?_label (n : PropertyName) (optional : Bool) {t : Text}
    (ht : Text.trimStart t ≠ []) :
    property? (n.label optional ++ t) =
      some { name := n.value, type := normalizeType (Text.trimStart t), optional := optional } := by
  have hname := n.propertyName?_append fun c hc => (not_isNameChar_label optional t c hc).1
  have hcolon : Text.after? [':'] (':' :: t) = some t := Text.after?_eq_some_iff.2 rfl
  have hmiddle : Text.trimStart (':' :: t) = ':' :: t := Text.trimStart_eq_self (by simp; decide)
  simp only [n.label_append, property?, hname, Option.bind_eq_bind, Option.bind_some]
  -- with the mark or without it, the colon is what is left to read
  cases optional
  all_goals
    show (Text.after? [':'] (Text.trimStart (':' :: t))).bind _ = _
    rw [hmiddle, hcolon, Option.bind_some, if_neg ht]
    rfl

theorem PropertyName.not_isBlank_head (n : PropertyName) (t : Text) :
    ∀ c ∈ (n.text ++ t).head?, Text.isBlank c = false := by
  cases n with
  | plain n => exact n.not_isBlank_head t
  | quoted q =>
    intro c hc
    obtain rfl : q.quote = c := Option.some.inj hc
    rcases q.quote_eq with h | h <;> rw [h] <;> decide

/-- The word `readonly` is not read where it is a name itself. -/
theorem PropertyName.afterWord?_label (n : PropertyName) (optional : Bool) (t : Text) :
    afterWord? "readonly".toList (n.label optional ++ t) = none := by
  have hmiddle := not_isNameChar_label optional t
  rw [n.label_append]
  cases n with
  | plain n =>
    exact afterWord?_eq_none (Text.forall_mem_of_all (by decide))
      (fun c => Name.isNameChar_of_mem) (fun c hc => (hmiddle c hc).1)
      (.inr fun c hc => (hmiddle c hc).2)
  | quoted q =>
    have hquote : 'r' ≠ q.quote := by rcases q.quote_eq with h | h <;> rw [h] <;> decide
    exact afterWord?_cons_of_ne hquote "eadonly".toList _

/-- A member with a label is a property, with the word `readonly` in front of it or without. -/
theorem PropertyName.ofText_label (n : PropertyName) (readonly optional : Bool) {t : Text}
    (ht : Text.trimStart t ≠ []) :
    Member.ofText ((if readonly then "readonly ".toList else []) ++ (n.label optional ++ t)) =
      .property { name := n.value, type := normalizeType (Text.trimStart t),
                  optional := optional } := by
  cases readonly with
  | false =>
    rw [if_neg Bool.false_ne_true, List.nil_append, Member.ofText, n.afterWord?_label,
      n.property?_label optional ht, Option.bind_none, Option.none_or]
  | true =>
    have hword : "readonly ".toList ++ (n.label optional ++ t) =
        "readonly".toList ++ ' ' :: (n.label optional ++ t) := rfl
    have hblank : ∀ c ∈ (n.label optional ++ t).head?, Text.isBlank c = false := by
      rw [n.label_append]
      exact n.not_isBlank_head _
    rw [if_pos rfl, hword, Member.ofText, afterWord?_append _ hblank, Option.bind_some,
      n.property?_label optional ht, Option.some_or]

theorem PropertyName.ofText_typed (n : PropertyName) (readonly optional : Bool) {type : Text}
    (hne : type ≠ []) (hhead : ∀ c ∈ type.head?, Text.isBlank c = false) :
    Member.ofText ((if readonly then "readonly ".toList else []) ++ n.typed optional type) =
      .property { name := n.value, type := normalizeType type, optional := optional } := by
  have htype : Text.trimStart (' ' :: type) = type :=
    (Text.trimStart_append Text.isBlank_of_mem_space type).trans (Text.trimStart_eq_self hhead)
  rw [n.typed_eq, n.ofText_label readonly optional (by rwa [htype]), htype]

theorem Property.ofText_text (p : Property) : Member.ofText p.text = .property p.declared := by
  rw [p.text_eq]
  exact p.name.ofText_typed p.readonly p.optional p.type.ne_nil p.type.not_isBlank_head

theorem isLoose_of_isNameChar {c : Char} (h : Text.isNameChar c = true) : isLoose c :=
  ⟨ne_of_isNameChar h (by decide), ne_of_isNameChar h (by decide),
    ne_of_isNameChar h (by decide), ne_of_isNameChar h (by decide)⟩

theorem Name.bracketed (n : Name) : Bracketed isInner isLoose n.text :=
  .of_forall fun _ hc => ⟨isPlain_of_isNameChar (Name.isNameChar_of_mem hc),
    isLoose_of_isNameChar (Name.isNameChar_of_mem hc)⟩

theorem PropertyName.bracketed (n : PropertyName) : Bracketed isInner isLoose n.text := by
  cases n with
  | plain n => exact n.bracketed
  | quoted q => exact .of_literal q.literal

theorem Property.bracketed (p : Property) : Bracketed isInner isLoose p.text := by
  have hword : Bracketed isInner isLoose (if p.readonly then "readonly ".toList else []) := by
    cases p.readonly
    · exact .nil
    · exact .of_all (by decide)
  have hmark : Bracketed isInner isLoose (if p.optional then ['?'] else []) := by
    cases p.optional
    · exact .nil
    · exact .of_all (by decide)
  exact (((hword.append p.name.bracketed).append hmark).append (.of_all (by decide))).append
    p.type.bracketed

theorem Property.text_ne_nil (p : Property) : p.text ≠ [] :=
  fun h => p.type.ne_nil (List.append_eq_nil_iff.1 h).2

theorem Property.not_isBlank_head (p : Property) :
    ∀ c ∈ p.text.head?, Text.isBlank c = false := by
  rw [p.text_eq]
  cases p.readonly
  · exact p.name.not_isBlank_head _
  · simp
    decide

theorem Property.not_isBlank_last (p : Property) :
    ∀ c ∈ p.text.getLast?, Text.isBlank c = false := by
  rw [Property.text, List.getLast?_append_of_ne_nil _ p.type.ne_nil]
  exact p.type.not_isBlank_last

theorem Property.strip_text (p : Property) : Text.strip p.text = p.text :=
  Text.strip_of_not_isBlank p.not_isBlank_head p.not_isBlank_last

/-! ### All properties -/

/-- A property on its line. -/
def Property.line (indent : Nat) (p : Property) : Text :=
  List.replicate indent ' ' ++ p.text ++ ";\n".toList

/-- The lines of some properties are split into the properties. -/
theorem trimmedFrom_propertyLines (indent : Nat) (properties : List Property) :
    trimmedFrom [] (properties.flatMap (Property.line indent)) =
      properties.map Property.text := by
  induction properties with
  | nil => exact trimmedFrom_nil []
  | cons p properties ih =>
    have hsplit : (p :: properties).flatMap (Property.line indent) =
        List.replicate indent ' ' ++ (p.text ++
          ';' :: (['\n'] ++ properties.flatMap (Property.line indent))) := by
      simp [Property.line]
    have hindent : ∀ c ∈ List.replicate indent ' ', IsFiller c := fun c hc =>
      .inl (isBlank_of_mem_indent c hc)
    have hkept : [Text.strip p.text].filter (· ≠ []) = [p.text] := by
      rw [p.strip_text, List.filter_cons_of_pos (by simpa using p.text_ne_nil), List.filter_nil]
    have hsemicolon (pieces : List Piece) : separates p.text (.char ';') pieces = true := rfl
    -- the semicolon ends the member, and the line end behind it is passed over
    rw [hsplit, trimmedFrom_filler hindent,
      trimmedFrom_append (p.bracketed.mono fun _ hc => hc.2), List.nil_append,
      trimmedFrom_cons (by decide), if_pos (hsemicolon _),
      trimmedFrom_filler isFiller_newline, ih, hkept]
    rfl

theorem Shape.bracketed_body (s : Shape) : Bracketed isInner isInner s.body := by
  have hlines : ∀ p ∈ s.properties, Bracketed isInner isInner (p.line s.indent) := by
    intro p _
    have hblanks : Bracketed isInner isInner (List.replicate s.indent ' ') :=
      .of_forall fun c hc => by rw [List.eq_of_mem_replicate hc]; decide
    exact (hblanks.append (p.bracketed.mono fun _ hc => hc.1)).append (.of_all (by decide))
  exact .char (by decide) (by decide) (.flatMap hlines)

theorem Shape.members_body (s : Shape) :
    members s.body = .ok (s.properties.map fun p => .property p.declared) := by
  have hsplit : splitMembers (Cut.ofText s.body).pieces = s.properties.map Property.text := by
    rw [splitMembers_eq, Shape.body, ← List.singleton_append,
      trimmedFrom_filler isFiller_newline]
    exact trimmedFrom_propertyLines s.indent s.properties
  simp only [members, s.bracketed_body.torn_ofText, if_true, hsplit, List.map_map]
  congr 2
  funext p
  exact p.ofText_text

end ShapeMapper.Written
