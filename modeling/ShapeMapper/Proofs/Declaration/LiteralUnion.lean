import ShapeMapper.Proofs.Declaration.LineType
import ShapeMapper.Proofs.Plan.TypeExpr

/-!
# Unions of literals

A property whose type is a union of string literals. The type is brought on one line as a whole,
its literals with it, so that white space in a literal becomes a single space (`Literal.collapsed`).
A union is declared as it is written just if its literals have no other blanks, and two unions are
told apart just if their collapsed literals are: `Declaration.members_literalUnion`.
-/

namespace ShapeMapper

open Source Declaration Written

/-! ### White space -/

namespace Text

/-- A text in which each run of blanks is one space. Those behind a blank go. -/
def collapse : Bool → Text → Text
  | _, [] => []
  | afterBlank, c :: t =>
    if isBlank c then if afterBlank then collapse true t else ' ' :: collapse true t
    else c :: collapse false t

variable {t u : Text}

theorem collapse_ne_nil (h : ∃ c ∈ t, isBlank c = false) : collapse true t ≠ [] := by
  induction t with
  | nil => simp at h
  | cons c t ih =>
    rw [collapse]
    split
    · next hblank =>
      obtain ⟨d, hd, hsolid⟩ := h
      rcases List.mem_cons.1 hd with rfl | hd
      · rw [hblank] at hsolid
        cases hsolid
      · exact ih ⟨d, hd, hsolid⟩
    · exact List.cons_ne_nil _ _

/-- What stands between the first words of a text that ends in no blank and its other ones. -/
theorem intercalate_words_and (hlast : ∀ c ∈ t.getLast?, isBlank c = false) :
    [' '].intercalate (words t) = collapse true t ∧
      ∀ w, w ≠ [] → (∀ c ∈ w, isBlank c = false) →
        [' '].intercalate (words (w ++ t)) = w ++ collapse false t := by
  induction t with
  | nil =>
    refine ⟨rfl, fun w hne hw => ?_⟩
    rw [List.append_nil, words_eq_singleton hne hw, List.intercalate_singleton]
    exact (List.append_nil w).symm
  | cons c t ih =>
    have hlater : ∀ d ∈ t.getLast?, isBlank d = false := by
      cases t with
      | nil => simp
      | cons d t => exact hlast
    obtain ⟨hwords, hprefix⟩ := ih hlater
    cases hblank : isBlank c with
    | true =>
      -- the text goes on, for it does not end here
      have hsolid : ∃ d ∈ t, isBlank d = false := by
        cases hend : t.getLast? with
        | none =>
          rw [List.getLast?_eq_none_iff.1 hend] at hlast
          rw [hlast c rfl] at hblank
          cases hblank
        | some d => exact ⟨d, List.mem_of_getLast? hend, hlater d hend⟩
      have hne : words t ≠ [] := fun hnil => by
        rw [hnil] at hwords
        exact collapse_ne_nil hsolid hwords.symm
      refine ⟨by rw [words_blank_cons t hblank, hwords, collapse, if_pos hblank, if_pos rfl], ?_⟩
      intro w hw hword
      rw [words_append_blank w t hblank, words_eq_singleton hw hword,
        intercalate_append (List.cons_ne_nil w []) hne, List.intercalate_singleton, hwords,
        collapse, if_pos hblank, if_neg Bool.false_ne_true, List.append_assoc]
      rfl
    | false =>
      have hneg : ¬isBlank c = true := by simp [hblank]
      constructor
      · have hsingle := hprefix [c] (List.cons_ne_nil c []) (List.forall_mem_singleton.2 hblank)
        rw [collapse, if_neg hneg]
        exact hsingle
      · intro w hw hword
        have hlonger := hprefix (w ++ [c]) (List.append_ne_nil_of_left_ne_nil hw _) fun d hd => by
          rcases List.mem_append.1 hd with hd | hd
          · exact hword d hd
          · rw [List.mem_singleton.1 hd, hblank]
        rw [collapse, if_neg hneg]
        simpa using hlonger

theorem intercalate_words (hlast : ∀ c ∈ t.getLast?, isBlank c = false) :
    [' '].intercalate (words t) = collapse true t :=
  (intercalate_words_and hlast).1

/-- A text that is its words with single spaces between them is spaced. -/
theorem isSpaced_iff : IsSpaced t ↔ [' '].intercalate (words t) = t :=
  ⟨IsSpaced.intercalate_words, fun h => h ▸ isSpaced_intercalate_words t⟩

end Text

/-! ### Literals -/

namespace Source

theorem not_isBlank_of_isQuote {c : Char} (h : isQuote c = true) : Text.isBlank c = false := by
  rcases isQuote_iff.1 h with rfl | rfl | rfl <;> decide

/-- A literal stays one with single spaces for its white space. -/
theorem LiteralEnd.collapse {quote : Char} {t : Text} (hquote : isQuote quote = true)
    (h : LiteralEnd quote t) (afterBlank : Bool) :
    LiteralEnd quote (Text.collapse afterBlank t) := by
  have hblank := not_isBlank_of_isQuote hquote
  have hspace : ' ' ≠ quote := by
    rintro rfl
    exact absurd hquote (by decide)
  induction h generalizing afterBlank with
  | close =>
    rw [Text.collapse, if_neg (by simp [hblank])]
    exact .close
  | @char c t hne hescape hline _ ih =>
    rw [Text.collapse]
    split
    · cases afterBlank with
      | true => exact ih true
      | false => exact .char hspace (by decide) (fun h => absurd h (by decide)) (ih true)
    · exact .char hne hescape hline (ih false)
  -- the character behind a backslash stays or becomes a space, so it is escaped all the same
  | @escape c t _ ih =>
    have hback : ¬Text.isBlank '\\' = true := by decide
    rw [Text.collapse, if_neg hback, Text.collapse]
    split
    · exact .escape (ih true)
    · exact .escape (ih false)

/-- A literal with single spaces for its white space. -/
def Literal.collapsed (l : Literal) : Literal where
  quote := l.quote
  rest := Text.collapse false l.rest
  isQuote_quote := l.isQuote_quote
  closed := l.closed.collapse l.isQuote_quote false

namespace Literal

theorem text_injective : Function.Injective text := by
  intro x y h
  have htext : x.text ++ [] = y.text ++ [] := by rw [h]
  exact (readBack htext).1

theorem not_isBlank_last (l : Literal) : ∀ c ∈ l.text.getLast?, Text.isBlank c = false := by
  obtain ⟨body, hbody⟩ := l.exists_concat
  rw [hbody, List.getLast?_concat]
  exact fun c hc => Option.some.inj hc ▸ not_isBlank_of_isQuote l.isQuote_quote

theorem text_collapsed (l : Literal) :
    [' '].intercalate (Text.words l.text) = l.collapsed.text := by
  rw [Text.intercalate_words l.not_isBlank_last, text, Text.collapse,
    if_neg (by simp [not_isBlank_of_isQuote l.isQuote_quote])]
  rfl

/-- A literal is changed unless its blanks are single spaces. -/
theorem collapsed_eq_iff (l : Literal) : l.collapsed = l ↔ Text.IsSpaced l.text := by
  rw [Text.isSpaced_iff, text_collapsed, text_injective.eq_iff]

end Literal

end Source

/-! ### Unions -/

/-- A union of literals as it is written. -/
def literalUnion (l : List Literal) : Text :=
  " | ".toList.intercalate (l.map Literal.text)

section

variable {l l' : List Literal}

theorem literalUnion_cons_cons (x y : Literal) (l : List Literal) :
    literalUnion (x :: y :: l) = x.text ++ ' ' :: '|' :: ' ' :: literalUnion (y :: l) := by
  rw [literalUnion, List.map_cons, List.map_cons, List.intercalate_cons_cons, List.append_assoc]
  rfl

theorem literalUnion_inj : literalUnion l = literalUnion l' ↔ l = l' := by
  refine ⟨fun h => ?_, fun h => by rw [h]⟩
  have hread : ∀ x ∈ l, ReadBack [' '] Literal.text x := fun _ _ _ _ _ _ _ h => Literal.readBack h
  have hwrite (x : Literal) : ∃ c t, x.text = c :: t ∧ c ∉ [' '] := by
    refine ⟨x.quote, x.rest, rfl, fun hmem => ?_⟩
    have hquote := x.isQuote_quote
    rw [List.mem_singleton.1 hmem] at hquote
    cases hquote
  have hjoined : " | ".toList.intercalate (l.map Literal.text) ++ [] =
      " | ".toList.intercalate (l'.map Literal.text) ++ [] := by
    rw [List.append_nil, List.append_nil]
    exact h
  exact (readBack_intercalate (by decide) (by simp) (by simp) hread hwrite hjoined).1

theorem literalUnion_cons (x : Literal) (l : List Literal) :
    literalUnion (x :: l) = x.quote :: (x.rest ++ l.flatMap fun y => " | ".toList ++ y.text) :=
  intercalate_map_cons x l

/-- A union ends with a literal, in front of which there is nothing or a space. -/
theorem exists_literalUnion_eq (hne : l ≠ []) :
    ∃ u x, literalUnion l = u ++ Literal.text x ∧ (u = [] ∨ ∃ v, u = v ++ [' ']) := by
  rcases l.eq_nil_or_concat with rfl | ⟨m, x, rfl⟩
  · exact absurd rfl hne
  · rw [List.concat_eq_append, literalUnion, List.map_append, List.map_singleton]
    cases m with
    | nil => exact ⟨[], x, List.intercalate_singleton, .inl rfl⟩
    | cons y m =>
      have hbar : literalUnion (y :: m) ++ " | ".toList =
          literalUnion (y :: m) ++ " |".toList ++ [' '] := by
        rw [List.append_assoc]
        rfl
      refine ⟨literalUnion (y :: m) ++ " | ".toList, x, ?_, .inr ⟨_, hbar⟩⟩
      rw [Text.intercalate_append (by simp) (by simp), List.intercalate_singleton]
      rfl

theorem isComplete_literalUnion (hne : l ≠ []) : IsComplete (literalUnion l) := by
  obtain ⟨u, x, hunion, hu⟩ := exists_literalUnion_eq hne
  rw [hunion]
  rcases hu with rfl | ⟨v, rfl⟩
  · exact isComplete_literal x
  · rw [List.append_assoc]
    exact (isComplete_literal x).append v rfl

theorem words_ne_nil (x : Literal) : Text.words x.text ≠ [] := fun hnil => by
  have hx := x.text_collapsed
  rw [hnil] at hx
  cases hx

theorem words_literalUnion (hne : l ≠ []) : Text.words (literalUnion l) ≠ [] ∧
    [' '].intercalate (Text.words (literalUnion l)) = literalUnion (l.map Literal.collapsed) := by
  induction l with
  | nil => exact absurd rfl hne
  | cons x l ih =>
    cases l with
    | nil =>
      have hsingle (y : Literal) : literalUnion [y] = y.text := List.intercalate_singleton
      rw [List.map_singleton, hsingle, hsingle]
      exact ⟨words_ne_nil x, x.text_collapsed⟩
    | cons y l =>
      obtain ⟨hne, hrest⟩ := ih (List.cons_ne_nil y l)
      have hbar : Text.words ('|' :: ' ' :: literalUnion (y :: l)) =
          ['|'] :: Text.words (literalUnion (y :: l)) :=
        Text.words_append_blank ['|'] _ (by decide)
      have hwords : Text.words (literalUnion (x :: y :: l)) =
          Text.words x.text ++ ([['|']] ++ Text.words (literalUnion (y :: l))) := by
        rw [literalUnion_cons_cons, Text.words_append_blank _ _ (by decide), hbar]
        rfl
      refine ⟨by rw [hwords]; simp, ?_⟩
      rw [hwords, Text.intercalate_append (words_ne_nil x) (by simp),
        Text.intercalate_append (by simp) hne, hrest, x.text_collapsed]
      simp [literalUnion_cons_cons]

theorem bracketed_literalUnion (l : List Literal) :
    Bracketed (fun _ => True) isWithin (literalUnion l) := by
  have hbar : Bracketed (fun _ => True) isWithin " | ".toList := .of_all (by decide)
  cases l with
  | nil => exact .nil
  | cons x l =>
    rw [literalUnion, intercalate_map_cons]
    exact .literal x (.flatMap fun y _ => hbar.append (.of_literal y))

theorem isQuote_head_literalUnion (l : List Literal) :
    ∀ c ∈ (literalUnion l).head?, isQuote c = true := by
  cases l with
  | nil => exact nofun
  | cons x l =>
    rw [literalUnion_cons]
    exact fun c hc => Option.some.inj hc ▸ x.isQuote_quote

/-- A property with a union of literals for its type is a line. -/
theorem isLine_literalUnion (n : PropertyName) (optional : Bool) (hne : l ≠ []) :
    IsLine (fun _ => True) (n.typed optional (literalUnion l)) where
  bracketed := by
    rw [n.typed_eq]
    exact (n.bracketed_label optional).append
      (.char (by decide) (by decide) (bracketed_literalUnion l))
  ne_nil := by
    rw [n.typed_eq]
    exact List.append_ne_nil_of_right_ne_nil _ (List.cons_ne_nil _ _)
  not_isBlank_head := n.not_isBlank_head _
  not_isBlank_last := by
    obtain ⟨u, x, hunion, -⟩ := exists_literalUnion_eq hne
    have hx : x.text ≠ [] := List.cons_ne_nil _ _
    rw [n.typed_eq, hunion, List.append_cons, ← List.append_assoc,
      List.getLast?_append_of_ne_nil _ hx]
    exact x.not_isBlank_last
  not_operator_head := n.not_operator_head _
  isComplete := by
    rw [n.typed_eq]
    exact (isComplete_literalUnion hne).append _ rfl

/-- The type of the property is brought on one line with its literals. -/
theorem normalizeType_literalUnion (hne : l ≠ []) :
    normalizeType (literalUnion l) = literalUnion (l.map Literal.collapsed) := by
  refine normalizeType_of_words (words_literalUnion hne).2 fun c hc => ?_
  have hquote := isQuote_head_literalUnion _ c hc
  constructor <;> rintro rfl <;> cases hquote

/-- The one member is the property. -/
theorem members_typed_literalUnion (n : PropertyName) (optional : Bool) (hne : l ≠ []) :
    members (n.typed optional (literalUnion l)) = .ok [.property {
      name := n.value
      type := literalUnion (l.map Literal.collapsed)
      optional }] := by
  have hline := isLine_literalUnion n optional hne
  have hunion : literalUnion l ≠ [] := fun hnil => by
    obtain ⟨x, l, rfl⟩ := List.exists_cons_of_ne_nil hne
    rw [literalUnion_cons] at hnil
    cases hnil
  have hmember := n.ofText_typed false optional hunion fun c hc =>
    not_isBlank_of_isQuote (isQuote_head_literalUnion l c hc)
  rw [normalizeType_literalUnion hne] at hmember
  rw [members, if_pos hline.bracketed.torn_ofText, splitMembers_eq, hline.trimmedFrom_eq]
  exact congrArg (fun m => Except.ok [m]) hmember

/-- A union of literals is declared with single spaces for the white space in its literals. So it is
declared as it is written just if there is no other white space in them, and what another union is
declared as tells the two apart just if something else than white space does. -/
theorem Declaration.members_literalUnion (n : PropertyName) (optional : Bool) (hne : l ≠ []) :
    members (n.typed optional (literalUnion l)) = .ok [.property {
        name := n.value
        type := literalUnion (l.map Literal.collapsed)
        optional }] ∧
      (literalUnion (l.map Literal.collapsed) = literalUnion l ↔ ∀ x ∈ l, Text.IsSpaced x.text) ∧
      ∀ l', l' ≠ [] →
        (members (n.typed optional (literalUnion l')) =
            members (n.typed optional (literalUnion l)) ↔
          l'.map Literal.collapsed = l.map Literal.collapsed) := by
  refine ⟨members_typed_literalUnion n optional hne, ?spaced, fun l' hne' => ?same⟩
  case spaced =>
    rw [literalUnion_inj]
    calc l.map Literal.collapsed = l
      _ ↔ l.map Literal.collapsed = l.map id := by rw [List.map_id]
      _ ↔ ∀ x ∈ l, x.collapsed = x := List.map_inj_left
      _ ↔ ∀ x ∈ l, Text.IsSpaced x.text := by simp only [Literal.collapsed_eq_iff]
  case same =>
    rw [members_typed_literalUnion n optional hne, members_typed_literalUnion n optional hne',
      ← literalUnion_inj]
    simp

end

/-! #### White space in a literal -/

/-- A literal with two words and a tab between them. -/
def tabLiteral : Literal where
  quote := '"'
  rest := "x\ty\"".toList
  isQuote_quote := isQuote_doubleQuote
  closed := .char (by decide) (by decide) (by decide) (.char (by decide) (by decide) (by decide)
    (.char (by decide) (by decide) (by decide) .close))

/-- A literal with a bar between spaces, and a separator of members. -/
def barLiteral : Literal where
  quote := '\''
  rest := "p | q;'".toList
  isQuote_quote := isQuote_apostrophe
  closed := .char (by decide) (by decide) (by decide) (.char (by decide) (by decide) (by decide)
    (.char (by decide) (by decide) (by decide) (.char (by decide) (by decide) (by decide)
      (.char (by decide) (by decide) (by decide) (.char (by decide) (by decide) (by decide)
        .close)))))

/-- The bar stays as it is, and the tab becomes a space. -/
theorem Declaration.members_literalUnion_tab :
    let n : PropertyName := .plain ⟨'a', [], .refl true, Text.isNameChar_of_mem_nil⟩
    [barLiteral, tabLiteral] ≠ [] ∧
      n.typed false (literalUnion [barLiteral, tabLiteral]) = "a: 'p | q;' | \"x\ty\"".toList ∧
      literalUnion ([barLiteral, tabLiteral].map Literal.collapsed) = "'p | q;' | \"x y\"".toList ∧
      members (n.typed false (literalUnion [barLiteral, tabLiteral])) = .ok [.property {
        name := n.value
        type := literalUnion ([barLiteral, tabLiteral].map Literal.collapsed)
        optional := false }] ∧
      (literalUnion ([barLiteral, tabLiteral].map Literal.collapsed) =
          literalUnion [barLiteral, tabLiteral] ↔
        ∀ x ∈ [barLiteral, tabLiteral], Text.IsSpaced x.text) ∧
      ∀ l', l' ≠ [] →
        (members (n.typed false (literalUnion l')) =
            members (n.typed false (literalUnion [barLiteral, tabLiteral])) ↔
          l'.map Literal.collapsed = [barLiteral, tabLiteral].map Literal.collapsed) := by
  intro n
  have hne : [barLiteral, tabLiteral] ≠ [] := List.cons_ne_nil _ _
  exact ⟨hne, by decide, by decide, members_literalUnion n false hne⟩

/-- Two literals that differ in a space are declared as the same type, and the longer one not as it
is written. -/
theorem Declaration.members_eq_of_twoSpaces :
    members "a: 'a  b'".toList = .ok [.property ⟨"a".toList, "'a b'".toList, false⟩] ∧
      members "a: 'a  b'".toList ≠ .ok [.property ⟨"a".toList, "'a  b'".toList, false⟩] ∧
      members "a: 'a  b'".toList = members "a: 'a b'".toList := by
  decide +kernel

end ShapeMapper
