import ShapeMapper.Proofs.Declaration.Body

/-!
# Types on one line

A type that stands complete on one line (`IsLineType`), such as a name or a literal, makes a member
of the property that has it: `Written.PropertyName.isLine_typed`.
-/

namespace ShapeMapper

open Source Declaration

/-! ### Types -/

/-- Whether a character of a type separates no members. -/
def isWithinType (c : Char) : Prop := c ≠ ';' ∧ c ≠ ','

instance : DecidablePred isWithinType := fun c =>
  inferInstanceAs (Decidable (c ≠ ';' ∧ c ≠ ','))

/-- A type that stands complete on one line. -/
structure IsLineType (t : Text) : Prop where
  bracketed : Bracketed (fun _ => True) isWithinType t
  isSpaced : Text.IsSpaced t
  ne_nil : t ≠ []
  isComplete : IsComplete t

namespace IsLineType

variable {t u : Text}

theorem bracketed_isWithin (h : IsLineType t) : Bracketed (fun _ => True) isWithin t := by
  have hline : ∀ c ∈ t, c ≠ '\n' := by
    rintro c hc rfl
    have := h.isSpaced.eq_space '\n' hc (by decide)
    exact absurd this (by decide)
  exact (h.bracketed.and_of_forall hline).mono fun c hc => ⟨hc.1.1, hc.1.2, hc.2⟩

/-- A type after another text is a type if the text is one up to its end. -/
theorem append (hu : IsLineType u) (ht : Bracketed (fun _ => True) isWithinType t)
    (hspaced : Text.IsSpaced t) (hne : t ≠ []) : IsLineType (t ++ ' ' :: u) where
  bracketed := ht.append (.char (by decide) (by decide) hu.bracketed)
  isSpaced := hspaced.append hu.isSpaced hne hu.ne_nil
  ne_nil := by simp
  isComplete := hu.isComplete.append t rfl

end IsLineType

namespace Written

/-! ### Names and literals -/

theorem Name.isComplete_text {n : Name} (h : n.text ≠ "extends".toList) : IsComplete n.text where
  not_operator operator hoperator hsuffix := by
    have hmarks : ∀ operator ∈ operators, operator.any fun c => !Text.isNameChar c := by decide
    obtain ⟨c, hc, hname⟩ := List.any_eq_true.1 (hmarks operator hoperator)
    rw [Name.isNameChar_of_mem (hsuffix.subset hc)] at hname
    cases hname
  not_extends u hu := by
    have hne : u ≠ [] := fun hnil => h (by rw [hu, hnil, List.nil_append])
    obtain ⟨c, hc⟩ := Option.ne_none_iff_exists'.1 (mt List.getLast?_eq_none_iff.1 hne)
    refine ⟨c, hc, Name.isNameChar_of_mem (n := n) ?_⟩
    rw [hu]
    exact List.mem_append_left _ (List.mem_of_getLast? hc)

theorem Name.isLineType_text {n : Name} (h : n.text ≠ "extends".toList) : IsLineType n.text where
  bracketed := .of_forall fun c hc =>
    have hname := Name.isNameChar_of_mem hc
    ⟨isPlain_of_isNameChar hname, ne_of_isNameChar hname (by decide),
      ne_of_isNameChar hname (by decide)⟩
  isSpaced := .of_word (List.cons_ne_nil _ _) fun c hc =>
    Text.not_isBlank_of_isNameChar (Name.isNameChar_of_mem hc)
  ne_nil := List.cons_ne_nil _ _
  isComplete := n.isComplete_text h

theorem isComplete_literal (l : Literal) : IsComplete l.text := by
  obtain ⟨body, hbody⟩ := l.exists_concat
  rw [hbody]
  rcases isQuote_iff.1 l.isQuote_quote with h | h | h <;> rw [h] <;>
    exact isComplete_concat (by decide) fun hc => absurd hc (by decide)

theorem isLineType_literal {l : Literal} (h : Text.IsSpaced l.text) : IsLineType l.text where
  bracketed := .of_literal l
  isSpaced := h
  ne_nil := List.cons_ne_nil _ _
  isComplete := isComplete_literal l

/-- A type with brackets in brackets and with a separator in quotes. -/
theorem isLineType_union : IsLineType "Map<string, Node[]> | 'a;b'".toList where
  bracketed := by
    have hliteral : LiteralEnd '\'' "a;b'".toList :=
      .char (by decide) (by decide) (by decide) <| .char (by decide) (by decide) (by decide) <|
        .char (by decide) (by decide) (by decide) .close
    have hsquares : ('[', ']') ∈ brackets := by decide
    have hangles : ('<', '>') ∈ brackets := by decide
    have hparameters : Bracketed (fun _ => True) (fun _ => True) "string, Node[]".toList :=
      .append (t := "string, Node".toList) (.of_all (by decide)) (.group hsquares .nil .nil)
    have hmap : Bracketed (fun _ => True) isWithinType "<string, Node[]> | ".toList :=
      .group hangles hparameters (.of_all (by decide))
    exact ((Bracketed.of_all (t := "Map".toList) (by decide)).append hmap).append
      (.literal ⟨'\'', _, rfl, hliteral⟩ .nil)
  isSpaced := .of_words (by decide)
  ne_nil := by decide
  isComplete := ⟨by decide, fun u hu => absurd ⟨u, hu.symm⟩ (by decide : ¬"extends".toList <:+ _)⟩

/-! ### Properties -/

namespace PropertyName

theorem not_operator_head (m : PropertyName) (t : Text) :
    ∀ c ∈ (m.text ++ t).head?, c ∉ ['|', '&', '?', ':'] := by
  intro c hc
  cases m with
  | plain n =>
    obtain rfl : n.first = c := Option.some.inj hc
    have hname := Text.isNameChar_of_isNameStart n.isNameStart_first
    have hoperators : ∀ d ∈ ['|', '&', '?', ':'], Text.isNameChar d = false :=
      Text.forall_mem_of_all (by decide)
    exact fun hmem => ne_of_isNameChar hname (hoperators _ hmem) rfl
  | quoted q =>
    obtain rfl : q.quote = c := Option.some.inj hc
    rcases q.quote_eq with h | h <;> rw [h] <;> decide

theorem bracketed_label (m : PropertyName) (optional : Bool) :
    Bracketed (fun _ => True) isWithin (m.label optional) := by
  have hname : Bracketed (fun _ => True) isWithin m.text :=
    m.bracketed.weaken (fun _ _ => trivial) fun _ hc => hc.2
  have hmark : Bracketed (fun _ => True) isWithin ((if optional then ['?'] else []) ++ [':']) := by
    cases optional
    · exact .of_all (by decide)
    · exact .of_all (by decide)
  exact hname.append hmark

/-- A name with its type is a line if the type stands on one. -/
theorem isLine_typed (m : PropertyName) (optional : Bool) {type : Text} (h : IsLineType type) :
    IsLine (fun _ => True) (m.typed optional type) where
  bracketed := by
    rw [m.typed_eq]
    exact (m.bracketed_label optional).append
      (.char (by decide) (by decide) h.bracketed_isWithin)
  ne_nil := by
    rw [m.typed_eq]
    exact List.append_ne_nil_of_right_ne_nil _ (List.cons_ne_nil _ _)
  not_isBlank_head := m.not_isBlank_head _
  not_isBlank_last := by
    have hsplit : m.typed optional type = (m.label optional ++ [' ']) ++ type := by
      rw [m.typed_eq, List.append_assoc, List.singleton_append]
    rw [hsplit, List.getLast?_append_of_ne_nil _ h.ne_nil]
    exact h.isSpaced.not_isBlank_last
  not_operator_head := m.not_operator_head _
  isComplete := by
    rw [m.typed_eq]
    exact h.isComplete.append _ rfl

end PropertyName

end Written

end ShapeMapper
