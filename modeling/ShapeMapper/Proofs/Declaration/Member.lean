import ShapeMapper.Declaration.Member
import ShapeMapper.Proofs.Source.Bracketed
import ShapeMapper.Proofs.Text.Infix
import ShapeMapper.Proofs.Text.Name

/-!
# Reading members

A well-bracketed text is split only at the separators outside all brackets
(`splitFrom_append`). A type that stands on one line is read as it is: `normalizeType_eq_self`.
-/

namespace ShapeMapper.Declaration

open Source

variable {inner loose : Char → Prop} {t : Text}

/-! ### Splitting -/

theorem splitFrom_of_not_separates {pending : Text} {depth : Int} {piece : Piece}
    {pieces : List Piece} (h : depth = 0 → separates pending piece pieces = false) :
    splitFrom pending depth (piece :: pieces) =
      splitFrom (pending ++ piece.text) (depth + bracketDepth piece) pieces := by
  rw [splitFrom, if_neg]
  rintro ⟨hdepth, hseparates⟩
  rw [h hdepth] at hseparates
  cases hseparates

theorem bracketDepth_of_isPlain {c : Char} (h : IsPlain c) : bracketDepth (.char c) = 0 := by
  have hbrackets := h.not_bracket
  simp only [brackets, List.mem_cons, List.not_mem_nil, or_false, forall_eq_or_imp,
    forall_eq] at hbrackets
  unfold bracketDepth
  split <;> simp_all

theorem bracketDepth_bracket {pair : Char × Char} (h : pair ∈ brackets) :
    bracketDepth (.char pair.1) = 1 ∧ bracketDepth (.char pair.2) = -1 := by
  have hbrackets : ∀ pair ∈ brackets, bracketDepth (.char pair.1) = 1 ∧
      bracketDepth (.char pair.2) = -1 := by decide
  exact hbrackets pair h

theorem separates_char {c : Char} (h : c ≠ ';' ∧ c ≠ ',' ∧ c ≠ '\n') (pending : Text)
    (pieces : List Piece) : separates pending (.char c) pieces = false := by
  obtain ⟨hsemicolon, hcomma, hline⟩ := h
  unfold separates
  split <;> simp_all

/-- A well-bracketed text is split nowhere: not inside its brackets, and outside of them only
where its own characters separate. -/
theorem splitFrom_append (h : Bracketed inner loose t) {depth : Int} (hdepth : 0 ≤ depth)
    (hloose : depth = 0 → ∀ c, loose c → c ≠ ';' ∧ c ≠ ',' ∧ c ≠ '\n') (pending : Text)
    (pieces : List Piece) :
    splitFrom pending depth ((Cut.ofText t).pieces ++ pieces) =
      splitFrom (pending ++ t) depth pieces := by
  induction h generalizing pending depth pieces with
  | nil => simp [Cut.ofText]
  | char hplain hc _ ih =>
    rw [ofText_char hplain.isQuote_eq hplain.ne_equals, Cut.pieces_cons, List.cons_append,
      splitFrom_of_not_separates fun hzero => separates_char (hloose hzero _ hc) _ _,
      bracketDepth_of_isPlain hplain, Int.add_zero, ih hdepth hloose, List.append_assoc]
    rfl
  | equals hc _ _ ih =>
    rw [ofText_equals hc, Cut.pieces_cons, List.cons_append,
      splitFrom_of_not_separates fun _ => rfl, show bracketDepth (.char '=') = 0 from rfl,
      Int.add_zero, ih hdepth hloose, List.append_assoc]
    rfl
  | arrow _ ih =>
    rw [ofText_arrow, Cut.pieces_cons, List.cons_append,
      splitFrom_of_not_separates fun _ => rfl, show bracketDepth .arrow = 0 from rfl,
      Int.add_zero, ih hdepth hloose, List.append_assoc]
    rfl
  | literal l _ ih =>
    rw [ofText_literal, Cut.pieces_cons, List.cons_append,
      splitFrom_of_not_separates fun _ => rfl, show bracketDepth (.string l.text) = 0 from rfl,
      Int.add_zero, ih hdepth hloose, List.append_assoc]
    rfl
  | @group _ pair _ _ hpair hbody _ ihbody ih =>
    obtain ⟨hopen, hclose⟩ := bracketDepth_bracket hpair
    have hbrackets : ∀ pair ∈ brackets, pair.1 ≠ ';' ∧ pair.1 ≠ ',' ∧ pair.1 ≠ '\n' := by decide
    rw [Bracketed.pieces_group hpair hbody, List.cons_append, List.append_assoc,
      List.cons_append,
      splitFrom_of_not_separates fun _ => separates_char (hbrackets pair hpair) _ _, hopen,
      ihbody (by omega) (by omega), splitFrom_of_not_separates (by omega), hclose,
      Int.add_neg_cancel_right, ih hdepth hloose]
    simp [Piece.text]

/-! ### Types -/

/-- A type is its words with single spaces between them, unless the first of them begins with a
bar or an ampersand. -/
theorem normalizeType_of_words {u : Text} (h : [' '].intercalate (Text.words t) = u)
    (hhead : ∀ c ∈ u.head?, c ≠ '|' ∧ c ≠ '&') : normalizeType t = u := by
  rw [normalizeType, h]
  split
  · exact absurd rfl (hhead '|' rfl).1
  · exact absurd rfl (hhead '&' rfl).2
  · rfl

theorem normalizeType_eq_self (hspaced : Text.IsSpaced t)
    (hhead : ∀ c ∈ t.head?, c ≠ '|' ∧ c ≠ '&') : normalizeType t = t :=
  normalizeType_of_words hspaced.intercalate_words hhead

/-- A type stands on one line. -/
theorem eq_space_of_mem_normalizeType {c : Char} (hc : c ∈ normalizeType t)
    (hblank : Text.isBlank c = true) : c = ' ' := by
  have hspaced := Text.isSpaced_intercalate_words t
  have hrest {d : Char} {u : Text} (h : [' '].intercalate (Text.words t) = d :: u)
      (hc : c ∈ Text.strip u) : c ∈ [' '].intercalate (Text.words t) := by
    rw [h]
    exact List.mem_cons_of_mem d ((Text.strip_isInfix u).subset hc)
  refine hspaced.eq_space c ?_ hblank
  unfold normalizeType at hc
  split at hc
  · next u h => exact hrest h hc
  · next u h => exact hrest h hc
  · exact hc

end ShapeMapper.Declaration
