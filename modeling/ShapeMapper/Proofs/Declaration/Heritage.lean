import ShapeMapper.Proofs.Declaration.Statement

/-!
# From the name of an interface to its body

Between the name of an interface and the brace that opens its body may stand type parameters and
the types it extends, whose angle brackets may have braces in them (`Heritage`). Whatever stands
there, the body is found (`Heritage.declared_interface`).
-/

namespace ShapeMapper

open Source

/-! ### Angle brackets -/

namespace Source.Bracketed

open Declaration

variable {inner loose : Char → Prop} {t torn : Text}

theorem closeTypeParameters_cons {piece : Piece} (hopen : piece ≠ .char '<')
    (hclose : piece ≠ .char '>') (depth : Nat) (pieces : List Piece) :
    closeTypeParameters torn depth (piece :: pieces) = closeTypeParameters torn depth pieces := by
  rw [closeTypeParameters, if_neg hopen]
  exact hclose

/-- A well-bracketed text closes no type parameter list before it. -/
theorem closeTypeParameters_append (h : Bracketed inner loose t) (depth : Nat)
    (pieces : List Piece) :
    closeTypeParameters torn depth ((Cut.ofText t).pieces ++ pieces) =
      closeTypeParameters torn depth pieces := by
  induction h generalizing depth pieces with
  | nil => rw [Cut.ofText]; rfl
  | char hplain _ _ ih =>
    have hangle := hplain.not_bracket ('<', '>') (by decide)
    rw [ofText_char hplain.isQuote_eq hplain.ne_equals, Cut.pieces_cons, List.cons_append,
      closeTypeParameters_cons (by simpa using hangle.1) (by simpa using hangle.2), ih]
  | equals hc _ _ ih =>
    rw [ofText_equals hc, Cut.pieces_cons, List.cons_append,
      closeTypeParameters_cons (by decide) (by decide), ih]
  | arrow _ ih =>
    rw [ofText_arrow, Cut.pieces_cons, List.cons_append,
      closeTypeParameters_cons (by simp) (by simp), ih]
  | literal l _ ih =>
    rw [ofText_literal, Cut.pieces_cons, List.cons_append,
      closeTypeParameters_cons (by simp) (by simp), ih]
  | @group _ pair _ _ hpair hbody _ ihbody ih =>
    rw [pieces_group hpair hbody, List.cons_append, List.append_assoc, List.cons_append]
    by_cases hangle : pair = ('<', '>')
    · subst hangle
      -- one level more up to the second bracket, and then as before
      rw [closeTypeParameters, if_pos rfl, ihbody]
      · exact ih depth pieces
      · decide
    · have hother : ∀ pair ∈ brackets, pair ≠ ('<', '>') → pair.1 ≠ '<' ∧ pair.1 ≠ '>' ∧
          pair.2 ≠ '<' ∧ pair.2 ≠ '>' := by decide
      obtain ⟨h₁, h₂, h₃, h₄⟩ := hother pair hpair hangle
      rw [closeTypeParameters_cons (by simpa using h₁) (by simpa using h₂), ihbody,
        closeTypeParameters_cons (by simpa using h₃) (by simpa using h₄), ih]

theorem openBody_cons {piece : Piece} (hopen : piece ≠ .char '<') (hclose : piece ≠ .char '>')
    (hbrace : piece ≠ .char '{') {angle : Int} (hend : piece = .char ';' → angle ≠ 0)
    (pieces : List Piece) :
    openBody torn angle (piece :: pieces) = openBody torn angle pieces := by
  by_cases hpiece : piece = .char ';'
  · subst hpiece
    rw [openBody, if_neg (hend rfl)]
  · rw [openBody]
    all_goals assumption

theorem openBody_open (angle : Int) (pieces : List Piece) :
    openBody torn angle (.char '<' :: pieces) = openBody torn (angle + 1) pieces := by
  rw [openBody]

theorem openBody_close (angle : Int) (pieces : List Piece) :
    openBody torn angle (.char '>' :: pieces) = openBody torn (angle - 1) pieces := by
  rw [openBody]

theorem openBody_braces {angle : Int} (hangle : angle ≠ 0) {pieces body rest : List Piece}
    (h : Piece.closing? 0 pieces = some (body, rest)) :
    openBody torn angle (.char '{' :: pieces) = openBody torn angle rest := by
  rw [openBody, if_neg hangle]
  split
  · next heq =>
    rw [h] at heq
    cases heq
    rfl
  · next heq =>
    rw [h] at heq
    cases heq

/-- Inside angle brackets no body is opened. -/
theorem openBody_append (h : Bracketed inner loose t) {angle : Int} (hangle : 0 < angle)
    (pieces : List Piece) :
    openBody torn angle ((Cut.ofText t).pieces ++ pieces) = openBody torn angle pieces := by
  have hne : angle ≠ 0 := by omega
  induction h generalizing angle pieces with
  | nil => rw [Cut.ofText]; rfl
  | char hplain _ _ ih =>
    have hangles := hplain.not_bracket ('<', '>') (by decide)
    have hbraces := hplain.not_bracket ('{', '}') (by decide)
    rw [ofText_char hplain.isQuote_eq hplain.ne_equals, Cut.pieces_cons, List.cons_append,
      openBody_cons (by simpa using hangles.1) (by simpa using hangles.2)
        (by simpa using hbraces.1) (fun _ => hne), ih hangle _ hne]
  | equals hc _ _ ih =>
    rw [ofText_equals hc, Cut.pieces_cons, List.cons_append,
      openBody_cons (by decide) (by decide) (by decide) (fun _ => hne), ih hangle _ hne]
  | arrow _ ih =>
    rw [ofText_arrow, Cut.pieces_cons, List.cons_append,
      openBody_cons (by simp) (by simp) (by simp) (fun _ => hne), ih hangle _ hne]
  | literal l _ ih =>
    rw [ofText_literal, Cut.pieces_cons, List.cons_append,
      openBody_cons (by simp) (by simp) (by simp) (fun _ => hne), ih hangle _ hne]
  | @group _ pair _ _ hpair hbody _ ihbody ih =>
    rw [pieces_group hpair hbody, List.cons_append, List.append_assoc, List.cons_append]
    by_cases hbrace : pair = ('{', '}')
    -- braces are passed over with all that stands in them
    · subst hbrace
      rw [openBody_braces hne (hbody.closing?_enclosed _), ih hangle _ hne]
    · by_cases hpair' : pair = ('<', '>')
      · subst hpair'
        rw [openBody_open, ihbody (by omega) _ (by omega), openBody_close,
          Int.add_sub_cancel, ih hangle _ hne]
      · have hother : ∀ pair ∈ brackets, pair ≠ ('{', '}') → pair ≠ ('<', '>') →
            (pair.1 ≠ '<' ∧ pair.1 ≠ '>' ∧ pair.1 ≠ '{') ∧
              pair.2 ≠ '<' ∧ pair.2 ≠ '>' ∧ pair.2 ≠ '{' := by decide
        obtain ⟨⟨h₁, h₂, h₃⟩, h₄, h₅, h₆⟩ := hother pair hpair hbrace hpair'
        rw [openBody_cons (by simpa using h₁) (by simpa using h₂) (by simpa using h₃)
            (fun _ => hne), ihbody hangle _ hne,
          openBody_cons (by simpa using h₄) (by simpa using h₅) (by simpa using h₆)
            (fun _ => hne), ih hangle _ hne]

end Source.Bracketed

namespace Declaration

/-! ### Words with blanks after them -/

/-- A word is read with all blanks after it. -/
theorem optionalWord_gap (word : Text) {gap t : Text} (hgap : Written.IsGap gap)
    (ht : ∀ c ∈ t.head?, Text.isBlank c = false) :
    optionalWord word (word ++ (gap ++ t)) = (true, t) := by
  rw [optionalWord, afterWord?_gap word hgap ht]

/-! ### Heritage -/

/-- What may stand between the name of an interface and its body: no semicolon outside angle
brackets, and no other brackets than these. -/
inductive Heritage : Text → Prop
  | nil : Heritage []
  | char {c : Char} {t : Text} (hplain : IsPlain c) (hc : c ≠ ';' ∧ c ≠ '/') (h : Heritage t) :
      Heritage (c :: t)
  | angles {body t : Text} (hbody : Bracketed Written.isInner Written.isInner body)
      (h : Heritage t) : Heritage ('<' :: body ++ '>' :: t)

namespace Heritage

variable {t torn : Text}

theorem of_forall (h : ∀ c ∈ t, IsPlain c ∧ c ≠ ';' ∧ c ≠ '/') : Heritage t := by
  induction t with
  | nil => exact .nil
  | cons c t ih =>
    have hc := h c List.mem_cons_self
    exact .char hc.1 hc.2 (ih fun d hd => h d (List.mem_cons_of_mem c hd))

theorem append {u : Text} (ht : Heritage t) (hu : Heritage u) : Heritage (t ++ u) := by
  induction ht with
  | nil => exact hu
  | char hplain hc _ ih => exact .char hplain hc ih
  | angles hbody _ ih =>
    rw [List.append_assoc]
    exact .angles hbody ih

theorem bracketed (h : Heritage t) : Bracketed Written.isInner Written.isInner t := by
  induction h with
  | nil => exact .nil
  | char hplain hc _ ih => exact .char hplain hc.2 ih
  | angles hbody _ ih =>
    have hangles : ('<', '>') ∈ brackets := by decide
    exact .group hangles hbody ih

/-- No body is opened before the brace. -/
theorem openBody_append (h : Heritage t) (pieces : List Piece) :
    openBody torn 0 ((Cut.ofText t).pieces ++ pieces) = openBody torn 0 pieces := by
  induction h with
  | nil => rw [Cut.ofText]; rfl
  | char hplain hc _ ih =>
    have hangles := hplain.not_bracket ('<', '>') (by decide)
    have hbraces := hplain.not_bracket ('{', '}') (by decide)
    rw [ofText_char hplain.isQuote_eq hplain.ne_equals, Cut.pieces_cons, List.cons_append,
      Bracketed.openBody_cons (by simpa using hangles.1) (by simpa using hangles.2)
        (by simpa using hbraces.1) (fun h => absurd (Piece.char.inj h) hc.1), ih]
  | angles hbody _ ih =>
    have hangles : ('<', '>') ∈ brackets := by decide
    rw [Bracketed.pieces_group hangles hbody, List.cons_append, List.append_assoc,
      List.cons_append, Bracketed.openBody_open, hbody.openBody_append (by omega),
      Bracketed.openBody_close]
    exact ih

/-- The blanks and the type parameters are taken off. -/
theorem exists_afterTypeParameters (h : Heritage t) (u : Text) :
    ∃ t', Heritage t' ∧ afterTypeParameters (t ++ '{' :: u) = .ok (t' ++ '{' :: u) := by
  induction h with
  | nil => exact ⟨[], .nil, rfl⟩
  | @char c t hplain hc h ih =>
    cases hblank : Text.isBlank c with
    | true =>
      obtain ⟨t', ht', hafter⟩ := ih
      refine ⟨t', ht', ?_⟩
      have htrim : Text.trimStart (c :: t ++ '{' :: u) = Text.trimStart (t ++ '{' :: u) := by
        simp [Text.trimStart, hblank]
      rw [afterTypeParameters, htrim]
      exact hafter
    | false =>
      refine ⟨c :: t, .char hplain hc h, ?_⟩
      have htrim : Text.trimStart (c :: (t ++ '{' :: u)) = c :: (t ++ '{' :: u) :=
        Text.trimStart_eq_self fun d hd => Option.some.inj hd ▸ hblank
      rw [afterTypeParameters, List.cons_append, htrim]
      split
      · next heq =>
        exact absurd (List.cons.inj heq).1 (hplain.not_bracket ('<', '>') (by decide)).1
      · rfl
  | @angles body t hbody h _ =>
    refine ⟨t, h, ?_⟩
    have hcut : Cut.ofText (body ++ '>' :: (t ++ '{' :: u)) =
        { pieces := (Cut.ofText body).pieces ++ .char '>' :: (Cut.ofText (t ++ '{' :: u)).pieces
          torn := (Cut.ofText (t ++ '{' :: u)).torn } := by
      rw [hbody.ofText_append, ofText_char (by decide) (by decide)]
      rfl
    have htext : '<' :: body ++ '>' :: t ++ '{' :: u = '<' :: (body ++ '>' :: (t ++ '{' :: u)) := by
      simp
    rw [htext, afterTypeParameters]
    show closeTypeParameters (Cut.ofText (body ++ '>' :: (t ++ '{' :: u))).torn 0
      (Cut.ofText (body ++ '>' :: (t ++ '{' :: u))).pieces = _
    rw [hcut, hbody.closeTypeParameters_append, closeTypeParameters, Cut.textOf_ofText]

/-- An interface declares what the members of its body are, whatever stands in front of its
heritage. -/
theorem declared_of_afterTypeParameters (h : Heritage t) (header : Header)
    (hform : header.form = .interface) {body u v : Text}
    (hparameters : afterTypeParameters v = .ok (t ++ '{' :: (body ++ '}' :: u)))
    (hbody : Bracketed Written.isInner Written.isInner body) {ms : List Member}
    (hmembers : members body = .ok ms) :
    declared header v = .ok (some (Item.ofBody header ms), u) := by
  have hopen : openBody (Cut.ofText (t ++ '{' :: (body ++ '}' :: u))).torn 0
      (Cut.ofText (t ++ '{' :: (body ++ '}' :: u))).pieces = .ok (body ++ '}' :: u) := by
    rw [h.bracketed.ofText_append, h.openBody_append]
    exact Written.openBody_brace _
  simp only [declared, hparameters, hform, hopen, hbody.enclosed_append, hmembers, bind,
    Except.bind, pure, Except.pure]

/-- An interface declares what the members of its body are. -/
theorem declared_interface (h : Heritage t) (header : Header) (hform : header.form = .interface)
    {body : Text} (hbody : Bracketed Written.isInner Written.isInner body) {ms : List Member}
    (hmembers : members body = .ok ms) (u : Text) :
    declared header (t ++ '{' :: (body ++ '}' :: u)) = .ok (some (Item.ofBody header ms), u) := by
  obtain ⟨t', ht', hparameters⟩ := h.exists_afterTypeParameters (body ++ '}' :: u)
  exact ht'.declared_of_afterTypeParameters header hform hparameters hbody hmembers

end Heritage

end Declaration

end ShapeMapper
