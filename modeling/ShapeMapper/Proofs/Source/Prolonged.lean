import ShapeMapper.Proofs.Source.Lexeme

/-!
# Texts that go on

What a reader has found in a text it finds again when the text goes on, if the rest begins on a
new line (`NextLine`): a literal that is closed stays closed where it is, a slash that divides goes
on to do so, and no piece and no comment runs into the rest. So a source without its comments goes
on as it does with them: `withoutComments_append`.
-/

namespace ShapeMapper

/-- What may follow a text on the next line: a word that is none of those that begin a statement
or go on with one, and no slash. -/
inductive NextLine : Text → Prop
  | intro {c : Char} {t : Text} (hname : Text.isNameChar c = true)
      (hhead : c ∉ ['d', 'e', 'f', 'i', 't']) (hslash : '/' ∉ c :: t) : NextLine ('\n' :: c :: t)

namespace NextLine

variable {u : Text}

theorem not_isNameChar_head (hu : NextLine u) : ∀ c ∈ u.head?, Text.isNameChar c = false := by
  cases hu with
  | intro =>
    intro c hc
    obtain rfl : '\n' = c := Option.some.inj hc
    decide

theorem slash_notMem (hu : NextLine u) : '/' ∉ u := by
  cases hu with
  | intro _ _ hslash => exact fun h => hslash ((List.mem_cons.1 h).resolve_left (by decide))

end NextLine

namespace Text

/-- The characters with a property end where they end without the rest. -/
theorem while_append {p : Char → Bool} {u : Text} (hu : ∀ c ∈ u.head?, p c = false) (t : Text) :
    (t ++ u).takeWhile p = t.takeWhile p ∧ (t ++ u).dropWhile p = t.dropWhile p ++ u := by
  induction t with
  | nil =>
    cases u with
    | nil => exact ⟨rfl, rfl⟩
    | cons c u => simp [hu c rfl]
  | cons c t ih =>
    cases hc : p c with
    | true => simpa [hc] using ih
    | false => simp [hc]

/-- The same if they end in the text. -/
theorem while_append_of_ne_nil {p : Char → Bool} {t : Text} (ht : t.dropWhile p ≠ []) (u : Text) :
    (t ++ u).takeWhile p = t.takeWhile p ∧ (t ++ u).dropWhile p = t.dropWhile p ++ u := by
  induction t with
  | nil => exact absurd rfl ht
  | cons c t ih =>
    cases hc : p c with
    | true =>
      rw [List.dropWhile_cons_of_pos hc] at ht
      simpa [hc] using ih ht
    | false => simp [hc]

theorem length_le_of_cut? {sep t before rest : Text} (h : cut? sep t = some (before, rest)) :
    sep.length ≤ t.length := by
  rw [eq_append_of_cut? h]
  simp only [List.length_append]
  omega

/-- The first occurrence stays the first one. -/
theorem cut?_append {sep t before rest : Text} (h : cut? sep t = some (before, rest)) (u : Text) :
    cut? sep (t ++ u) = some (before, rest ++ u) := by
  induction t generalizing before with
  | nil =>
    obtain ⟨v, hv, heq⟩ := Option.map_eq_some_iff.1 h
    cases heq
    obtain ⟨rfl, rfl⟩ := List.append_eq_nil_iff.1 (after?_eq_some_iff.1 hv).symm
    cases u <;> rfl
  | cons c t ih =>
    rw [cut?] at h
    rw [List.cons_append, cut?]
    cases hafter : after? sep (c :: t) with
    | some v =>
      rw [hafter] at h
      cases h
      have hlonger : after? sep (c :: (t ++ u)) = some (rest ++ u) := by
        rw [after?_eq_some_iff, ← List.append_assoc, ← after?_eq_some_iff.1 hafter]
        rfl
      rw [hlonger]
    | none =>
      rw [hafter] at h
      obtain ⟨⟨b, r⟩, hb, heq⟩ := Option.map_eq_some_iff.1 h
      cases heq
      -- the separator is short enough to have been found in the text
      have hlonger : after? sep (c :: (t ++ u)) = none := by
        rw [Option.eq_none_iff_forall_ne_some] at hafter ⊢
        intro v hv
        have hlength := length_le_of_cut? hb
        have hprefix : sep <+: c :: t :=
          List.prefix_of_prefix_length_le ⟨v, (after?_eq_some_iff.1 hv).symm⟩
            (List.prefix_append (c :: t) u) (by simp only [List.length_cons]; omega)
        obtain ⟨w, hw⟩ := hprefix
        exact hafter w (after?_eq_some_iff.2 hw.symm)
      rw [hlonger, ih hb]
      rfl

end Text

namespace Source

open Text (isNameChar)

variable {t u : Text}

/-! ### Literals -/

theorem ne_backslash {c : Char} (hsingle : c = '\\' → t = [] → False)
    (hescape : ∀ d v, c = '\\' → t = d :: v → False) : c ≠ '\\' := by
  cases t with
  | nil => exact fun hc => hsingle hc rfl
  | cons d v => exact fun hc => hescape d v hc rfl

/-- What is read of a string literal closes it. -/
theorem literalEnd_of_closeString? {quote : Char} {body rest : Text}
    (h : closeString? quote t = some (body, rest)) : LiteralEnd quote body := by
  fun_induction closeString? quote t generalizing body with
  | case1 => cases h
  | case2 => cases h
  | case3 c t ih =>
    obtain ⟨⟨b, r⟩, hb, heq⟩ := Option.map_eq_some_iff.1 h
    cases heq
    exact .escape (ih hb)
  | case4 t =>
    cases h
    exact .close
  | case5 => cases h
  | case6 c t hsingle hescape hquote hline ih =>
    obtain ⟨⟨b, r⟩, hb, heq⟩ := Option.map_eq_some_iff.1 h
    cases heq
    exact .char hquote (ne_backslash hsingle hescape) (fun hc => by simpa [hc] using hline) (ih hb)

theorem closeString?_append_of_some {quote : Char} {body rest : Text}
    (hquote : isQuote quote = true) (h : closeString? quote t = some (body, rest)) (u : Text) :
    closeString? quote (t ++ u) = some (body, rest ++ u) := by
  rw [eq_append_of_closeString? h, List.append_assoc]
  exact closeString?_append hquote (literalEnd_of_closeString? h) (rest ++ u)

namespace Pattern

theorem close?_append_of_some {bracketed : Bool} {body rest : Text}
    (h : close? bracketed t = some (body, rest)) (hu : ∀ c ∈ u.head?, isNameChar c = false) :
    close? bracketed (t ++ u) = some (body, rest ++ u) := by
  fun_induction close? bracketed t generalizing body with
  | case1 => cases h
  | case2 => cases h
  | case3 bracketed c t ih =>
    obtain ⟨⟨b, r⟩, hb, heq⟩ := Option.map_eq_some_iff.1 h
    cases heq
    rw [List.cons_append, List.cons_append, close?, ih hb]
    rfl
  | case4 => cases h
  | case5 c t hsingle hescape hline ih =>
    obtain ⟨⟨b, r⟩, hb, heq⟩ := Option.map_eq_some_iff.1 h
    cases heq
    rw [List.cons_append, close?_inside (ne_backslash hsingle hescape) hline, ih hb]
    rfl
  | case6 bracketed t hbracketed =>
    cases h
    obtain rfl := Bool.eq_false_iff.2 hbracketed
    obtain ⟨htake, hdrop⟩ := Text.while_append hu t
    show some ('/' :: (t ++ u).takeWhile isNameChar, (t ++ u).dropWhile isNameChar) = _
    rw [htake, hdrop]
  | case7 bracketed c t hsingle hescape hline hbracketed hclose ih =>
    obtain ⟨⟨b, r⟩, hb, heq⟩ := Option.map_eq_some_iff.1 h
    cases heq
    obtain rfl := Bool.eq_false_iff.2 hbracketed
    rw [List.cons_append, close?_outside (ne_backslash hsingle hescape) hline hclose, ih hb]
    rfl

/-- Without a slash no pattern is closed. -/
theorem close?_eq_none (bracketed : Bool) (ht : '/' ∉ t) : close? bracketed t = none := by
  fun_induction close? bracketed t <;> simp_all

theorem close?_append_of_none {bracketed : Bool} (h : close? bracketed t = none) (hu : '/' ∉ u) :
    close? bracketed (t ++ u) = none := by
  fun_induction close? bracketed t with
  | case1 bracketed => exact close?_eq_none bracketed hu
  | case2 bracketed => exact close?_eq_none bracketed (by simp [hu])
  | case3 bracketed c t ih =>
    rw [List.cons_append, List.cons_append, close?, ih (Option.map_eq_none_iff.1 h)]
    rfl
  | case4 => rfl
  | case5 c t hsingle hescape hline ih =>
    rw [List.cons_append, close?_inside (ne_backslash hsingle hescape) hline,
      ih (Option.map_eq_none_iff.1 h)]
    rfl
  | case6 => cases h
  | case7 bracketed c t hsingle hescape hline hbracketed hclose ih =>
    obtain rfl := Bool.eq_false_iff.2 hbracketed
    rw [List.cons_append, close?_outside (ne_backslash hsingle hescape) hline hclose,
      ih (Option.map_eq_none_iff.1 h)]
    rfl

/-- A pattern goes on on no other line. -/
theorem read?_append (hu : NextLine u) (before t : Text) :
    read? before (t ++ u) = (read? before t).map fun (body, rest) => (body, rest ++ u) := by
  unfold read?
  split
  · cases h : close? false t with
    | none => exact close?_append_of_none h hu.slash_notMem
    | some parts => exact close?_append_of_some h hu.not_isNameChar_head
  · rfl

end Pattern

/-! ### Comments -/

theorem head?_append_eq_some_iff (hu : NextLine u) {d : Char} (hd : d ≠ '\n') :
    (t ++ u).head? = some d ↔ t.head? = some d := by
  cases hu with
  | intro =>
    cases t with
    | nil => simpa using hd.symm
    | cons => rfl

theorem Segment.read_append (hu : NextLine u) {before : Text} {c : Char} {s : Segment}
    (h : read before c t = .ok s) : read before c (t ++ u) = .ok s := by
  unfold read at h ⊢
  simp only [head?_append_eq_some_iff hu (d := '/') (by decide),
    head?_append_eq_some_iff hu (d := '*') (by decide)]
  split
  · next hquote =>
    rw [if_pos hquote] at h
    cases hclose : closeString? c t with
    | none =>
      rw [hclose] at h
      cases h
    | some parts =>
      rw [hclose] at h
      rw [closeString?_append_of_some hquote hclose]
      exact h
  next hquote =>
  rw [if_neg hquote] at h
  split
  · next hline =>
    rw [if_pos hline] at h
    cases h
    -- a line comment ends where the line does
    have hend : ∀ c ∈ u.head?, decide (c ≠ '\n') = false := by
      cases hu with
      | intro => exact fun c hc => decide_eq_false (not_not_intro (Option.some.inj hc).symm)
    rw [(Text.while_append hend t).1]
  next hline =>
  rw [if_neg hline] at h
  split
  · next hblock =>
    rw [if_pos hblock] at h
    obtain ⟨v, rfl⟩ : ∃ v, t = '*' :: v := List.head?_eq_some_iff.1 hblock.2
    rw [List.cons_append, List.tail_cons]
    rw [List.tail_cons] at h
    cases hcut : Text.cut? ['*', '/'] v with
    | none =>
      rw [hcut] at h
      cases h
    | some parts =>
      rw [hcut] at h
      rw [Text.cut?_append hcut]
      exact h
  next hblock =>
  rw [if_neg hblock] at h
  split
  · next hslash =>
    rw [if_pos hslash] at h
    rw [Pattern.read?_append hu]
    cases hread : Pattern.read? before t with
    | none =>
      rw [hread] at h
      exact h
    | some parts =>
      rw [hread] at h
      exact h
  · next hslash =>
    rw [if_neg hslash] at h
    exact h

theorem segments_append_of_none (hu : NextLine u) {before : Text} {l : List Segment}
    (h : segments before t = (l, none)) :
    segments before (t ++ u) = (l ++ (segments (t.reverse ++ before) u).1,
      (segments (t.reverse ++ before) u).2) := by
  fun_induction segments before t generalizing l with
  | case1 =>
    cases h
    rfl
  | case2 => cases h
  | case3 before c t segment hread later stuck hlater ih =>
    obtain ⟨rfl, rfl⟩ := Prod.mk.inj h
    obtain ⟨body, rest, hbody, rfl⟩ := Segment.eq_append_of_read hread
    have hdrop : (body ++ rest).drop (segment.text.length - 1) = rest := by simp [hbody]
    rw [hdrop] at ih hlater
    have hlonger := Segment.read_append hu hread
    rw [List.append_assoc] at hlonger
    have hsegments := segments_append hbody hlonger
    rw [ih hlater, hbody] at hsegments
    rw [List.cons_append, List.append_assoc]
    simpa using hsegments

/-- Comments that end before a line end are all there is to take from a source that goes on
without comments. -/
theorem withoutComments_append (hu : NextLine u) (huncommented : Uncommented u) {text : Text}
    (h : withoutComments t = .ok text) : withoutComments (t ++ u) = .ok (text ++ u) := by
  unfold withoutComments at h
  split at h
  · next l hl =>
    cases h
    have hsegments := segments_append_of_none hu hl
    obtain ⟨hstuck, hkept⟩ := huncommented.segments_eq (t.reverse ++ [])
    rw [hstuck] at hsegments
    rw [withoutComments_of_segments hsegments, List.flatMap_append, hkept]
  · cases h

/-! ### Pieces -/

theorem Piece.read?_append (hu : NextLine u) {c : Char} {piece : Piece}
    (h : read? c t = some piece) : read? c (t ++ u) = some piece := by
  unfold read? at h ⊢
  simp only [head?_append_eq_some_iff hu (d := '>') (by decide)]
  split
  · next hquote =>
    rw [if_pos hquote] at h
    obtain ⟨parts, hparts, rfl⟩ := Option.map_eq_some_iff.1 h
    rw [closeString?_append_of_some hquote hparts]
    rfl
  · next hquote =>
    rw [if_neg hquote] at h
    exact h

/-- The pieces of a text are the first ones if it goes on. A literal that it leaves open may go
on as well. -/
theorem exists_ofText_append (hu : NextLine u) (t : Text) :
    ∃ more, (Cut.ofText (t ++ u)).pieces = (Cut.ofText t).pieces ++ more ∧
      textOf more ++ (Cut.ofText (t ++ u)).torn = (Cut.ofText t).torn ++ u := by
  have hpieces : ∃ more, (Cut.ofText (t ++ u)).pieces = (Cut.ofText t).pieces ++ more := by
    fun_induction Cut.ofText t with
    | case1 => exact ⟨(Cut.ofText u).pieces, rfl⟩
    | case2 => exact ⟨_, rfl⟩
    | case3 c t piece hread later ih =>
      obtain ⟨body, rest, hbody, rfl⟩ := Piece.eq_append_of_read? hread
      have hdrop : (body ++ rest).drop (piece.text.length - 1) = rest := by simp [hbody]
      have hdrop' : (body ++ rest ++ u).drop (piece.text.length - 1) = rest ++ u := by
        simp [hbody]
      obtain ⟨more, hmore⟩ := ih
      refine ⟨more, ?_⟩
      rw [hdrop] at hmore
      rw [List.cons_append, ofText_cons_of_read? (Piece.read?_append hu hread), hdrop',
        Cut.pieces_cons, hmore]
      simp only [later, hdrop, List.cons_append]
  obtain ⟨more, hmore⟩ := hpieces
  refine ⟨more, hmore, ?_⟩
  have htext := Cut.textOf_ofText (t ++ u)
  conv_rhs at htext => rw [← Cut.textOf_ofText t]
  rw [hmore, textOf, List.flatMap_append, List.append_assoc, List.append_assoc] at htext
  exact List.append_cancel_left htext

theorem Piece.closing?_append_of_some {depth : Nat} {pieces body rest : List Piece}
    (h : closing? depth pieces = some (body, rest)) (more : List Piece) :
    closing? depth (pieces ++ more) = some (body, rest ++ more) := by
  fun_induction closing? depth pieces generalizing body with
  | case1 => cases h
  | case2 =>
    cases h
    rfl
  | case3 depth pieces ih =>
    obtain ⟨⟨b, r⟩, hb, heq⟩ := Option.map_eq_some_iff.1 h
    cases heq
    rw [List.cons_append, Bracketed.closing?_close, ih hb]
    rfl
  | case4 depth piece pieces hclose ih =>
    obtain ⟨⟨b, r⟩, hb, heq⟩ := Option.map_eq_some_iff.1 h
    cases heq
    rw [List.cons_append, closing?, ih hb]
    · rfl
    · exact hclose

/-- A text in braces is read as well if it goes on behind them. -/
theorem enclosed_append_of_ok (hu : NextLine u) {body rest : Text}
    (h : enclosed t = .ok (body, rest)) : enclosed (t ++ u) = .ok (body, rest ++ u) := by
  obtain ⟨more, hpieces, htorn⟩ := exists_ofText_append hu t
  unfold enclosed at h ⊢
  dsimp only at h ⊢
  split at h
  · next b r hclosing =>
    cases h
    rw [hpieces, Piece.closing?_append_of_some hclosing]
    simp only [textOf, List.flatMap_append, List.append_assoc] at htorn ⊢
    rw [htorn]
  · cases h

end Source

end ShapeMapper
