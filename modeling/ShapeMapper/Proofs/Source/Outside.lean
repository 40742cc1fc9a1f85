import ShapeMapper.Proofs.Source.Prolonged

/-!
# What stands outside of the literals

A text whose literals are all closed has some characters outside of them (`Outside`). Every text is
such a text, with a literal behind it that is never closed (`Unclosed`) or nothing; how it is
divided so is what its pieces say: `Outside.ofText_append`, `outside_textOf`.
-/

namespace ShapeMapper.Source

/-- The literals of a text are closed, and the second text is what stands outside of them. -/
inductive Outside : Text → Text → Prop
  | nil : Outside [] []
  | char {c : Char} {t u : Text} (hquote : isQuote c = false) (h : Outside t u) :
      Outside (c :: t) (c :: u)
  | literal {t u : Text} (l : Literal) (h : Outside t u) : Outside (l.text ++ t) u

/-- Whether all literals of a text are closed, so that what follows it stands outside of them. -/
def LiteralsClosed (t : Text) : Prop :=
  ∃ u, Outside t u

/-- Whether a text begins with a literal that is never closed. -/
def Unclosed (t : Text) : Prop :=
  ∃ quote rest, t = quote :: rest ∧ isQuote quote = true ∧
    ∀ body, body <+: rest → ¬LiteralEnd quote body

variable {t u v w : Text} {c : Char}

/-! ### Literals -/

/-- A literal is closed at one place only. -/
theorem LiteralEnd.eq_of_prefix {quote : Char} (hquote : isQuote quote = true) {body : Text}
    (h : LiteralEnd quote t) (hbody : LiteralEnd quote body) (hbegins : body <+: t) : body = t := by
  obtain ⟨rest, rfl⟩ := hbegins
  have hwhole := closeString?_append hquote h []
  rw [List.append_nil, closeString?_append hquote hbody rest] at hwhole
  exact congrArg Prod.fst (Option.some.inj hwhole)

/-- What is left of a literal that is cut short is never closed. -/
theorem Literal.unclosed_of_prefix (l : Literal) (hbegins : t <+: l.text) (hnil : t ≠ [])
    (hne : t ≠ l.text) : Unclosed t := by
  obtain ⟨d, u, rfl⟩ := List.exists_cons_of_ne_nil hnil
  obtain ⟨rfl, hu⟩ := List.cons_prefix_cons.1 hbegins
  refine ⟨l.quote, u, rfl, l.isQuote_quote, fun body hbody hend => hne ?_⟩
  obtain rfl := l.closed.eq_of_prefix l.isQuote_quote hend (hbody.trans hu)
  rw [Literal.text, hu.eq_of_length_le hbody.length_le]

theorem Unclosed.of_prefix (h : Unclosed t) (hu : u <+: t) (hnil : u ≠ []) : Unclosed u := by
  obtain ⟨quote, rest, rfl, hquote, hend⟩ := h
  obtain ⟨d, u, rfl⟩ := List.exists_cons_of_ne_nil hnil
  obtain ⟨rfl, hrest⟩ := List.cons_prefix_cons.1 hu
  exact ⟨d, u, rfl, hquote, fun body hbody => hend body (hbody.trans hrest)⟩

theorem Unclosed.ne_nil (h : Unclosed t) : t ≠ [] := by
  obtain ⟨quote, rest, rfl, -⟩ := h
  exact List.cons_ne_nil quote rest

theorem Unclosed.isQuote_head (h : Unclosed (c :: t)) : isQuote c = true := by
  obtain ⟨quote, rest, heq, hquote, -⟩ := h
  rwa [(List.cons.inj heq).1]

/-! ### Closed texts -/

theorem Outside.append (ht : Outside t v) (hu : Outside u w) : Outside (t ++ u) (v ++ w) := by
  induction ht with
  | nil => exact hu
  | char hquote _ ih => exact .char hquote ih
  | literal l _ ih =>
    rw [List.append_assoc]
    exact .literal l ih

theorem LiteralsClosed.nil : LiteralsClosed [] :=
  ⟨[], .nil⟩

theorem LiteralsClosed.append (ht : LiteralsClosed t) (hu : LiteralsClosed u) :
    LiteralsClosed (t ++ u) := by
  obtain ⟨v, hv⟩ := ht
  obtain ⟨w, hw⟩ := hu
  exact ⟨v ++ w, hv.append hw⟩

theorem LiteralsClosed.of_forall (h : ∀ c ∈ t, isQuote c = false) : LiteralsClosed t := by
  induction t with
  | nil => exact .nil
  | cons c t ih =>
    obtain ⟨u, hu⟩ := ih fun d hd => h d (List.mem_cons_of_mem c hd)
    exact ⟨c :: u, .char (h c List.mem_cons_self) hu⟩

theorem LiteralsClosed.of_cons (hquote : isQuote c = false) (h : LiteralsClosed (c :: t)) :
    LiteralsClosed t := by
  obtain ⟨u, hu⟩ := h
  generalize heq : c :: t = x at hu
  cases hu with
  | nil => cases heq
  | char _ hu =>
    cases heq
    exact ⟨_, hu⟩
  | literal l _ =>
    rw [(List.cons.inj heq).1, l.isQuote_quote] at hquote
    cases hquote

/-- A text is closed before a character that stands at its end and closes no literal. -/
theorem LiteralsClosed.of_concat (hquote : isQuote c = false) (h : LiteralsClosed (t ++ [c])) :
    LiteralsClosed t := by
  obtain ⟨u, hu⟩ := h
  generalize heq : t ++ [c] = x at hu
  induction hu generalizing t with
  | nil => simp at heq
  | @char d _ _ hd _ ih =>
    cases t with
    | nil => exact .nil
    | cons d' t =>
      obtain ⟨rfl, hrest⟩ := List.cons.inj heq
      obtain ⟨v, hv⟩ := ih hrest
      exact ⟨d' :: v, .char hd hv⟩
  | @literal rest _ l hrest ih =>
    rcases List.eq_nil_or_concat rest with rfl | ⟨rest, d, rfl⟩
    -- a literal ends with a quote
    · obtain ⟨body, hbody⟩ := l.exists_concat
      rw [List.append_nil, hbody] at heq
      rw [List.singleton_inj.1 (List.append_inj_right' heq rfl), l.isQuote_quote] at hquote
      cases hquote
    · rw [List.concat_eq_append, ← List.append_assoc] at heq
      obtain ⟨rfl, hlast⟩ := List.append_inj' heq rfl
      obtain ⟨v, hv⟩ := ih (by rw [List.concat_eq_append, hlast])
      exact ⟨v, .literal l hv⟩

/-- A text is closed before some characters that stand at its end and close no literal. -/
theorem LiteralsClosed.of_append (hu : ∀ c ∈ u, isQuote c = false) (h : LiteralsClosed (t ++ u)) :
    LiteralsClosed t := by
  induction u generalizing t with
  | nil => rwa [List.append_nil] at h
  | cons c u ih =>
    obtain ⟨hc, hu⟩ := List.forall_mem_cons.1 hu
    rw [List.append_cons] at h
    exact (ih hu h).of_concat hc

/-! ### Pieces -/

namespace Piece

/-- What a piece has outside of literals. -/
def outside : Piece → Text
  | string _ => []
  | p => p.text

/-- Whether a piece is one that can be read: a character that is no quote, an arrow, or a closed
literal. -/
def IsWhole : Piece → Prop
  | char c => isQuote c = false
  | arrow => True
  | string t => ∃ l : Literal, t = l.text

theorem isWhole_of_read? {p : Piece} (h : read? c t = some p) : p.IsWhole := by
  unfold read? at h
  split at h
  · next hquote =>
    obtain ⟨⟨body, rest⟩, hclose, rfl⟩ := Option.map_eq_some_iff.1 h
    exact ⟨⟨c, body, hquote, literalEnd_of_closeString? hclose⟩, rfl⟩
  · next hquote =>
    split at h
    · cases h
      trivial
    · cases h
      exact Bool.eq_false_iff.2 hquote

theorem outside_text {p : Piece} (h : p.IsWhole) (ht : Outside t u) :
    Outside (p.text ++ t) (p.outside ++ u) := by
  cases p with
  | char c => exact .char h ht
  | arrow => exact .char (by decide) (.char (by decide) ht)
  | string x =>
    obtain ⟨l, rfl⟩ := h
    exact .literal l ht

end Piece

variable {pieces : List Piece}

theorem Outside.textOf_append (h : ∀ p ∈ pieces, p.IsWhole) (ht : Outside t u) :
    Outside (textOf pieces ++ t) (pieces.flatMap Piece.outside ++ u) := by
  induction pieces with
  | nil => exact ht
  | cons p pieces ih =>
    obtain ⟨hp, hpieces⟩ := List.forall_mem_cons.1 h
    rw [textOf, List.flatMap_cons, List.flatMap_cons, List.append_assoc, List.append_assoc]
    exact Piece.outside_text hp (ih hpieces)

theorem outside_textOf (h : ∀ p ∈ pieces, p.IsWhole) :
    Outside (textOf pieces) (pieces.flatMap Piece.outside) := by
  have hnil := Outside.textOf_append h .nil
  rwa [List.append_nil, List.append_nil] at hnil

theorem isWhole_of_mem_pieces (t : Text) : ∀ p ∈ (Cut.ofText t).pieces, p.IsWhole := by
  fun_induction Cut.ofText t with
  | case1 => exact List.forall_mem_nil _
  | case2 => exact List.forall_mem_nil _
  | case3 c t p hread later ih =>
    exact List.forall_mem_cons.2 ⟨Piece.isWhole_of_read? hread, ih⟩

/-- The pieces of a text are closed, and what is torn off behind them is never closed. -/
theorem unclosed_torn (t : Text) : (Cut.ofText t).torn = [] ∨ Unclosed (Cut.ofText t).torn := by
  fun_induction Cut.ofText t with
  | case1 => exact .inl rfl
  | case2 c t hread =>
    refine .inr ⟨c, t, rfl, ?_⟩
    unfold Piece.read? at hread
    split at hread
    · next hquote =>
      refine ⟨hquote, fun body hbody hend => ?_⟩
      obtain ⟨rest, rfl⟩ := hbody
      rw [closeString?_append hquote hend] at hread
      cases hread
    · split at hread <;> cases hread
  | case3 c t p hread later ih => exact ih

/-- A character outside of literals is cut off by itself, or in an arrow. -/
theorem flatMap_outside_cons (hquote : isQuote c = false) (t : Text) :
    (Cut.ofText (c :: t)).pieces.flatMap Piece.outside =
        c :: (Cut.ofText t).pieces.flatMap Piece.outside ∧
      (Cut.ofText (c :: t)).torn = (Cut.ofText t).torn := by
  by_cases harrow : c = '=' ∧ t.head? = some '>'
  · obtain ⟨rfl, hhead⟩ := harrow
    obtain ⟨t, rfl⟩ := List.head?_eq_some_iff.1 hhead
    rw [ofText_arrow, ofText_char (by decide) (by decide)]
    exact ⟨rfl, rfl⟩
  · have hread : Piece.read? c t = some (.char c) := by
      rw [Piece.read?, hquote, if_neg Bool.false_ne_true, if_neg harrow]
    rw [ofText_cons_of_read? hread]
    exact ⟨rfl, rfl⟩

/-- A text divides in one way into one that is closed and a literal that is not. -/
theorem Outside.ofText_append (ht : Outside t u) (hv : v = [] ∨ Unclosed v) :
    (Cut.ofText (t ++ v)).pieces.flatMap Piece.outside = u ∧ (Cut.ofText (t ++ v)).torn = v := by
  induction ht with
  | nil =>
    rcases hv with rfl | ⟨quote, rest, rfl, hquote, hend⟩
    · rw [List.append_nil, Cut.ofText]
      exact ⟨rfl, rfl⟩
    · have hread : Piece.read? quote rest = none := by
        rw [Piece.read?, if_pos hquote, Option.map_eq_none_iff, Option.eq_none_iff_forall_ne_some]
        rintro ⟨body, later⟩ hclose
        exact hend body ⟨later, (eq_append_of_closeString? hclose).symm⟩
          (literalEnd_of_closeString? hclose)
      rw [List.nil_append, Cut.ofText, hread]
      exact ⟨rfl, rfl⟩
  | @char c t u hquote _ ih =>
    obtain ⟨hpieces, htorn⟩ := flatMap_outside_cons hquote (t ++ v)
    rw [List.cons_append, hpieces, htorn, ih.1]
    exact ⟨rfl, ih.2⟩
  | literal l _ ih =>
    rw [List.append_assoc, ofText_literal]
    exact ih

end ShapeMapper.Source
