import ShapeMapper.Source.Piece

/-!
# Well-bracketed texts

The texts in which every literal is closed and every bracket has its partner (`Bracketed`).
Such a text is cut into pieces in the same way whatever follows it (`Bracketed.ofText_append`),
and no brace of it closes one before it (`Bracketed.closing?_append`). So a well-bracketed text
in braces is read back as it is: `Bracketed.enclosed_append`.
-/

namespace ShapeMapper.Source

/-! ### Literals -/

/-- A text that closes a string literal at its end, and not before. -/
inductive LiteralEnd (quote : Char) : Text → Prop
  | close : LiteralEnd quote [quote]
  | char {c : Char} {t : Text} (hquote : c ≠ quote) (hescape : c ≠ '\\')
      (hline : c = '\n' → quote = '`') (h : LiteralEnd quote t) : LiteralEnd quote (c :: t)
  | escape {c : Char} {t : Text} (h : LiteralEnd quote t) : LiteralEnd quote ('\\' :: c :: t)

/-- A closed string literal. -/
structure Literal where
  quote : Char
  rest : Text
  isQuote_quote : isQuote quote = true
  closed : LiteralEnd quote rest

/-- A literal as it is written. -/
def Literal.text (l : Literal) : Text :=
  l.quote :: l.rest

theorem isQuote_apostrophe : isQuote '\'' = true :=
  rfl

theorem isQuote_doubleQuote : isQuote '"' = true :=
  rfl

theorem isQuote_iff {c : Char} : isQuote c = true ↔ c = '\'' ∨ c = '"' ∨ c = '`' := by
  simp [isQuote, or_assoc]

theorem LiteralEnd.exists_concat {quote : Char} {t : Text} (h : LiteralEnd quote t) :
    ∃ body, t = body ++ [quote] := by
  induction h with
  | close => exact ⟨[], rfl⟩
  | @char c _ _ _ _ _ ih =>
    obtain ⟨body, rfl⟩ := ih
    exact ⟨c :: body, rfl⟩
  | @escape c _ _ ih =>
    obtain ⟨body, rfl⟩ := ih
    exact ⟨'\\' :: c :: body, rfl⟩

theorem Literal.exists_concat (l : Literal) : ∃ body, l.text = body ++ [l.quote] := by
  obtain ⟨body, hbody⟩ := l.closed.exists_concat
  exact ⟨l.quote :: body, by rw [Literal.text, hbody, List.cons_append]⟩

theorem closeString?_append {quote : Char} {t : Text} (hquote : isQuote quote = true)
    (h : LiteralEnd quote t) (u : Text) : closeString? quote (t ++ u) = some (t, u) := by
  have hback : quote ≠ '\\' := by rintro rfl; simp [isQuote] at hquote
  induction h with
  | close =>
    show closeString? quote (quote :: u) = _
    unfold closeString?
    split <;> simp_all
  | char hne hescape hline h ih =>
    rename_i c t
    rw [List.cons_append]
    unfold closeString?
    split
    · simp_all
    · simp_all
    · simp_all
    · next heq =>
      cases heq
      rw [if_neg hne, if_neg fun hend => hend.2 (hline hend.1), ih]
      rfl
  | escape h ih =>
    rw [List.cons_append, List.cons_append, closeString?, ih]
    rfl

/-! ### Cutting texts -/

/-- A cut with one more piece in front. -/
def Cut.cons (piece : Piece) (cut : Cut) : Cut :=
  { cut with pieces := piece :: cut.pieces }

@[simp] theorem Cut.pieces_cons (piece : Piece) (cut : Cut) :
    (Cut.cons piece cut).pieces = piece :: cut.pieces := rfl

@[simp] theorem Cut.torn_cons (piece : Piece) (cut : Cut) :
    (Cut.cons piece cut).torn = cut.torn := rfl

theorem ofText_cons_of_read? {c : Char} {t : Text} {piece : Piece}
    (h : Piece.read? c t = some piece) :
    Cut.ofText (c :: t) = Cut.cons piece (Cut.ofText (t.drop (piece.text.length - 1))) := by
  rw [Cut.ofText, h]
  rfl

theorem ofText_char {c : Char} (hquote : isQuote c = false) (heq : c ≠ '=') (t : Text) :
    Cut.ofText (c :: t) = Cut.cons (.char c) (Cut.ofText t) :=
  ofText_cons_of_read? (by simp [Piece.read?, hquote, heq])

theorem ofText_equals {c : Char} (hc : c ≠ '>') (t : Text) :
    Cut.ofText ('=' :: c :: t) = Cut.cons (.char '=') (Cut.ofText (c :: t)) :=
  ofText_cons_of_read? (by simp [Piece.read?, isQuote, hc])

theorem ofText_arrow (t : Text) :
    Cut.ofText ('=' :: '>' :: t) = Cut.cons .arrow (Cut.ofText t) :=
  ofText_cons_of_read? (by simp [Piece.read?, isQuote])

theorem ofText_literal (l : Literal) (t : Text) :
    Cut.ofText (l.text ++ t) = Cut.cons (.string l.text) (Cut.ofText t) := by
  have hread : Piece.read? l.quote (l.rest ++ t) = some (.string l.text) := by
    rw [Piece.read?, if_pos l.isQuote_quote, closeString?_append l.isQuote_quote l.closed]
    rfl
  rw [Literal.text, List.cons_append, ofText_cons_of_read? hread]
  simp [Piece.text, Literal.text]

/-! ### Brackets -/

/-- The brackets, each with its partner. -/
def brackets : List (Char × Char) :=
  [('{', '}'), ('(', ')'), ('[', ']'), ('<', '>')]

/-- A character that is no quote, no bracket and no equals sign. -/
structure IsPlain (c : Char) : Prop where
  isQuote_eq : isQuote c = false
  ne_equals : c ≠ '='
  not_bracket : ∀ pair ∈ brackets, c ≠ pair.1 ∧ c ≠ pair.2

instance : DecidablePred IsPlain := fun c =>
  decidable_of_iff (isQuote c = false ∧ c ≠ '=' ∧ ∀ pair ∈ brackets, c ≠ pair.1 ∧ c ≠ pair.2)
    ⟨fun ⟨hquote, hequals, hbracket⟩ => ⟨hquote, hequals, hbracket⟩,
      fun h => ⟨h.isQuote_eq, h.ne_equals, h.not_bracket⟩⟩

/-- The texts whose literals are closed and whose brackets have their partners. The other
characters are `loose` outside all brackets and `inner` inside of them. -/
inductive Bracketed (inner : Char → Prop) : (Char → Prop) → Text → Prop
  | nil {loose : Char → Prop} : Bracketed inner loose []
  | char {loose : Char → Prop} {c : Char} {t : Text} (hplain : IsPlain c) (hloose : loose c)
      (h : Bracketed inner loose t) : Bracketed inner loose (c :: t)
  | equals {loose : Char → Prop} {c : Char} {t : Text} (hc : c ≠ '>') (hloose : loose '=')
      (h : Bracketed inner loose (c :: t)) : Bracketed inner loose ('=' :: c :: t)
  | arrow {loose : Char → Prop} {t : Text} (h : Bracketed inner loose t) :
      Bracketed inner loose ('=' :: '>' :: t)
  | literal {loose : Char → Prop} {t : Text} (l : Literal) (h : Bracketed inner loose t) :
      Bracketed inner loose (l.text ++ t)
  | group {loose : Char → Prop} {pair : Char × Char} {body t : Text} (hpair : pair ∈ brackets)
      (hbody : Bracketed inner inner body) (h : Bracketed inner loose t) :
      Bracketed inner loose (pair.1 :: body ++ pair.2 :: t)

/-- The brackets are cut off one by one. -/
theorem ofText_bracket {pair : Char × Char} (h : pair ∈ brackets) (t : Text) :
    Cut.ofText (pair.1 :: t) = Cut.cons (.char pair.1) (Cut.ofText t) ∧
      Cut.ofText (pair.2 :: t) = Cut.cons (.char pair.2) (Cut.ofText t) := by
  have hchars : ∀ pair ∈ brackets, isQuote pair.1 = false ∧ pair.1 ≠ '=' ∧
      isQuote pair.2 = false ∧ pair.2 ≠ '=' := by decide
  obtain ⟨hopen, hopen', hclose, hclose'⟩ := hchars pair h
  exact ⟨ofText_char hopen hopen' t, ofText_char hclose hclose' t⟩

namespace Bracketed

variable {inner loose : Char → Prop} {t u : Text}

theorem of_forall (h : ∀ c ∈ t, IsPlain c ∧ loose c) : Bracketed inner loose t := by
  induction t with
  | nil => exact .nil
  | cons c t ih =>
    have hc := h c List.mem_cons_self
    exact .char hc.1 hc.2 (ih fun d hd => h d (List.mem_cons_of_mem c hd))

/-- The same for texts that are evaluated. -/
theorem of_all [DecidablePred loose] (h : t.all fun c => IsPlain c ∧ loose c) :
    Bracketed inner loose t :=
  of_forall (by simpa using h)

theorem of_literal (l : Literal) : Bracketed inner loose l.text := by
  have hliteral : Bracketed inner loose (l.text ++ []) := .literal l .nil
  rwa [List.append_nil] at hliteral

/-- Fewer characters may be asked for, inside the brackets and outside of them. -/
theorem weaken {inner' loose' : Char → Prop} (hinner : ∀ c, inner c → inner' c)
    (hloose : ∀ c, loose c → loose' c) (h : Bracketed inner loose t) :
    Bracketed inner' loose' t := by
  induction h generalizing loose' with
  | nil => exact .nil
  | char hplain hc _ ih => exact .char hplain (hloose _ hc) (ih hloose)
  | equals hc hequals _ ih => exact .equals hc (hloose _ hequals) (ih hloose)
  | arrow _ ih => exact .arrow (ih hloose)
  | literal l _ ih => exact .literal l (ih hloose)
  | group hpair _ _ ihbody ih => exact .group hpair (ihbody hinner) (ih hloose)

theorem mono {loose' : Char → Prop} (hloose : ∀ c, loose c → loose' c)
    (h : Bracketed inner loose t) : Bracketed inner loose' t :=
  h.weaken (fun _ hc => hc) hloose

/-- What holds of all characters of a text holds of those outside its brackets. -/
theorem and_of_forall {p : Char → Prop} (h : Bracketed inner loose t) (hp : ∀ c ∈ t, p c) :
    Bracketed inner (fun c => loose c ∧ p c) t := by
  induction h with
  | nil => exact .nil
  | char hplain hc _ ih =>
    exact .char hplain ⟨hc, hp _ List.mem_cons_self⟩
      (ih fun d hd => hp d (List.mem_cons_of_mem _ hd))
  | equals hc hequals _ ih =>
    exact .equals hc ⟨hequals, hp _ List.mem_cons_self⟩
      (ih fun d hd => hp d (List.mem_cons_of_mem _ hd))
  | arrow _ ih =>
    exact .arrow (ih fun d hd => hp d (List.mem_cons_of_mem _ (List.mem_cons_of_mem _ hd)))
  | literal l _ ih => exact .literal l (ih fun d hd => hp d (List.mem_append_right _ hd))
  | group hpair hbody _ _ ih =>
    exact .group hpair hbody
      (ih fun d hd => hp d (List.mem_append_right _ (List.mem_cons_of_mem _ hd)))

theorem append (ht : Bracketed inner loose t) (hu : Bracketed inner loose u) :
    Bracketed inner loose (t ++ u) := by
  induction ht with
  | nil => exact hu
  | char hplain hloose _ ih => exact .char hplain hloose (ih hu)
  | equals hc hloose _ ih => exact .equals hc hloose (ih hu)
  | arrow _ ih => exact .arrow (ih hu)
  | literal l _ ih =>
    rw [List.append_assoc]
    exact .literal l (ih hu)
  | group hpair hbody _ _ ih =>
    rw [List.append_assoc]
    exact .group hpair hbody (ih hu)

theorem flatMap {α : Type} {f : α → Text} {l : List α}
    (h : ∀ a ∈ l, Bracketed inner loose (f a)) : Bracketed inner loose (l.flatMap f) := by
  induction l with
  | nil => exact .nil
  | cons a l ih =>
    rw [List.flatMap_cons]
    exact (h a List.mem_cons_self).append (ih fun b hb => h b (List.mem_cons_of_mem a hb))

/-- An equals sign needs a character after it. -/
theorem getLast?_ne_equals (h : Bracketed inner loose t) : t.getLast? ≠ some '=' := by
  have happend {u v : Text} (hu : u.getLast? ≠ some '=') (hv : v.getLast? ≠ some '=') :
      (u ++ v).getLast? ≠ some '=' := by
    rw [List.getLast?_append]
    cases hlast : v.getLast? with
    | none => exact hu
    | some c => rwa [hlast] at hv
  induction h with
  | nil => exact nofun
  | @char _ c t hplain _ _ ih =>
    exact happend (u := [c]) (fun h => hplain.ne_equals (Option.some.inj h)) ih
  | equals _ _ _ ih => rwa [List.getLast?_cons_cons]
  | arrow _ ih => exact happend (u := ['=', '>']) (by decide) ih
  | literal l _ ih =>
    refine happend (fun h => ?_) ih
    obtain ⟨body, hbody⟩ := l.exists_concat
    rw [hbody, List.getLast?_concat] at h
    have hquote := l.isQuote_quote
    rw [Option.some.inj h] at hquote
    cases hquote
  | @group _ pair body t hpair _ _ _ ih =>
    have hclose : ∀ pair ∈ brackets, pair.2 ≠ '=' := by decide
    rw [List.append_cons]
    refine happend (fun h => ?_) ih
    rw [List.getLast?_concat] at h
    exact hclose pair hpair (Option.some.inj h)

/-- The pieces of a well-bracketed text. -/
theorem ofText_append (h : Bracketed inner loose t) (u : Text) :
    Cut.ofText (t ++ u) =
      { pieces := (Cut.ofText t).pieces ++ (Cut.ofText u).pieces
        torn := (Cut.ofText u).torn } := by
  induction h generalizing u with
  | nil => simp [Cut.ofText]
  | char hplain _ _ ih =>
    rw [List.cons_append, ofText_char hplain.isQuote_eq hplain.ne_equals,
      ofText_char hplain.isQuote_eq hplain.ne_equals, ih]
    rfl
  | equals hc _ _ ih =>
    rw [List.cons_append, List.cons_append, ofText_equals hc, ofText_equals hc,
      ← List.cons_append, ih]
    rfl
  | arrow _ ih =>
    rw [List.cons_append, List.cons_append, ofText_arrow, ofText_arrow, ih]
    rfl
  | literal l _ ih =>
    rw [List.append_assoc, ofText_literal, ofText_literal, ih]
    rfl
  | group hpair _ _ ihbody ih =>
    rw [List.append_assoc, List.cons_append, List.cons_append, List.cons_append,
      (ofText_bracket hpair _).1, (ofText_bracket hpair _).1, ihbody, ihbody,
      (ofText_bracket hpair _).2, (ofText_bracket hpair _).2, ih]
    simp [Cut.cons]

theorem torn_ofText (h : Bracketed inner loose t) : (Cut.ofText t).torn = [] := by
  have happend := congrArg Cut.torn (h.ofText_append [])
  rw [List.append_nil] at happend
  rw [happend, Cut.ofText]

theorem textOf_pieces (h : Bracketed inner loose t) : textOf (Cut.ofText t).pieces = t := by
  have htext := Cut.textOf_ofText t
  rwa [h.torn_ofText, List.append_nil] at htext

theorem pieces_group {pair : Char × Char} (hpair : pair ∈ brackets)
    (h : Bracketed inner loose t) (u : Text) :
    (Cut.ofText (pair.1 :: t ++ pair.2 :: u)).pieces =
      .char pair.1 :: ((Cut.ofText t).pieces ++ .char pair.2 :: (Cut.ofText u).pieces) := by
  rw [List.cons_append, (ofText_bracket hpair _).1, Cut.pieces_cons, h.ofText_append,
    (ofText_bracket hpair _).2, Cut.pieces_cons]

/-! ### Braces -/

theorem closing?_cons {piece : Piece} (hopen : piece ≠ .char '{') (hclose : piece ≠ .char '}')
    (depth : Nat) (pieces : List Piece) :
    Piece.closing? depth (piece :: pieces) =
      (Piece.closing? depth pieces).map fun (body, rest) => (piece :: body, rest) := by
  rw [Piece.closing?, if_neg hopen]
  exact hclose

theorem closing?_open (depth : Nat) (pieces : List Piece) :
    Piece.closing? depth (.char '{' :: pieces) =
      (Piece.closing? (depth + 1) pieces).map fun (body, rest) => (.char '{' :: body, rest) := by
  rw [Piece.closing?, if_pos rfl]
  decide

theorem closing?_close (depth : Nat) (pieces : List Piece) :
    Piece.closing? (depth + 1) (.char '}' :: pieces) =
      (Piece.closing? depth pieces).map fun (body, rest) => (.char '}' :: body, rest) := rfl

/-- A well-bracketed text closes no brace before it. -/
theorem closing?_append (h : Bracketed inner loose t) (depth : Nat) (pieces : List Piece) :
    Piece.closing? depth ((Cut.ofText t).pieces ++ pieces) =
      (Piece.closing? depth pieces).map
        fun (body, rest) => ((Cut.ofText t).pieces ++ body, rest) := by
  induction h generalizing depth pieces with
  | nil => simp [Cut.ofText]
  | char hplain _ _ ih =>
    have hbrace := hplain.not_bracket ('{', '}') (by decide)
    rw [ofText_char hplain.isQuote_eq hplain.ne_equals, Cut.pieces_cons, List.cons_append,
      closing?_cons (by simpa using hbrace.1) (by simpa using hbrace.2), ih, Option.map_map]
    rfl
  | equals hc _ _ ih =>
    rw [ofText_equals hc, Cut.pieces_cons, List.cons_append,
      closing?_cons (by decide) (by decide), ih, Option.map_map]
    rfl
  | arrow _ ih =>
    rw [ofText_arrow, Cut.pieces_cons, List.cons_append, closing?_cons (by simp) (by simp), ih,
      Option.map_map]
    rfl
  | literal l _ ih =>
    rw [ofText_literal, Cut.pieces_cons, List.cons_append, closing?_cons (by simp) (by simp), ih,
      Option.map_map]
    rfl
  | @group _ pair body t hpair hbody _ ihbody ih =>
    rw [pieces_group hpair hbody, List.cons_append, List.append_assoc, List.cons_append]
    by_cases hbrace : pair = ('{', '}')
    -- braces open one level more, which the second of them closes again
    · subst hbrace
      rw [closing?_open, ihbody, closing?_close, ih, Option.map_map, Option.map_map,
        Option.map_map]
      congr 1
      funext x
      obtain ⟨b, r⟩ := x
      simp
    -- other brackets are pieces like any others here
    · have hother : ∀ pair ∈ brackets, pair ≠ ('{', '}') → pair.1 ≠ '{' ∧ pair.1 ≠ '}' ∧
          pair.2 ≠ '{' ∧ pair.2 ≠ '}' := by decide
      obtain ⟨h₁, h₂, h₃, h₄⟩ := hother pair hpair hbrace
      rw [closing?_cons (by simpa using h₁) (by simpa using h₂), ihbody,
        closing?_cons (by simpa using h₃) (by simpa using h₄), ih, Option.map_map,
        Option.map_map, Option.map_map]
      congr 1
      funext x
      obtain ⟨b, r⟩ := x
      simp

/-- The next brace that closes one closes the one before the text. -/
theorem closing?_enclosed (h : Bracketed inner loose t) (pieces : List Piece) :
    Piece.closing? 0 ((Cut.ofText t).pieces ++ .char '}' :: pieces) =
      some ((Cut.ofText t).pieces, pieces) := by
  rw [h.closing?_append, Piece.closing?]
  simp

/-- A well-bracketed text in braces is read back. -/
theorem enclosed_append (h : Bracketed inner loose t) (u : Text) :
    enclosed (t ++ '}' :: u) = .ok (t, u) := by
  have hcut : Cut.ofText (t ++ '}' :: u) =
      { pieces := (Cut.ofText t).pieces ++ .char '}' :: (Cut.ofText u).pieces
        torn := (Cut.ofText u).torn } := by
    rw [h.ofText_append, ofText_char (by decide) (by decide)]
    rfl
  simp only [enclosed, hcut, h.closing?_enclosed, h.textOf_pieces, Cut.textOf_ofText]

end Bracketed

end ShapeMapper.Source
