import Mathlib.Data.List.Infix
import ShapeMapper.Proofs.Source.Comment
import ShapeMapper.Proofs.Text.Name

/-!
# Sources written out of lexemes

A source as its author means it: a sequence of characters, literals, comments, patterns and
divisions, each of them where it may stand (`WellPlaced`). Such a source is cut into just these
lexemes (`segments_flatMap_text`), so that without comments it keeps all of them, but for the line
comments, which go, and the block comments, which leave a space: `withoutComments_flatMap_text`.
-/

namespace ShapeMapper.Source

open Text (isBlank isNameChar)

/-- Whether a text turns a slash before it into the beginning of a comment. -/
def MakesComment (t : Text) : Prop :=
  t.head? = some '/' ∨ t.head? = some '*'

instance : DecidablePred MakesComment := fun t =>
  inferInstanceAs (Decidable (t.head? = some '/' ∨ t.head? = some '*'))

/-! ### Patterns -/

/-- A text on one line that closes a pattern at its end, and not before. It begins outside of all
brackets, or inside of one. -/
inductive PatternEnd : Bool → Text → Prop
  | close : PatternEnd false ['/']
  | char {c : Char} {t : Text} (hescape : c ≠ '\\') (hline : c ≠ '\n') (hclose : c ≠ '/')
      (hbracket : c ≠ '[') (h : PatternEnd false t) : PatternEnd false (c :: t)
  | escape {bracketed : Bool} {c : Char} {t : Text} (hline : c ≠ '\n')
      (h : PatternEnd bracketed t) : PatternEnd bracketed ('\\' :: c :: t)
  | enter {t : Text} (h : PatternEnd true t) : PatternEnd false ('[' :: t)
  | inner {c : Char} {t : Text} (hescape : c ≠ '\\') (hline : c ≠ '\n') (hbracket : c ≠ ']')
      (h : PatternEnd true t) : PatternEnd true (c :: t)
  | leave {t : Text} (h : PatternEnd false t) : PatternEnd true (']' :: t)

/-- A pattern that is no comment: what follows its first slash, up to the last one, and its
flags. -/
structure PatternLiteral where
  rest : Text
  flags : Text
  closed : PatternEnd false rest
  not_makesComment : ¬ MakesComment rest
  isNameChar_flags : ∀ c ∈ flags, isNameChar c = true

/-- A pattern as it is written. -/
def PatternLiteral.text (p : PatternLiteral) : Text :=
  '/' :: (p.rest ++ p.flags)

theorem PatternEnd.ne_nil {bracketed : Bool} {t : Text} (h : PatternEnd bracketed t) : t ≠ [] := by
  cases h <;> exact List.cons_ne_nil _ _

namespace Pattern

theorem close?_inside {c : Char} (hescape : c ≠ '\\') (hline : c ≠ '\n') (t : Text) :
    close? true (c :: t) =
      (close? (c ≠ ']') t).map fun (body, rest) => (c :: body, rest) := by
  rw [close?]
  · exact if_pos rfl
  · rintro rfl
    exact absurd rfl hescape
  · rintro d u rfl
    exact absurd rfl hescape
  · exact hline

theorem close?_outside {c : Char} (hescape : c ≠ '\\') (hline : c ≠ '\n') (hclose : c ≠ '/')
    (t : Text) :
    close? false (c :: t) =
      (close? (c = '[') t).map fun (body, rest) => (c :: body, rest) := by
  rw [close?]
  · exact (if_neg Bool.false_ne_true).trans (if_neg hclose)
  · rintro rfl
    exact absurd rfl hescape
  · rintro d u rfl
    exact absurd rfl hescape
  · exact hline

theorem close?_append {bracketed : Bool} {t flags u : Text} (h : PatternEnd bracketed t)
    (hflags : ∀ c ∈ flags, isNameChar c = true) (hu : ∀ c ∈ u.head?, isNameChar c = false) :
    close? bracketed (t ++ (flags ++ u)) = some (t ++ flags, u) := by
  induction h with
  | close =>
    obtain ⟨htake, hdrop⟩ := Text.takeWhile_isNameChar_append hflags hu
    show some ('/' :: (flags ++ u).takeWhile isNameChar, (flags ++ u).dropWhile isNameChar) = _
    rw [htake, hdrop]
    rfl
  | char hescape hline hclose hbracket _ ih =>
    rw [List.cons_append, close?_outside hescape hline hclose, decide_eq_false hbracket, ih]
    rfl
  | escape _ _ ih =>
    rw [List.cons_append, List.cons_append, close?, ih]
    rfl
  | enter _ ih =>
    rw [List.cons_append, close?_outside (by decide) (by decide) (by decide),
      decide_eq_true rfl, ih]
    rfl
  | inner hescape hline hbracket _ ih =>
    rw [List.cons_append, close?_inside hescape hline, decide_eq_true hbracket, ih]
    rfl
  | leave _ ih =>
    rw [List.cons_append, close?_inside (by decide) (by decide), decide_eq_false (by decide), ih]
    rfl

end Pattern

/-! ### Lexemes -/

/-- A part of a source, as its author means it. -/
inductive Lexeme
  | char (c : Char)
  | literal (l : Literal)
  /-- A comment from its two slashes to the end of its line. -/
  | lineComment (body : Text)
  /-- A comment between its delimiters. -/
  | blockComment (body : Text)
  | pattern (p : PatternLiteral)
  | division

namespace Lexeme

/-- A lexeme as it is written. -/
def text : Lexeme → Text
  | char c => [c]
  | literal l => l.text
  | lineComment body => '/' :: '/' :: body
  | blockComment body => '/' :: '*' :: (body ++ ['*', '/'])
  | pattern p => p.text
  | division => ['/']

/-- What is left of a lexeme without comments. -/
def kept : Lexeme → Text
  | lineComment _ => []
  | blockComment _ => [' ']
  | x => x.text

/-- Whether a lexeme is white space. -/
def isBlank : Lexeme → Bool
  | char c => Text.isBlank c
  | _ => false

/-- The text of the lexemes before a place. Both are given in reverse. -/
def textBefore (before : List Lexeme) : Text :=
  before.flatMap fun x => x.text.reverse

/-- Whether an operand may stand after some lexemes, so that a slash opens a pattern: there is
nothing before it, or next to it an operator or an opening bracket. -/
def OperandFits (before : List Lexeme) : Prop :=
  match before.dropWhile isBlank with
  | [] => True
  | char c :: _ => c ∈ Pattern.openers
  | _ => False

/-- Whether an operator may stand after some lexemes, so that a slash is a division: next to it
ends an operand, with a closing bracket or with a word. -/
def OperatorFits (before : List Lexeme) : Prop :=
  match before.dropWhile isBlank with
  | char c :: before =>
    c = ')' ∨ c = ']' ∨ isNameChar c = true ∧
      ((textBefore (char c :: before)).takeWhile isNameChar).reverse ∉ Pattern.openingWords
  | _ => False

/-- Whether a lexeme may stand between the lexemes before it, given in reverse, and the text that
follows. -/
def Fits (before : List Lexeme) (t : Text) : Lexeme → Prop
  | char c => isQuote c = false ∧ c ≠ '/'
  | literal _ => True
  | lineComment body => '\n' ∉ body ∧ ∀ c ∈ t.head?, c = '\n'
  | blockComment body => ¬ ['*', '/'] <:+: body
  | pattern _ => OperandFits before ∧ ∀ c ∈ t.head?, isNameChar c = false
  | division => OperatorFits before ∧ ¬ MakesComment t

/-- Whether some lexemes may follow those before them, which are given in reverse. -/
def WellPlaced (before : List Lexeme) : List Lexeme → Prop
  | [] => True
  | x :: later => x.Fits before (later.flatMap text) ∧ WellPlaced (x :: before) later

/-- The segment that a lexeme is. A division is a character like others. -/
def segment : Lexeme → Segment
  | char c => .char c
  | literal l => .string l.text
  | lineComment body => .lineComment ('/' :: '/' :: body)
  | blockComment body => .blockComment ('/' :: '*' :: (body ++ ['*', '/']))
  | pattern p => .pattern p.text
  | division => .char '/'

@[simp] theorem text_segment (x : Lexeme) : x.segment.text = x.text := by
  cases x <;> rfl

@[simp] theorem kept_segment (x : Lexeme) : x.segment.kept = x.kept := by
  cases x <;> rfl

/-! ### What stands before a slash -/

variable {before : List Lexeme}

theorem dropWhile_textBefore (before : List Lexeme) :
    (textBefore before).dropWhile Text.isBlank =
      (textBefore (before.dropWhile isBlank)).dropWhile Text.isBlank := by
  induction before with
  | nil => rfl
  | cons x before ih =>
    by_cases hblank : x.isBlank = true
    · cases x with
      | char c =>
        have hc : Text.isBlank c = true := hblank
        rw [List.dropWhile_cons_of_pos hblank, ← ih]
        show (c :: textBefore before).dropWhile Text.isBlank = _
        rw [List.dropWhile_cons_of_pos hc]
      | _ => cases hblank
    · rw [List.dropWhile_cons_of_neg hblank]

/-- The nearest character that is no blank, if it is a lexeme. -/
theorem dropWhile_textBefore_of_char {c : Char} {rest : List Lexeme}
    (h : before.dropWhile isBlank = char c :: rest) :
    (textBefore before).dropWhile Text.isBlank = c :: textBefore rest := by
  have hc : ¬ Text.isBlank c = true := by
    have hhead := List.head?_dropWhile_not isBlank before
    rw [h] at hhead
    simpa [isBlank] using hhead
  rw [dropWhile_textBefore, h]
  show (c :: textBefore rest).dropWhile Text.isBlank = _
  rw [List.dropWhile_cons_of_neg hc]

theorem OperandFits.mayOpen (h : OperandFits before) :
    Pattern.mayOpen (textBefore before) = true := by
  unfold OperandFits at h
  split at h
  · next hnil =>
    rw [Pattern.mayOpen, dropWhile_textBefore, hnil]
    rfl
  · next c rest hchar =>
    rw [Pattern.mayOpen, dropWhile_textBefore_of_char hchar]
    simp [h]
  · cases h

theorem OperatorFits.not_mayOpen (h : OperatorFits before) :
    Pattern.mayOpen (textBefore before) = false := by
  unfold OperatorFits at h
  split at h
  · next c rest hchar =>
    have hopeners : ∀ d ∈ Pattern.openers, d ≠ ')' ∧ d ≠ ']' ∧ isNameChar d = false :=
      Text.forall_mem_of_all (by decide)
    have hc : c ∉ Pattern.openers := by
      intro hmem
      obtain ⟨hround, hsquare, hname⟩ := hopeners c hmem
      rcases h with rfl | rfl | ⟨hword, -⟩
      · exact hround rfl
      · exact hsquare rfl
      · rw [hname] at hword
        cases hword
    have hword : ((c :: textBefore rest).takeWhile isNameChar).reverse ∉
        Pattern.openingWords := by
      rcases h with rfl | rfl | ⟨-, hword⟩
      · exact (by decide : ([] : Text) ∉ Pattern.openingWords)
      · exact (by decide : ([] : Text) ∉ Pattern.openingWords)
      · exact hword
    rw [Pattern.mayOpen, dropWhile_textBefore_of_char hchar]
    simp [hc, hword]
  · cases h

/-! ### Reading lexemes -/

theorem read_lineComment {body t : Text} (hbody : '\n' ∉ body) (ht : ∀ c ∈ t.head?, c = '\n')
    (before : Text) :
    Segment.read before '/' ('/' :: body ++ t) = .ok (lineComment body).segment := by
  have htake : ('/' :: body ++ t).takeWhile (· ≠ '\n') = '/' :: body := by
    have hline : ∀ c ∈ '/' :: body, decide (c ≠ '\n') = true := by
      intro c hc
      have hne : c ≠ '\n' := by
        rintro rfl
        exact hbody (by simpa using hc)
      exact decide_eq_true hne
    cases t with
    | nil => rw [List.append_nil, List.takeWhile_eq_self_iff.2 hline]
    | cons c t => exact (Text.takeWhile_append_cons hline (by simp [ht c rfl]) t).1
  rw [Segment.read, if_neg (by decide), if_pos ⟨rfl, rfl⟩, htake]
  rfl

theorem cut?_of_not_infix {body : Text} (h : ¬ ['*', '/'] <:+: body) (t : Text) :
    Text.cut? ['*', '/'] (body ++ ['*', '/'] ++ t) = some (body, t) := by
  induction body with
  | nil => rfl
  | cons c body ih =>
    have hbody : ¬ ['*', '/'] <:+: body := fun hinner => h (List.infix_cons hinner)
    have hafter : Text.after? ['*', '/'] (c :: (body ++ ['*', '/'] ++ t)) = none := by
      rw [Option.eq_none_iff_forall_ne_some]
      intro rest hrest
      rw [Text.after?_eq_some_iff, List.cons_append, List.cons.injEq] at hrest
      obtain ⟨rfl, hslash⟩ := hrest
      cases body with
      -- a star at the end is followed by another one, not by a slash
      | nil => cases hslash
      | cons d body =>
        obtain rfl : d = '/' := (List.cons.inj hslash).1
        exact h ⟨[], body, rfl⟩
    rw [List.cons_append, List.cons_append, Text.cut?, hafter, ih hbody]
    rfl

theorem read_blockComment {body : Text} (hbody : ¬ ['*', '/'] <:+: body) (before t : Text) :
    Segment.read before '/' ('*' :: (body ++ ['*', '/']) ++ t) =
      .ok (blockComment body).segment := by
  have hcut : Text.cut? ['*', '/'] ('*' :: (body ++ ['*', '/']) ++ t).tail = some (body, t) :=
    cut?_of_not_infix hbody t
  rw [Segment.read, if_neg (by decide), if_neg (by simp), if_pos ⟨rfl, rfl⟩, hcut]
  rfl

/-- A slash that begins no comment begins a pattern, or it stands for itself. -/
theorem read_slash {t : Text} (ht : ¬ MakesComment t) (before : Text) :
    Segment.read before '/' t =
      match Pattern.read? before t with
      | some (body, _) => .ok (.pattern ('/' :: body))
      | none => .ok (.char '/') := by
  unfold Segment.read
  refine (if_neg (by decide)).trans ?_
  refine (if_neg fun h => ht (.inl h.2)).trans ?_
  refine (if_neg fun h => ht (.inr h.2)).trans ?_
  exact if_pos rfl

theorem read_pattern (p : PatternLiteral) {b t : Text} (hopen : Pattern.mayOpen b = true)
    (ht : ∀ c ∈ t.head?, isNameChar c = false) :
    Segment.read b '/' (p.rest ++ p.flags ++ t) = .ok (pattern p).segment := by
  have hcomment : ¬ MakesComment (p.rest ++ p.flags ++ t) := by
    rw [MakesComment, List.append_assoc, List.head?_append_of_ne_nil _ p.closed.ne_nil]
    exact p.not_makesComment
  rw [read_slash hcomment, Pattern.read?, if_pos hopen, List.append_assoc,
    Pattern.close?_append p.closed p.isNameChar_flags ht]
  rfl

theorem read_division {b t : Text} (hopen : Pattern.mayOpen b = false) (ht : ¬ MakesComment t) :
    Segment.read b '/' t = .ok division.segment := by
  rw [read_slash ht, Pattern.read?, hopen]
  rfl

/-- Whether a lexeme is read as what it is after some text, which is given in reverse, and before
some other. A slash is read as the text before it lets it. -/
def IsRead (b t : Text) : Lexeme → Prop
  | char c => isQuote c = false ∧ c ≠ '/'
  | literal _ => True
  | lineComment body => '\n' ∉ body ∧ ∀ c ∈ t.head?, c = '\n'
  | blockComment body => ¬ ['*', '/'] <:+: body
  | pattern _ => Pattern.mayOpen b = true ∧ ∀ c ∈ t.head?, isNameChar c = false
  | division => Pattern.mayOpen b = false ∧ ¬ MakesComment t

/-- Whether some lexemes are read one by one between two texts. -/
def AllRead (b t : Text) : List Lexeme → Prop
  | [] => True
  | x :: later => x.IsRead b (later.flatMap text ++ t) ∧ AllRead (x.text.reverse ++ b) t later

theorem exists_read_of_isRead {x : Lexeme} {b t : Text} (h : x.IsRead b t) :
    ∃ c body, x.text = c :: body ∧ Segment.read b c (body ++ t) = .ok x.segment := by
  cases x with
  | char c => exact ⟨c, [], rfl, Segment.read_char h.1 h.2 _ t⟩
  | literal l => exact ⟨l.quote, l.rest, rfl, Segment.read_literal l _ t⟩
  | lineComment body => exact ⟨'/', '/' :: body, rfl, read_lineComment h.1 h.2 _⟩
  | blockComment body => exact ⟨'/', _, rfl, read_blockComment h _ t⟩
  | pattern p => exact ⟨'/', p.rest ++ p.flags, rfl, read_pattern p h.1 h.2⟩
  | division => exact ⟨'/', [], rfl, read_division h.1 h.2⟩

/-- A lexeme where it fits is read as what it is. -/
theorem Fits.isRead {x : Lexeme} {t : Text} (h : x.Fits before t) :
    x.IsRead (textBefore before) t := by
  cases x with
  | char | literal | lineComment | blockComment => exact h
  | pattern => exact ⟨h.1.mayOpen, h.2⟩
  | division => exact ⟨h.1.not_mayOpen, h.2⟩

theorem WellPlaced.allRead {lexemes : List Lexeme} (h : WellPlaced before lexemes) :
    AllRead (textBefore before) [] lexemes := by
  induction lexemes generalizing before with
  | nil => trivial
  | cons x lexemes ih =>
    obtain ⟨hfits, hlater⟩ := h
    refine ⟨?_, ih hlater⟩
    rw [List.append_nil]
    exact hfits.isRead

end Lexeme

open Lexeme (textBefore WellPlaced AllRead)

variable {lexemes before : List Lexeme}

/-- A source is cut into the lexemes that are read at its beginning, and what comes after them. -/
theorem segments_flatMap_text_append {b t : Text} (h : AllRead b t lexemes) :
    segments b (lexemes.flatMap Lexeme.text ++ t) =
      (lexemes.map Lexeme.segment ++
          (segments ((lexemes.flatMap Lexeme.text).reverse ++ b) t).1,
        (segments ((lexemes.flatMap Lexeme.text).reverse ++ b) t).2) := by
  induction lexemes generalizing b with
  | nil => rfl
  | cons x lexemes ih =>
    obtain ⟨hread, hlater⟩ := h
    obtain ⟨c, body, htext, hread⟩ := Lexeme.exists_read_of_isRead hread
    have hsegment : x.segment.text = c :: body := x.text_segment.trans htext
    have hbefore : (lexemes.flatMap Lexeme.text).reverse ++ (x.text.reverse ++ b) =
        ((x :: lexemes).flatMap Lexeme.text).reverse ++ b := by
      rw [List.flatMap_cons, List.reverse_append, List.append_assoc]
    rw [List.flatMap_cons, List.append_assoc, ← Lexeme.text_segment x,
      segments_append hsegment hread, Lexeme.text_segment, ih hlater, hbefore]
    rfl

/-- A source out of well-placed lexemes is cut into them. -/
theorem segments_flatMap_text (h : WellPlaced before lexemes) :
    segments (textBefore before) (lexemes.flatMap Lexeme.text) =
      (lexemes.map Lexeme.segment, none) := by
  have hsegments := segments_flatMap_text_append h.allRead
  rw [segments, List.append_nil, List.append_nil] at hsegments
  exact hsegments

/-- Without comments a source out of well-placed lexemes keeps them all, but for the line
comments, which go, and the block comments, which leave a space. -/
theorem withoutComments_flatMap_text (h : WellPlaced [] lexemes) :
    withoutComments (lexemes.flatMap Lexeme.text) = .ok (lexemes.flatMap Lexeme.kept) := by
  have hsegments : segments [] (lexemes.flatMap Lexeme.text) =
      (lexemes.map Lexeme.segment, none) := segments_flatMap_text h
  rw [withoutComments_of_segments hsegments, List.flatMap_map]
  simp only [Lexeme.kept_segment]

/-- The pattern `/[/']\//g`. -/
def slashPattern : PatternLiteral where
  rest := "[/']\\//".toList
  flags := ['g']
  closed :=
    have hclosed : PatternEnd true "/']\\//".toList :=
      .inner (by decide) (by decide) (by decide)
        (.inner (by decide) (by decide) (by decide) (.leave (.escape (by decide) .close)))
    .enter hclosed
  not_makesComment := by decide
  isNameChar_flags := Text.forall_mem_of_all (by decide)

/-- The literal `'//'`. -/
def slashLiteral : Literal where
  quote := '\''
  rest := "//'".toList
  isQuote_quote := isQuote_apostrophe
  closed := .char (by decide) (by decide) (by decide)
    (.char (by decide) (by decide) (by decide) .close)

/-- Slashes of every kind, next to quotes that open nothing. -/
theorem withoutComments_slashes :
    let lexemes : List Lexeme := [.char '=', .pattern slashPattern, .lineComment ['\''],
      .char '\n', .char '1', .division, .char '2', .blockComment ['"'], .literal slashLiteral]
    WellPlaced [] lexemes ∧
      lexemes.flatMap Lexeme.text = "=/[/']\\//g//'\n1/2/*\"*/'//'".toList ∧
      lexemes.flatMap Lexeme.kept = "=/[/']\\//g\n1/2 '//'".toList ∧
      withoutComments (lexemes.flatMap Lexeme.text) = .ok (lexemes.flatMap Lexeme.kept) := by
  intro lexemes
  have hplaced : WellPlaced [] lexemes := by
    refine ⟨⟨by decide, by decide⟩, ⟨?operand, ?flags⟩, ⟨by decide, ?line⟩,
      ⟨by decide, by decide⟩, ⟨by decide, by decide⟩, ⟨?operator, by decide⟩,
      ⟨by decide, by decide⟩, ?block, trivial, trivial⟩
    case operand => exact (by decide : '=' ∈ Pattern.openers)
    case flags =>
      rintro c ⟨⟩
      decide
    case line =>
      rintro c ⟨⟩
      rfl
    case operator => exact .inr (.inr ⟨by decide, by decide⟩)
    case block => exact (by decide : ¬ ['*', '/'] <:+: ['"'])
  exact ⟨hplaced, by decide, by decide, withoutComments_flatMap_text hplaced⟩

end ShapeMapper.Source
