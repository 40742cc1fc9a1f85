import ShapeMapper.Proofs.Declaration.Word
import ShapeMapper.Proofs.Source.Prolonged

/-!
# Comments as blanks

A block comment leaves a space, so it should be worth one. What stands before a place matters only
for whether a slash opens a pattern there, and of that only the nearest character that is no blank
and the word that ends with it (`Pattern.mayOpen_append`). A comment hides it: a source goes on in
the same way after a comment as after a space unless a pattern comes next
(`withoutComments_comment`), which behind a comment is not taken for one
(`withoutComments_hiddenPattern`).
-/

namespace ShapeMapper.Source

open Text (isBlank isNameChar trimStart)

/-! ### What stands before a slash -/

namespace Pattern

variable {b t x y : Text}

theorem mayOpen_blank_append (hb : ∀ c ∈ b, isBlank c = true) (x : Text) :
    mayOpen (b ++ x) = mayOpen x := by
  rw [mayOpen, mayOpen, List.dropWhile_append_of_pos hb]

/-- Up to the nearest character that is no blank, and the word that ends with it, it does not matter
what stands before a slash. -/
theorem mayOpen_append (ht : ∃ c ∈ t, isBlank c = false)
    (hx : ∀ c ∈ x.head?, isNameChar c = false) : mayOpen (t ++ x) = mayOpen t := by
  have hdrop : (t ++ x).dropWhile isBlank = t.dropWhile isBlank ++ x :=
    Text.trimStart_append_of_exists ht x
  have hne : t.dropWhile isBlank ≠ [] := by
    intro hnil
    obtain ⟨c, hc, hblank⟩ := ht
    rw [List.dropWhile_eq_nil_iff.1 hnil c hc] at hblank
    cases hblank
  rw [mayOpen, mayOpen, hdrop]
  obtain ⟨c, u, hu⟩ := List.exists_cons_of_ne_nil hne
  rw [hu, List.cons_append]
  simp only [← List.cons_append, (Text.while_append hx (c :: u)).1]

/-- After a slash none opens a pattern. -/
theorem mayOpen_slash_cons (t : Text) : mayOpen ('/' :: t) = false := by
  have hdrop : ('/' :: t).dropWhile isBlank = '/' :: t :=
    List.dropWhile_cons_of_neg (by decide)
  have hword : ('/' :: t).takeWhile isNameChar = [] := List.takeWhile_cons_of_neg (by decide)
  rw [mayOpen, hdrop]
  simp only [hword]
  decide

theorem read?_congr (h : mayOpen x = mayOpen y) (t : Text) : read? x t = read? y t := by
  rw [read?, read?, h]

end Pattern

/-- Whether a text, the blanks at its beginning aside, begins with a pattern if it comes after
another one, which is given in reverse. -/
def BeginsWithPattern (b t : Text) : Prop :=
  ∃ u parts, trimStart t = '/' :: u ∧ ¬ MakesComment u ∧ Pattern.read? b u = some parts

variable {x y : Text}

/-- Only a slash that makes no comment is read as the text before it lets it. -/
theorem Segment.read_congr {c : Char} {t : Text}
    (h : c = '/' → ¬ MakesComment t → Pattern.read? x t = Pattern.read? y t) :
    Segment.read x c t = Segment.read y c t := by
  by_cases hslash : c = '/' ∧ ¬ MakesComment t
  · obtain ⟨rfl, ht⟩ := hslash
    rw [Lexeme.read_slash ht, Lexeme.read_slash ht, h rfl ht]
  · unfold Segment.read
    split
    · rfl
    split
    · rfl
    next hline =>
    split
    · rfl
    next hblock =>
    split
    · next hc =>
      exact absurd ⟨hc, fun hcomment => hcomment.elim (fun h => hline ⟨hc, h⟩)
        fun h => hblock ⟨hc, h⟩⟩ hslash
    · rfl

/-- What stands before a source matters only for the patterns in it. -/
theorem segments_congr (h : ∀ t, Pattern.mayOpen (t ++ x) = Pattern.mayOpen (t ++ y)) (t : Text) :
    segments x t = segments y t := by
  have hread (c : Char) (t : Text) : Segment.read x c t = Segment.read y c t :=
    Segment.read_congr fun _ _ => Pattern.read?_congr (h []) t
  fun_induction segments x t generalizing y with
  | case1 => rw [segments]
  | case2 x c t fault hfault =>
    rw [segments, ← hread, hfault]
  | case3 x c t segment hsegment later stuck hlater ih =>
    have hlonger (t : Text) : Pattern.mayOpen (t ++ (segment.text.reverse ++ x)) =
        Pattern.mayOpen (t ++ (segment.text.reverse ++ y)) := by
      rw [← List.append_assoc, ← List.append_assoc]
      exact h _
    have hrest := ih hlonger fun c t => Segment.read_congr fun _ _ =>
      Pattern.read?_congr (hlonger []) t
    rw [segments, ← hread, hsegment]
    simp only [← hrest, hlater]

/-- Behind a character that is no blank it does not matter any more what stood before it. -/
theorem segments_eq_of_segmentRead {c : Char} (hblank : isBlank c = false)
    (hx : ∀ c ∈ x.head?, isNameChar c = false) (hy : ∀ c ∈ y.head?, isNameChar c = false)
    {t : Text} (hread : Segment.read x c t = Segment.read y c t) :
    segments x (c :: t) = segments y (c :: t) := by
  rw [segments, segments, hread]
  cases hsegment : Segment.read y c t with
  | error fault => rfl
  | ok segment =>
    obtain ⟨body, rest, htext, -⟩ := Segment.eq_append_of_read hsegment
    have hopen (v : Text) : Pattern.mayOpen (v ++ (segment.text.reverse ++ x)) =
        Pattern.mayOpen (v ++ (segment.text.reverse ++ y)) := by
      have hsolid : ∃ d ∈ v ++ segment.text.reverse, isBlank d = false :=
        ⟨c, by simp [htext], hblank⟩
      rw [← List.append_assoc, ← List.append_assoc, Pattern.mayOpen_append hsolid hx,
        Pattern.mayOpen_append hsolid hy]
    simp only [segments_congr hopen]

/-- A source is read in the same way after two texts that end in no name, unless the first character
that is no blank is a slash that only one of them lets open a pattern. -/
theorem segments_eq_of_read? (hx : ∀ c ∈ x.head?, isNameChar c = false)
    (hy : ∀ c ∈ y.head?, isNameChar c = false) {t : Text}
    (h : ∀ u, trimStart t = '/' :: u → ¬ MakesComment u →
      Pattern.read? x u = Pattern.read? y u) : segments x t = segments y t := by
  induction t generalizing x y with
  | nil => rw [segments, segments]
  | cons c t ih =>
    cases hblank : isBlank c with
    | true =>
      have hchar (z : Text) : segments z (c :: t) =
          (.char c :: (segments (c :: z) t).1, (segments (c :: z) t).2) :=
        segments_append (s := .char c) rfl
          (Segment.read_char (isPlain_of_isBlank hblank).isQuote_eq
            (ne_of_isBlank hblank (by decide)) z t)
      have hname (z : Text) : ∀ d ∈ (c :: z).head?, isNameChar d = false := by
        intro d hd
        obtain rfl : c = d := Option.some.inj hd
        exact Text.not_isNameChar_of_isBlank hblank
      have hc : ∀ d ∈ [c], isBlank d = true := List.forall_mem_singleton.2 hblank
      have hpattern (z u : Text) : Pattern.read? (c :: z) u = Pattern.read? z u :=
        Pattern.read?_congr (Pattern.mayOpen_blank_append hc z) u
      have hlater : segments (c :: x) t = segments (c :: y) t := by
        refine ih (hname x) (hname y) fun u hu hcomment => ?_
        rw [hpattern, hpattern]
        refine h u ?_ hcomment
        rw [← hu]
        exact Text.trimStart_append hc t
      rw [hchar, hchar, hlater]
    | false =>
      refine segments_eq_of_segmentRead hblank hx hy (Segment.read_congr fun hslash hcomment => ?_)
      refine h t ?_ hcomment
      rw [← hslash]
      exact Text.trimStart_eq_self fun d hd => Option.some.inj hd ▸ hblank

/-! ### Comments -/

namespace Lexeme

/-- Whether a comment right after a lexeme would become a part of it. -/
def absorbs : Lexeme → Bool
  | lineComment _ | division => true
  | _ => false

theorem text_ne_nil (x : Lexeme) : x.text ≠ [] := by
  cases x <;> exact List.cons_ne_nil _ _

/-- Only the first character after a lexeme matters for it. -/
theorem IsRead.of_head? {x : Lexeme} {b t u : Text} (h : x.IsRead b t) (ht : u.head? = t.head?) :
    x.IsRead b u := by
  cases x with
  | char | literal | blockComment => exact h
  | lineComment | pattern =>
    refine ⟨h.1, ?_⟩
    rw [ht]
    exact h.2
  | division =>
    refine ⟨h.1, ?_⟩
    rw [MakesComment, ht]
    exact h.2

theorem AllRead.append {k l : List Lexeme} {b t : Text} (hk : AllRead b (l.flatMap text ++ t) k)
    (hl : AllRead ((k.flatMap text).reverse ++ b) t l) : AllRead b t (k ++ l) := by
  induction k generalizing b with
  | nil => exact hl
  | cons x k ih =>
    obtain ⟨hread, hlater⟩ := hk
    rw [List.flatMap_cons, List.reverse_append, List.append_assoc] at hl
    refine ⟨?_, ih hlater hl⟩
    show x.IsRead b ((k ++ l).flatMap text ++ t)
    rwa [List.flatMap_append, List.append_assoc]

/-- What is read by itself is read in front of other text, if that continues no name and the last
lexeme does not absorb it. -/
theorem AllRead.prolong {lexemes : List Lexeme} {b t : Text} (h : AllRead b [] lexemes)
    (hlast : ∀ x ∈ lexemes.getLast?, x.absorbs = false)
    (ht : ∀ c ∈ t.head?, isNameChar c = false) : AllRead b t lexemes := by
  induction lexemes generalizing b with
  | nil => trivial
  | cons x lexemes ih =>
    obtain ⟨hread, hlater⟩ := h
    cases lexemes with
    | nil =>
      have hx : x.absorbs = false := hlast x rfl
      refine ⟨?_, trivial⟩
      cases x with
      | char | literal | blockComment => exact hread
      | pattern => exact ⟨hread.1, ht⟩
      | lineComment | division => cases hx
    | cons y lexemes =>
      refine ⟨hread.of_head? ?_, ih hlater hlast⟩
      rw [List.flatMap_cons, List.append_assoc, List.append_assoc,
        List.head?_append_of_ne_nil _ y.text_ne_nil, List.head?_append_of_ne_nil _ y.text_ne_nil]

end Lexeme

open Lexeme (AllRead)

variable {lexemes : List Lexeme} {body rest t : Text}

theorem withoutComments_flatMap_text_append (h : AllRead [] t lexemes) :
    withoutComments (lexemes.flatMap Lexeme.text ++ t) =
      match segments (lexemes.flatMap Lexeme.text).reverse t with
      | (later, none) => .ok (lexemes.flatMap Lexeme.kept ++ later.flatMap Segment.kept)
      | (_, some stuck) => .error stuck := by
  have hkept : (lexemes.map Lexeme.segment).flatMap Segment.kept =
      lexemes.flatMap Lexeme.kept := by
    rw [List.flatMap_map]
    simp only [Lexeme.kept_segment]
  rw [withoutComments, segments_flatMap_text_append h, List.append_nil]
  obtain ⟨later, stuck⟩ := segments (lexemes.flatMap Lexeme.text).reverse t
  cases stuck with
  | none => simp only [List.flatMap_append, hkept]
  | some stuck => rfl

/-- A comment and a space let the same source follow, unless it begins with a pattern. -/
theorem segments_blockComment {b : Text}
    (h : ∀ u, trimStart rest = '/' :: u → ¬ MakesComment u → Pattern.read? b u = none) :
    segments ((Lexeme.blockComment body).text.reverse ++ b) rest =
      segments ((Lexeme.char ' ').text.reverse ++ b) rest := by
  have hreverse : (Lexeme.blockComment body).text.reverse ++ b =
      '/' :: '*' :: (body.reverse ++ '*' :: '/' :: b) := by simp [Lexeme.text]
  rw [hreverse]
  refine segments_eq_of_read? ?_ ?_ fun u hu hnot => ?_
  · exact fun c hc => Option.some.inj hc ▸ by decide
  · exact fun c hc => Option.some.inj hc ▸ by decide
  · have hspaced : Pattern.read? ((Lexeme.char ' ').text.reverse ++ b) u = Pattern.read? b u :=
      Pattern.read?_congr (Pattern.mayOpen_blank_append Text.isBlank_of_mem_space b) u
    rw [hspaced, h u hu hnot, Pattern.read?, Pattern.mayOpen_slash_cons]
    rfl

/-- A source in which one more lexeme stands between some others and the rest. -/
theorem withoutComments_flatMap_text_cons (h : AllRead [] [] lexemes)
    (hlast : ∀ x ∈ lexemes.getLast?, x.absorbs = false) (z : Lexeme)
    (hz : ∀ b, z.IsRead b rest) (hhead : ∀ c ∈ (z.text ++ rest).head?, isNameChar c = false) :
    withoutComments (lexemes.flatMap Lexeme.text ++ (z.text ++ rest)) =
      match segments (z.text.reverse ++ (lexemes.flatMap Lexeme.text).reverse) rest with
      | (later, none) =>
        .ok (lexemes.flatMap Lexeme.kept ++ (z.kept ++ later.flatMap Segment.kept))
      | (_, some stuck) => .error stuck := by
  have hlexemes : AllRead [] ([z].flatMap Lexeme.text ++ rest) lexemes := by
    rw [List.flatMap_singleton]
    exact h.prolong hlast hhead
  have hread : AllRead [] rest (lexemes ++ [z]) := hlexemes.append ⟨hz _, trivial⟩
  have htext := withoutComments_flatMap_text_append hread
  simp only [List.flatMap_append, List.flatMap_singleton, List.reverse_append,
    List.append_assoc] at htext
  exact htext

/-- A block comment is worth a space: with either of them behind some lexemes a source comes out
the same, or reading it gets stuck in the same place. Excepted is a pattern behind the comment. -/
theorem withoutComments_comment (h : AllRead [] [] lexemes)
    (hlast : ∀ x ∈ lexemes.getLast?, x.absorbs = false) (hbody : ¬ ['*', '/'] <:+: body)
    (hrest : ¬ BeginsWithPattern (lexemes.flatMap Lexeme.text).reverse rest) :
    withoutComments (lexemes.flatMap Lexeme.text ++ '/' :: '*' :: (body ++ '*' :: '/' :: rest)) =
      withoutComments (lexemes.flatMap Lexeme.text ++ ' ' :: rest) := by
  have hread (b : Text) : (Lexeme.blockComment body).IsRead b rest := hbody
  have hread' (b : Text) : (Lexeme.char ' ').IsRead b rest := ⟨by decide, by decide⟩
  have hcomment := withoutComments_flatMap_text_cons h hlast (.blockComment body) hread
    fun c hc => by
      obtain rfl : '/' = c := Option.some.inj hc
      decide
  have hspace := withoutComments_flatMap_text_cons h hlast (.char ' ') hread' fun c hc => by
    obtain rfl : ' ' = c := Option.some.inj hc
    decide
  have hnone : ∀ u, trimStart rest = '/' :: u → ¬ MakesComment u →
      Pattern.read? (lexemes.flatMap Lexeme.text).reverse u = none := by
    intro u hu hnot
    rw [Option.eq_none_iff_forall_ne_some]
    exact fun parts hparts => hrest ⟨u, parts, hu, hnot, hparts⟩
  have htext : (Lexeme.blockComment body).text ++ rest =
      '/' :: '*' :: (body ++ '*' :: '/' :: rest) := by simp [Lexeme.text]
  rw [segments_blockComment hnone, htext] at hcomment
  exact hcomment.trans hspace.symm

/-- A comment that hides a quote, behind a pattern that hides another one and before a division. -/
theorem withoutComments_comment_division :
    let lexemes : List Lexeme := [.char '=', .pattern slashPattern]
    AllRead [] [] lexemes ∧ (∀ x ∈ lexemes.getLast?, x.absorbs = false) ∧
      ¬ ['*', '/'] <:+: ['\''] ∧
      ¬ BeginsWithPattern (lexemes.flatMap Lexeme.text).reverse " / '/'".toList ∧
      withoutComments "=/[/']\\//g/*'*/ / '/'".toList =
        withoutComments "=/[/']\\//g  / '/'".toList := by
  intro lexemes
  have hread : AllRead [] [] lexemes :=
    ⟨⟨by decide, by decide⟩, ⟨by decide, fun c hc => by cases hc⟩, trivial⟩
  have hlast : ∀ x ∈ lexemes.getLast?, x.absorbs = false := by
    rintro x ⟨⟩
    rfl
  have hbody : ¬ ['*', '/'] <:+: ['\''] := by decide
  have hoperator : Pattern.mayOpen (lexemes.flatMap Lexeme.text).reverse = false := by decide
  have hrest : ¬ BeginsWithPattern (lexemes.flatMap Lexeme.text).reverse " / '/'".toList := by
    rintro ⟨u, parts, -, -, hpattern⟩
    rw [Pattern.read?, hoperator] at hpattern
    cases hpattern
  exact ⟨hread, hlast, hbody, hrest, withoutComments_comment hread hlast hbody hrest⟩

/-- A pattern behind a comment is read as a division, so that the quote in it opens a literal. -/
theorem withoutComments_hiddenPattern :
    AllRead [] [] [.char '='] ∧ (∀ x ∈ [Lexeme.char '='].getLast?, x.absorbs = false) ∧
      ¬ ['*', '/'] <:+: [] ∧
      withoutComments "=/**//'/".toList = .error ⟨.unclosedString, "'/".toList⟩ ∧
      withoutComments "= /'/".toList = .ok "= /'/".toList := by
  have hread : AllRead [] [] [.char '='] := ⟨⟨by decide, by decide⟩, trivial⟩
  have hlast : ∀ x ∈ [Lexeme.char '='].getLast?, x.absorbs = false := by
    rintro x ⟨⟩
    rfl
  exact ⟨hread, hlast, by decide, by decide +kernel, by decide +kernel⟩

end ShapeMapper.Source
