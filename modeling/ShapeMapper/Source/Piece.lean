import ShapeMapper.Source.Fault
import ShapeMapper.Source.Literal

/-!
# Pieces of a source

Brackets are counted over pieces: a string literal and an arrow `=>` are one piece each, so
that nothing inside them counts. A text is the sequence of its pieces up to the literal that
is never closed, if there is one (`Cut`).

* `Cut.ofText`: the pieces of a text;
* `Piece.closing?`: the matching brace;
* `enclosed`: a text in braces.
-/

namespace ShapeMapper.Source

/-- A part of a source as far as brackets are concerned. -/
inductive Piece
  | char (c : Char)
  /-- The two characters `=>`, which close no bracket. -/
  | arrow
  /-- A string literal with its quotes. -/
  | string (text : Text)
  deriving DecidableEq, Repr

namespace Piece

/-- A piece as it stands in the source. -/
def text : Piece → Text
  | char c => [c]
  | arrow => ['=', '>']
  | string t => t

/-- The piece that begins with `c` and goes on in `t`; none if it is a literal that is never
closed. -/
def read? (c : Char) (t : Text) : Option Piece :=
  if isQuote c then (closeString? c t).map fun (body, _) => .string (c :: body)
  else if c = '=' ∧ t.head? = some '>' then some .arrow
  else some (.char c)

/-- A piece is what the text has at its place. -/
theorem eq_append_of_read? {c : Char} {t : Text} {p : Piece} (h : read? c t = some p) :
    ∃ body rest, p.text = c :: body ∧ t = body ++ rest := by
  unfold read? at h
  split at h
  · obtain ⟨⟨body, rest⟩, hc, rfl⟩ := Option.map_eq_some_iff.1 h
    exact ⟨body, rest, rfl, eq_append_of_closeString? hc⟩
  · split at h
    · next hc =>
      cases h
      cases t with
      | nil => simp at hc
      | cons d t =>
        simp at hc
        exact ⟨['>'], t, by simp [text, hc], by simp [hc]⟩
    · cases h
      exact ⟨[], t, rfl, rfl⟩

/-- The pieces before and after the brace that closes an open one, with `depth` braces open
inside it. -/
def closing? (depth : Nat) : List Piece → Option (List Piece × List Piece)
  | [] => none
  | .char '}' :: pieces =>
    match depth with
    | 0 => some ([], pieces)
    | depth + 1 => (closing? depth pieces).map fun (body, rest) => (.char '}' :: body, rest)
  | piece :: pieces =>
    (closing? (if piece = .char '{' then depth + 1 else depth) pieces).map
      fun (body, rest) => (piece :: body, rest)

theorem eq_append_of_closing? {depth : Nat} {pieces body rest : List Piece}
    (h : closing? depth pieces = some (body, rest)) :
    pieces = body ++ .char '}' :: rest := by
  fun_induction closing? depth pieces generalizing body <;>
    grind [Option.map_eq_some_iff]

end Piece

/-- The text of a sequence of pieces. -/
def textOf (pieces : List Piece) : Text :=
  pieces.flatMap Piece.text

/-- A text cut into pieces. -/
structure Cut where
  pieces : List Piece := []
  /-- The text from the literal on that is never closed; empty if there is none. -/
  torn : Text := []
  deriving DecidableEq, Repr

namespace Cut

/-- The pieces of a text. -/
def ofText : Text → Cut
  | [] => {}
  | c :: t =>
    match Piece.read? c t with
    | none => { torn := c :: t }
    | some piece =>
      let later := ofText (t.drop (piece.text.length - 1))
      { later with pieces := piece :: later.pieces }
termination_by t => t.length
decreasing_by exact Text.length_drop_lt ..

/-- Nothing of a text is lost: its pieces and the torn rest make it up. -/
theorem textOf_ofText (t : Text) : textOf (ofText t).pieces ++ (ofText t).torn = t := by
  fun_induction ofText t with
  | case1 => simp [textOf]
  | case2 => simp [textOf]
  | case3 c t p h later ih =>
    obtain ⟨body, rest, hs, rfl⟩ := Piece.eq_append_of_read? h
    simp [hs, textOf, later] at ih ⊢
    exact ih

/-- What to report if the pieces ended too early: the literal that is never closed, if there
is one, otherwise the given fault. -/
def endedBy (torn : Text) (stuck : Stuck) : Stuck :=
  if torn = [] then stuck else ⟨.unclosedString, torn⟩

end Cut

/-- The text between an open brace, after which `t` begins, and the brace that closes it,
with what follows that brace. -/
def enclosed (t : Text) : Except Stuck (Text × Text) :=
  let cut := Cut.ofText t
  match Piece.closing? 0 cut.pieces with
  | some (body, rest) => .ok (textOf body, textOf rest ++ cut.torn)
  | none => .error (Cut.endedBy cut.torn ⟨.unbalancedBraces, '{' :: t⟩)

end ShapeMapper.Source
