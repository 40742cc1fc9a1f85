import ShapeMapper.Source.Fault
import ShapeMapper.Source.Literal

/-!
# Comments

A source is cut into segments (`segments`), and reading it without its comments
(`withoutComments`) keeps every segment but two: a line comment goes, a block comment
becomes one space.
-/

namespace ShapeMapper.Source

/-- A part of a source as far as comments are concerned. -/
inductive Segment
  | char (c : Char)
  | string (text : Text)
  | pattern (text : Text)
  /-- A comment up to the end of its line, with its two slashes. -/
  | lineComment (text : Text)
  /-- A comment between its delimiters. -/
  | blockComment (text : Text)
  deriving DecidableEq, Repr

namespace Segment

/-- A segment as it stands in the source. -/
def text : Segment → Text
  | char c => [c]
  | string t | pattern t | lineComment t | blockComment t => t

/-- What is left of a segment without comments. -/
def kept : Segment → Text
  | lineComment _ => []
  | blockComment _ => [' ']
  | s => s.text

/-- The segment that begins with `c` and goes on in `t`, given the text before it in
reverse. -/
def read (before : Text) (c : Char) (t : Text) : Except Fault Segment :=
  if isQuote c then
    match closeString? c t with
    | some (body, _) => .ok (.string (c :: body))
    | none => .error .unclosedString
  else if c = '/' ∧ t.head? = some '/' then
    .ok (.lineComment (c :: t.takeWhile (· ≠ '\n')))
  else if c = '/' ∧ t.head? = some '*' then
    match Text.cut? ['*', '/'] t.tail with
    | some (body, _) => .ok (.blockComment (c :: '*' :: body ++ ['*', '/']))
    | none => .error .unclosedComment
  else if c = '/' then
    match Pattern.read? before t with
    | some (body, _) => .ok (.pattern (c :: body))
    | none => .ok (.char c)
  else .ok (.char c)

/-- A segment is what the source has at its place. -/
theorem eq_append_of_read {before t : Text} {c : Char} {s : Segment}
    (h : read before c t = .ok s) : ∃ body rest, s.text = c :: body ∧ t = body ++ rest := by
  unfold read at h
  split at h
  · split at h
    · next body rest hc =>
      cases h
      exact ⟨body, rest, rfl, eq_append_of_closeString? hc⟩
    · simp at h
  · split at h
    · cases h
      exact ⟨_, _, rfl, List.takeWhile_append_dropWhile.symm⟩
    · split at h
      · next hstar =>
        split at h
        · next body rest hc =>
          cases h
          have := Text.eq_append_of_cut? hc
          cases t with
          | nil => simp at hstar
          | cons d t => exact ⟨'*' :: (body ++ ['*', '/']), rest, by simp [text], by simp_all⟩
        · simp at h
      · split at h
        · split at h
          · next body rest hc =>
            cases h
            exact ⟨body, rest, rfl, Pattern.eq_append_of_read? hc⟩
          · cases h
            exact ⟨[], t, rfl, rfl⟩
        · cases h
          exact ⟨[], t, rfl, rfl⟩

end Segment

/-- The segments of a source, up to the place where no segment can be read. -/
def segments (before : Text) : Text → List Segment × Option Stuck
  | [] => ([], none)
  | c :: t =>
    match Segment.read before c t with
    | .error fault => ([], some ⟨fault, c :: t⟩)
    | .ok segment =>
      let (later, stuck) :=
        segments (segment.text.reverse ++ before) (t.drop (segment.text.length - 1))
      (segment :: later, stuck)
termination_by t => t.length
decreasing_by exact Text.length_drop_lt ..

/-- A source without its comments. -/
def withoutComments (source : Text) : Except Stuck Text :=
  match segments [] source with
  | (segments, none) => .ok (segments.flatMap Segment.kept)
  | (_, some stuck) => .error stuck

end ShapeMapper.Source
