import ShapeMapper.Text.Basic

/-!
# Unreadable sources

Why a declaration file cannot be read. A reader that gets stuck gives the fault and the rest
of the text from the place it concerns (`Stuck`); the report (`Unreadable`) names the file
and counts the characters before that place.
-/

namespace ShapeMapper.Source

/-- What is wrong with a source. -/
inductive Fault
  | unclosedString
  | unclosedComment
  | unbalancedBraces
  | missingBody
  | unclosedTypeParameters
  deriving DecidableEq, Repr

/-- A fault, and the text from its place on. -/
structure Stuck where
  fault : Fault
  rest : Text
  deriving DecidableEq, Repr

/-- A fault in a file, and the number of characters before its place. -/
structure Unreadable where
  file : Text
  fault : Fault
  offset : Nat
  deriving DecidableEq, Repr

/-- The report of a reader that got stuck in `whole`. -/
def Stuck.report (file whole : Text) (s : Stuck) : Unreadable where
  file := file
  fault := s.fault
  offset := whole.length - s.rest.length

namespace Unreadable

/-- The fault in words. -/
def detail (e : Unreadable) : Text :=
  match e.fault with
  | .unclosedString => "unterminated string literal at offset ".toList ++ Text.ofNat e.offset
  | .unclosedComment => "unterminated block comment at offset ".toList ++ Text.ofNat e.offset
  | .unbalancedBraces => "unbalanced braces starting at offset ".toList ++ Text.ofNat e.offset
  | .missingBody =>
    "declaration at offset ".toList ++ Text.ofNat e.offset ++ " has no body".toList
  | .unclosedTypeParameters => "unterminated type parameter list".toList

/-- The report as it is shown. -/
def message (e : Unreadable) : Text :=
  "Cannot extract schemas from '".toList ++ e.file ++ "': ".toList ++ e.detail

end Unreadable

end ShapeMapper.Source
