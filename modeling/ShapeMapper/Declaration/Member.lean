import ShapeMapper.Shape.Basic
import ShapeMapper.Source.Piece

/-!
# Members of a declaration

The body of a declaration is split into members at the semicolons, commas and line ends that
stand outside brackets and literals (`splitMembers`). A line end does not end a member whose
type goes on: after an operator that wants an operand, or before one. A member that reads
`name: type` is a property, and any other is passed over (`Member.ofText`).
-/

namespace ShapeMapper.Declaration

open Source

/-! ### Splitting -/

/-- The change of the bracket depth over a piece. -/
def bracketDepth : Piece → Int
  | .char '{' | .char '(' | .char '[' | .char '<' => 1
  | .char '}' | .char ')' | .char ']' | .char '>' => -1
  | _ => 0

/-- Whether a text ends in an operator, or in the word `extends`, and so wants an operand. -/
def wantsOperand (t : Text) : Bool :=
  ["|", "&", ":", "=>", "?", ","].any (fun s => Text.endsWith s.toList t) ||
    Text.endsWith "extends".toList t && !((t.reverse.drop 7).head?.any Text.isNameChar)

/-- Whether the next character that is not blank is an operator between types. -/
def goesOn (pieces : List Piece) : Bool :=
  match (textOf pieces).dropWhile Text.isBlank with
  | c :: _ => ['|', '&', '?', ':'].contains c
  | [] => false

/-- Whether a line end after `pending` and before `pieces` ends a member. -/
def endsMember (pending : Text) (pieces : List Piece) : Bool :=
  let t := Text.strip pending
  t ≠ [] && !wantsOperand t && !goesOn pieces

/-- Whether a piece outside all brackets separates `pending` from `pieces`. -/
def separates (pending : Text) (piece : Piece) (pieces : List Piece) : Bool :=
  match piece with
  | .char ';' | .char ',' => true
  | .char '\n' => endsMember pending pieces
  | _ => false

/-- The texts between the separators, where `pending` has been read since the last one. -/
def splitFrom (pending : Text) (depth : Int) : List Piece → List Text
  | [] => [pending]
  | piece :: pieces =>
    if depth = 0 ∧ separates pending piece pieces then pending :: splitFrom [] 0 pieces
    else splitFrom (pending ++ piece.text) (depth + bracketDepth piece) pieces

/-- The members of a body, trimmed; blank ones are left out. -/
def splitMembers (pieces : List Piece) : List Text :=
  ((splitFrom [] 0 pieces).map Text.strip).filter (· ≠ [])

/-! ### Reading -/

/-- A type on one line: its words with single spaces, without the bar or ampersand it may
start with. -/
def normalizeType (t : Text) : Text :=
  match [' '].intercalate (Text.words t) with
  | '|' :: rest | '&' :: rest => Text.strip rest
  | t => t

/-- A text up to the next `quote`, and what follows that. -/
def upToQuote? (quote : Char) (t : Text) : Option (Text × Text) :=
  match t.dropWhile (· ≠ quote) with
  | _ :: rest => some (t.takeWhile (· ≠ quote), rest)
  | [] => none

/-- The name of a property, without its quotes if it has any, and what follows it. -/
def propertyName? : Text → Option (Text × Text)
  | '\'' :: t => upToQuote? '\'' t
  | '"' :: t => upToQuote? '"' t
  | t => Text.name? t

/-- The property that a text of the form `name: type` or `name?: type` declares. -/
def property? (t : Text) : Option Property := do
  let (name, t) ← propertyName? t
  let t := Text.trimStart t
  let (optional, t) :=
    match t with
    | '?' :: rest => (true, Text.trimStart rest)
    | t => (false, t)
  let t ← Text.after? [':'] t
  let type := Text.trimStart t
  if type = [] then none
  else some { name := name, type := normalizeType type, optional := optional }

/-- What follows a word and the blanks after it, of which there has to be one. -/
def afterWord? (word t : Text) : Option Text :=
  match Text.after? word t with
  | some (c :: rest) => if Text.isBlank c then some (Text.trimStart rest) else none
  | _ => none

/-- A member of a declaration. -/
inductive Member
  | property (p : Property)
  /-- A method, a signature, or anything else that is no property. -/
  | unsupported (text : Text)
  deriving DecidableEq, Repr

namespace Member

/-- Reads a trimmed member. The word `readonly` in front of a property is dropped, but it may
be a property's name itself. -/
def ofText (t : Text) : Member :=
  match ((afterWord? "readonly".toList t).bind property?).or (property? t) with
  | some p => .property p
  | none => .unsupported t

/-- The property that a member is. -/
def property? : Member → Option Property
  | property p => some p
  | unsupported _ => none

/-- The text of a member that is no property. -/
def unsupported? : Member → Option Text
  | property _ => none
  | unsupported t => some t

end Member

/-- The members of a body. -/
def members (body : Text) : Except Stuck (List Member) :=
  let cut := Cut.ofText body
  if cut.torn = [] then .ok ((splitMembers cut.pieces).map Member.ofText)
  else .error ⟨.unclosedString, cut.torn⟩

end ShapeMapper.Declaration
