import ShapeMapper.Declaration.Member
import ShapeMapper.Path.Specifier

/-!
# Statement heads

How the statements begin that matter in a declaration file: an import, which is read as a
whole, the head of a declaration, the way from it to the body, and the export lists.
-/

namespace ShapeMapper.Declaration

open Source

/-! ### Imports -/

/-- The characters of an import between `import` and the specifier. -/
def isClauseChar (c : Char) : Bool :=
  Text.isNameChar c || c = '*' || c = '\x7b' || c = '\x7d' || c = ',' || Text.isBlank c

/-- Whether a text is a clause with the word `from` after it and blanks on all sides. -/
def isClause (t : Text) : Bool :=
  let r := t.reverse.dropWhile Text.isBlank
  match Text.after? "morf".toList r with
  | some clause =>
    r.length < t.length && 3 ≤ clause.length && clause.head?.any Text.isBlank &&
      t.head?.any Text.isBlank
  | none => false

/-- The import at the head of a text, and what follows its closing quote. -/
def import? (file t : Text) : Option (ImportStatement × Text) := do
  let t ← Text.after? "import".toList t
  let clause := t.takeWhile isClauseChar
  let quote :: t := t.dropWhile isClauseChar | none
  let isEnd c := c = '\'' || c = '"' || c = '\n'
  let specifier := t.takeWhile (!isEnd ·)
  let closing :: t := t.dropWhile (!isEnd ·) | none
  if (quote = '\'' ∨ quote = '"') ∧ isClause clause ∧ specifier ≠ [] ∧ closing = quote then
    some ({
      file := file
      text := "import".toList ++ clause ++ quote :: specifier ++ [quote]
      specifier := specifier
      relative := Path.isRelative specifier }, t)
  else none

/-! ### Declarations -/

/-- The two forms of a declaration. -/
inductive Form
  | interface
  | alias
  deriving DecidableEq, Repr

/-- What stands before the type parameters of a declaration. -/
structure Header where
  exported : Bool
  isDefault : Bool
  form : Form
  name : Text
  deriving DecidableEq, Repr

/-- A text after an optional word, and whether the word was there. -/
def optionalWord (word t : Text) : Bool × Text :=
  match afterWord? word t with
  | some rest => (true, rest)
  | none => (false, t)

/-- The head of a declaration, and what follows its name. -/
def header? (t : Text) : Option (Header × Text) :=
  let (exported, t) := optionalWord "export".toList t
  let (isDefault, t) := if exported then optionalWord "default".toList t else (false, t)
  let (_, t) := optionalWord "declare".toList t
  let named (form : Form) (t : Text) : Option (Header × Text) :=
    (Text.name? t).map fun (name, rest) => ({ exported, isDefault, form, name }, rest)
  ((afterWord? "interface".toList t).bind (named .interface)).or
    ((afterWord? "type".toList t).bind (named .alias))

/-! ### From the head to the body -/

/-- What follows the bracket that closes a type parameter list, with `depth` brackets open
inside it. -/
def closeTypeParameters (torn : Text) (depth : Nat) : List Piece → Except Stuck Text
  | [] => .error (Cut.endedBy torn ⟨.unclosedTypeParameters, []⟩)
  | .char '>' :: pieces =>
    match depth with
    | 0 => .ok (textOf pieces ++ torn)
    | depth + 1 => closeTypeParameters torn depth pieces
  | piece :: pieces =>
    closeTypeParameters torn (if piece = .char '<' then depth + 1 else depth) pieces

/-- A text after the type parameter list it may begin with, and the blanks before that. -/
def afterTypeParameters (t : Text) : Except Stuck Text :=
  match Text.trimStart t with
  | '<' :: t =>
    let cut := Cut.ofText t
    closeTypeParameters cut.torn 0 cut.pieces
  | t => .ok t

/-- What follows the brace that opens the body of an interface: the first one outside angle
brackets. A semicolon there ends the declaration without a body. -/
def openBody (torn : Text) (angle : Int) : List Piece → Except Stuck Text
  | [] => .error (Cut.endedBy torn ⟨.missingBody, []⟩)
  | .char '<' :: pieces => openBody torn (angle + 1) pieces
  | .char '>' :: pieces => openBody torn (angle - 1) pieces
  | .char ';' :: pieces =>
    if angle = 0 then .error ⟨.missingBody, ';' :: textOf pieces ++ torn⟩
    else openBody torn angle pieces
  | .char '{' :: pieces =>
    if angle = 0 then .ok (textOf pieces ++ torn)
    else
      match _h : Piece.closing? 0 pieces with
      | some (_, rest) => openBody torn angle rest
      | none =>
        .error (Cut.endedBy torn ⟨.unbalancedBraces, '{' :: textOf pieces ++ torn⟩)
  | _ :: pieces => openBody torn angle pieces
termination_by pieces => pieces.length
decreasing_by
  all_goals simp
  rw [Piece.eq_append_of_closing? _h]
  simp
  omega

/-- What follows the brace that opens the body of an alias, which stands directly after the
equals sign; otherwise the text from which to read on. -/
def openAlias (t : Text) : Except Text Text :=
  match Text.trimStart t with
  | '=' :: t =>
    match Text.trimStart t with
    | '{' :: t => .ok t
    | t => .error t
  | t => .error t

/-! ### Export lists -/

/-- One entry of an export list. -/
structure ExportEntry where
  name : Text
  /-- Whether the name is exported as the default of the file. -/
  asDefault : Bool
  deriving DecidableEq, Repr

/-- The entry that a part of an export list is, unless it is blank. -/
def ExportEntry.ofText? (t : Text) : Option ExportEntry :=
  let (localName, exportedAs) := (Text.cut? " as ".toList t).getD (t, [])
  let name := Text.strip localName
  let name := (Text.after? "type ".toList name).elim name Text.strip
  if name = [] then none
  else some { name := name, asDefault := Text.strip exportedAs = "default".toList }

/-- Whether a text begins with the word `from`, after blanks. -/
def beginsWithFrom (t : Text) : Bool :=
  match Text.after? "from".toList (Text.trimStart t) with
  | some rest => !(rest.head?.any Text.isWordChar)
  | none => false

/-- The text between the braces of the export list at the head of a text. A list that is
exported from another file is none. -/
def exportList? (t : Text) : Option Text := do
  let t ← afterWord? "export".toList t
  let (_, t) := optionalWord "type".toList t
  let t ← Text.after? ['{'] t
  let isBrace c := c = '\x7b' || c = '\x7d'
  let '}' :: rest := t.dropWhile (!isBrace ·) | none
  if beginsWithFrom rest then none else some (t.takeWhile (!isBrace ·))

/-- The entries of all export lists in a text, wherever they stand. -/
def exportEntries : Text → List ExportEntry
  | [] => []
  | c :: t =>
    (match exportList? (c :: t) with
      | some names => (names.splitOn ',').filterMap ExportEntry.ofText?
      | none => []) ++ exportEntries t

end ShapeMapper.Declaration
