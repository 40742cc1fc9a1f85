import ShapeMapper.Path.Specifier
import ShapeMapper.Shape.Basic

/-!
# The import block of a generated file

The imports of the generated file: one for the shapes of every declaration file, and those
which the declaration files make themselves, relocated so that they still reach what they
reached. A statement is kept once, where it first occurred.
-/

namespace ShapeMapper

/-- Where a generated file lies, and how it names others. -/
structure Site where
  /-- The directory that paths are relative to. -/
  cwd : Text
  /-- The generated file. -/
  output : Text
  /-- Whether imports leave out the extension of a source file. -/
  stripExtension : Bool := true

/-- The shapes that one declaration file contributes. -/
structure Contribution where
  file : Text
  names : List Text
  /-- The name of the default export, if it is imported as such. -/
  defaultName : Option Text := none
  deriving DecidableEq, Repr

/-- The location of a file is empty, so nothing can be imported from it. -/
inductive EmptyLocation
  | emptyLocation
  deriving DecidableEq, Repr

namespace Site

/-- The specifier by which the generated file reaches `file`. -/
def specifier (s : Site) (file : Text) : Text :=
  let specifier := Path.relative s.cwd s.output file
  if s.stripExtension then Path.withoutExtension specifier else specifier

/-- The specifier by which the generated file reaches `file`, which has to name something. -/
def specifier? (s : Site) (file : Text) : Except EmptyLocation Text :=
  if file = [] then .error .emptyLocation else .ok (s.specifier file)

/-- The bindings of an import: the default name, and the other names in braces, each once. -/
def clauses (c : Contribution) : List Text :=
  let named := c.names.eraseDups.filter fun name => some name ≠ c.defaultName
  (c.defaultName.filter (· ≠ [])).toList ++
    if named = [] then []
    else ["\x7b ".toList ++ ", ".toList.intercalate named ++ " \x7d".toList]

/-- The import of a file's shapes; there is none if it has no shape to import. -/
def entityImport (s : Site) (c : Contribution) : Except EmptyLocation (Option Text) :=
  match clauses c with
  | [] => .ok none
  | clauses => do
    let specifier ← s.specifier? c.file
    return some ("import ".toList ++ ", ".toList.intercalate clauses ++ " from '".toList ++
      specifier ++ ['\''])

/-- A text with the last occurrence of `old`, in the given quotes, replaced. -/
def replaceQuoted (quote : Char) (old new text : Text) : Option Text :=
  (Text.cutLast? (quote :: old ++ [quote]) text).map fun (before, rest) =>
    before ++ quote :: new ++ quote :: rest

/-- An import as it has to be written in the generated file. -/
def relocate (s : Site) (i : ImportStatement) : Text :=
  if !i.relative then i.text
  else
    let target := Path.relative s.cwd s.output (Path.beside i.file i.specifier)
    ((replaceQuoted '\'' i.specifier target i.text).or
      (replaceQuoted '"' i.specifier target i.text)).getD i.text

/-- The statements for the shapes of some files, up to the first file that cannot be
imported from. -/
def entityImports (s : Site) : List Contribution → List Text × Option EmptyLocation
  | [] => ([], none)
  | c :: cs =>
    match s.entityImport c with
    | .error e => ([], some e)
    | .ok statement =>
      let (statements, fault) := s.entityImports cs
      (statement.toList ++ statements, fault)

/-- The statements of one request: those for its shapes, then those of its files. -/
def statements (s : Site) (imports : List ImportStatement) (contributions : List Contribution) :
    List Text × Option EmptyLocation :=
  match s.entityImports contributions with
  | (statements, none) => (statements ++ imports.map s.relocate, none)
  | faulty => faulty

end Site

namespace ImportBlock

/-- The block with one more statement, unless it holds it already. -/
def insert (block : List Text) (statement : Text) : List Text :=
  if statement ∈ block then block else block ++ [statement]

/-- The block with some more statements. -/
def insertAll (block statements : List Text) : List Text :=
  statements.foldl insert block

end ImportBlock

end ShapeMapper
