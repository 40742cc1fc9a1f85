import ShapeMapper.Path.Basic

/-!
# File trees

The files that a run sees, as a function from locations to entries. A path is followed from
the root, and every step has to start in a directory; so a path through a missing directory
leads nowhere, even if it goes up again.

* `FileTree.set`, `FileTree.insert`, `FileTree.remove`: changes at a place;
* `FileTree.locate`, `FileTree.find`: where a path leads, and what is there;
* `FileTree.readText`, `FileTree.writeText`: texts in UTF-8.
-/

namespace ShapeMapper

/-- A place in a file tree: the names on the way from the root. -/
abbrev Location := List Text

/-- What may be at a place. -/
inductive Entry
  | directory
  | file (content : ByteArray)

/-- The entries of a file system without links. -/
structure FileTree where
  get? : Location → Option Entry

/-- Why a file cannot be opened or read. -/
inductive FileFault
  | notFound
  | isADirectory
  | notADirectory
  | notUtf8
  | nameTooLong
  /-- No name holds the character with code zero. -/
  | invalidName
  deriving DecidableEq, Repr

/-- A fault in words. -/
def FileFault.message : FileFault → Text
  | notFound => "no such file or directory".toList
  | isADirectory => "is a directory".toList
  | notADirectory => "not a directory".toList
  | notUtf8 => "not a text in UTF-8".toList
  | nameTooLong => "name too long".toList
  | invalidName => "not a name".toList

/-- The location that a rooted path in normal form names. -/
def Location.ofPath (p : Text) : Location :=
  Path.reduce true (Path.segments p)

/-- A location as a path. -/
def Location.path (l : Location) : Text :=
  '/' :: Path.joined l

namespace FileTree

/-- The tree with another entry, or none, at a place. -/
def set (files : FileTree) (place : Location) (entry : Option Entry) : FileTree where
  get? l := if l = place then entry else files.get? l

@[simp] theorem get?_set_self (files : FileTree) (place : Location) (entry : Option Entry) :
    (files.set place entry).get? place = entry := by
  simp [set]

theorem get?_set_of_ne {files : FileTree} {place l : Location} {entry : Option Entry}
    (h : l ≠ place) : (files.set place entry).get? l = files.get? l := by
  simp [set, h]

/-- The tree with an entry at a place, and directories where there was nothing on the way to
it. -/
def insert (files : FileTree) (place : Location) (entry : Entry) : FileTree where
  get? l :=
    if l = place then some entry
    else if l.isPrefixOf place then some ((files.get? l).getD .directory)
    else files.get? l

/-- The tree without a place and all below it. -/
def remove (files : FileTree) (place : Location) : FileTree where
  get? l := if place.isPrefixOf l then none else files.get? l

/-- The most bytes that a name may take. -/
def maxNameLength : Nat := 255

/-- Why there is nothing at a place: a name may be of a form that no entry can have. -/
def absence (place : Location) : FileFault :=
  match place.getLast? with
  | none => .notFound
  | some name =>
    if name.contains '\x00' then .invalidName
    else if maxNameLength < (String.ofList name).utf8ByteSize then .nameTooLong
    else .notFound

/-- The place that some segments lead to from a directory. -/
def walk (files : FileTree) (start : Location) : List Text → Except FileFault Location
  | [] => .ok start
  | segment :: rest =>
    match files.get? start with
    | none => .error (absence start)
    | some (.file _) => .error .notADirectory
    | some .directory =>
      if segment = [] ∨ segment = Path.here then files.walk start rest
      else if segment = Path.up then files.walk start.dropLast rest
      else files.walk (start ++ [segment]) rest

/-- The place that a path names, as seen from the working directory. The last name on the
path need not exist. -/
def locate (files : FileTree) (cwd p : Text) : Except FileFault Location :=
  if p = [] then .error .notFound
  else files.walk [] (Path.segments (Path.append cwd p))

/-- The entry that a path leads to, with its place. -/
def find (files : FileTree) (cwd p : Text) : Except FileFault (Location × Entry) := do
  let place ← files.locate cwd p
  match files.get? place with
  | some entry => return (place, entry)
  | none => throw (absence place)

/-- Whether a path leads to anything. -/
def contains (files : FileTree) (cwd p : Text) : Bool :=
  (files.find cwd p).isOk

/-- Whether a path leads to a file. -/
def isFile (files : FileTree) (cwd p : Text) : Bool :=
  match files.find cwd p with
  | .ok (_, .file _) => true
  | _ => false

/-- The text of a file, with line feeds for all line ends. -/
def readText (files : FileTree) (cwd p : Text) : Except FileFault Text := do
  match ← files.find cwd p with
  | (_, .directory) => throw .isADirectory
  | (_, .file content) =>
    match String.fromUTF8? content with
    | some s => return Text.normalizeNewlines s.toList
    | none => throw .notUtf8

/-- The entry of a file with the given text. -/
def textEntry (t : Text) : Entry :=
  .file (String.ofList t).toUTF8

/-- The tree after writing a text to a file, which is made if its directory exists and its
name is one that an entry can have. -/
def writeText (files : FileTree) (cwd p t : Text) : Except FileFault FileTree := do
  let place ← files.locate cwd p
  match files.get? place, absence place with
  | some .directory, _ => throw .isADirectory
  | some (.file _), _ | none, .notFound => return files.set place (some (textEntry t))
  | none, fault => throw fault

end FileTree

end ShapeMapper
