import ShapeMapper.Declaration.Document
import ShapeMapper.Failure

/-!
# Sessions

A session remembers the documents it has read, by the location of their file, and the events
so far; both stay when a step fails. A document is read again only if the session is told to
do without its memory.
-/

namespace ShapeMapper

/-- What a session remembers. -/
structure Session where
  /-- The documents read so far, by the location of their file. -/
  documents : List (Location × Document) := []
  events : List Event := []

/-- A step of a session, which may fail. -/
abbrev Run := EStateM Failure Session

/-- The files that a run sees and the directory it works in. -/
structure Workspace where
  files : FileTree
  cwd : Text

/-- How documents are read. -/
structure Lookup where
  cache : Bool := true
  visibility : Visibility := .exportedOnly
  deriving DecidableEq, Repr

namespace Workspace

/-- The location of a file, however it is named. -/
def location (w : Workspace) (file : Text) : Location :=
  Location.ofPath (Path.append w.cwd file)

/-- The document of a file, as it is now, with the events on the way. -/
def document (w : Workspace) (visibility : Visibility) (file : Text) :
    Except Failure Document × List Event :=
  match w.files.readText w.cwd (Path.tidy file) with
  | .error fault => (.error (.file fault), [])
  | .ok source =>
    let (document, events) := Document.ofSource visibility file source
    (document.mapError .unreadable, events)

end Workspace

namespace Session

/-- The document remembered for a location. -/
def document? (s : Session) (l : Location) : Option Document :=
  (Keyed.find? Prod.fst l s.documents).map Prod.snd

/-- Whether a document is remembered for a file. -/
def knows (s : Session) (w : Workspace) (file : Text) : Bool :=
  (s.document? (w.location file)).isSome

/-- The session with some more events. -/
def report (events : List Event) (s : Session) : Session :=
  { s with events := s.events ++ events }

/-- The session with one more document. -/
def remember (l : Location) (d : Document) (s : Session) : Session :=
  { s with documents := Keyed.put Prod.fst (l, d) s.documents }

end Session

namespace Run

/-- Reports events. -/
def report (events : List Event) : Run Unit :=
  modify (Session.report events)

/-- Goes on with a value, or fails. -/
def ofExcept {α : Type} : Except Failure α → Run α
  | .ok a => pure a
  | .error e => throw e

/-- The document of a file, from memory if the session may use it. -/
def document (w : Workspace) (lookup : Lookup) (file : Text) : Run Document := do
  let place := w.location file
  let session ← get
  match if lookup.cache then session.document? place else none with
  | some d =>
    report [.documentReused place.path]
    return d
  | none =>
    let (result, events) := w.document lookup.visibility file
    report events
    let d ← ofExcept result
    report [.documentRead d.entities.length d.imports.length place.path]
    if lookup.cache then modify (Session.remember place d)
    return d

end Run

end ShapeMapper
