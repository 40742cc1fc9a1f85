import ShapeMapper.Artifact
import ShapeMapper.ImportBlock
import ShapeMapper.Session
import ShapeMapper.Settings

/-!
# Generating mappers

What a run makes of its requests: it reads them, builds the artifact request by request and
renders it.

* `Request.load`: the requests of a configuration file;
* `Run.build`: the artifact of some requests;
* `Run.render`: the text of an artifact.
-/

namespace ShapeMapper

/-- The template that a path names; the bundled one if there is none. -/
structure TemplateChoice where
  name : Text
  path : Option Text
  deriving DecidableEq, Repr

namespace TemplateChoice

/-- The name of a template is the last segment of its path. -/
def ofPath (path : Option Text) : TemplateChoice :=
  match path with
  | none => { name := Template.Bundled.name, path := none }
  | some p =>
    let p := Path.tidy p
    { name := if p = Path.here then [] else Path.fileName p, path := some p }

/-- The text of an artifact by the chosen template. A directory is no template. -/
def render (w : Workspace) (choice : TemplateChoice) (a : Artifact) : Except Failure Text :=
  match choice.path with
  | none => a.renderBundled.mapError .rendering
  | some p =>
    if w.files.isFile w.cwd p then do
      let source ← (w.files.readText w.cwd p).mapError .file
      (a.render source).mapError .rendering
    else .error (.rendering (.use (.noTemplate choice.name)))

end TemplateChoice

namespace Settings

/-- How documents are read under some settings. -/
def lookup (s : Settings) : Lookup :=
  { cache := s.cache, visibility := s.visibility }

/-- Where the generated file lies under some settings. -/
def site (s : Settings) (w : Workspace) (output : Text) : Site :=
  { cwd := w.cwd, output := output, stripExtension := s.stripExtension }

end Settings

/-- What a document contributes to the imports under the name of its file. -/
def Document.contribution (d : Document) (file : Text) : Contribution :=
  { file := file, names := d.names, defaultName := d.defaultName }

/-- The files of a request, each once. -/
def contributions (r : Request) (source target : Document) : List Contribution :=
  Keyed.ofList Contribution.file [source.contribution r.source, target.contribution r.target]

namespace Artifact

/-- The artifact with one more request, given the documents of its files. -/
def extend (a : Artifact) (site : Site) (r : Request) (source target : Document) :
    Except Failure Artifact :=
  match site.statements (source.imports ++ target.imports) (contributions r source target) with
  | (statements, none) =>
    .ok {
      imports := ImportBlock.insertAll a.imports statements
      mappers := a.mappers ++ Plan.between source.entities target.entities r.bothWays }
  | (_, some _) => .error .emptyLocation

end Artifact

namespace Request

/-- The files of a request that do not exist. -/
def missing (w : Workspace) (r : Request) : List Text :=
  [r.source, r.target].filter fun file => !w.files.contains w.cwd file

/-- The mappings that a request announces. -/
def announcements (r : Request) : List Event :=
  .mapping r.source r.target :: if r.bothWays then [.mapping r.target r.source] else []

end Request

namespace Run

/-- Adds one request to an artifact. A request for files that do not exist is left out. -/
def addRequest (w : Workspace) (lookup : Lookup) (site : Site) (a : Artifact) (r : Request) :
    Run Artifact := do
  match r.missing w with
  | [] =>
    let source ← document w lookup r.source
    let target ← document w lookup r.target
    report r.announcements
    ofExcept (a.extend site r source target)
  | missing =>
    report [.requestSkipped r.source r.target missing]
    return a

/-- The artifact of some requests. -/
def build (w : Workspace) (settings : Settings) (requests : List Request) (output : Text) :
    Run Artifact :=
  requests.foldlM (addRequest w settings.lookup (settings.site w output)) {}

/-- The text of an artifact by the template that a path names. -/
def render (w : Workspace) (template : Option Text) (a : Artifact) : Run Text := do
  let choice := TemplateChoice.ofPath template
  report [.rendering a.imports.length a.mappers.length choice.name]
  ofExcept (choice.render w a)

end Run

/-- The requests of a configuration file, with their files named from the working
directory. -/
def Request.load (w : Workspace) (config : Text) : Except Failure (List Request) := do
  let path := Path.tidy config
  match w.files.find w.cwd path with
  | .ok (_, .file _) => pure ()
  | .error .nameTooLong => throw (.file .nameTooLong)
  | _ => throw (.noConfig path)
  let t ← (w.files.readText w.cwd path).mapError .file
  let requests ← (Request.ofText path t).mapError .config
  return Request.resolve w.cwd requests

end ShapeMapper
