import ShapeMapper.Generator

/-!
# Jobs

A job is a run that may change the files: it has them in its state, beside the session. What
a job does as a run (`Job.ofRun`) only reads them, and the one step that changes a file
(`Job.write`) comes after all that may fail; so a job that fails leaves the files as they
were.

* `Job.generate`: builds the artifact of some requests, renders it and writes it;
* `Job.generateFrom`: the same for the requests of a configuration file.
-/

namespace ShapeMapper

/-- The files that a job works on, and its session. -/
structure Job.State where
  files : FileTree
  session : Session := {}

/-- A run that may change the files. -/
abbrev Job := EStateM Failure Job.State

namespace Job

/-- A run on the files as they are, seen from the working directory. -/
def ofRun {α : Type} (cwd : Text) (x : Workspace → Run α) : Job α := fun s =>
  match (x { files := s.files, cwd }).run s.session with
  | .ok a session => .ok a { s with session }
  | .error failure session => .error failure { s with session }

/-- Writes a text to a file. -/
def write (cwd output t : Text) : Job Unit := fun s =>
  match s.files.writeText cwd output t with
  | .ok files => .ok () { s with files }
  | .error fault => .error (.file fault) s

/-- Builds the artifact of some requests, renders it and writes it. -/
def generate (cwd : Text) (settings : Settings) (requests : List Request) (output : Text) :
    Job Artifact := do
  let output := Path.absolute cwd output
  let artifact ← ofRun cwd (Run.build · settings requests output)
  let text ← ofRun cwd (Run.render · settings.template artifact)
  write cwd output text
  ofRun cwd fun _ => Run.report [.written artifact.mappers.length output]
  return artifact

/-- Generates the mappers that a configuration file requests. -/
def generateFrom (cwd : Text) (settings : Settings) (config output : Text) : Job Artifact := do
  let requests ← ofRun cwd fun w => Run.ofExcept (Request.load w config)
  generate cwd settings requests output

end Job

end ShapeMapper
