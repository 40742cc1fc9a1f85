import ShapeMapper.CommandLine.Options
import ShapeMapper.Job

/-!
# Runs of the command

What the command does with its arguments, the files and the working directory, and what it
leaves behind (`Outcome.of`). A failure that is the user's to mend ends the run with a
message and an exit code; any other ends it as it is.
-/

namespace ShapeMapper.CommandLine

/-- How a run of the command ends. -/
inductive Ending
  | exit (code : Nat)
  /-- A failure that the command does not report. -/
  | failure (f : Failure)
  /-- There is no name of a file to begin with. -/
  | unnamed
  deriving DecidableEq, Repr

/-- What a run of the command leaves behind. -/
structure Outcome where
  ending : Ending
  output : Text := []
  errors : Text := []
  /-- The files afterwards. -/
  files : FileTree

/-- How the command is used. -/
def usage : Text :=
  ("usage: ts-mapper [-h] -s MAPPING_FILE -o OUTPUT [-t TEMPLATE]\n" ++
    "                 [--all-declarations] [--no-strip-extension] [-v]\n").toList

/-- The help text. -/
def help : Text :=
  usage ++
    ("\nGenerate TypeScript mapper functions between interface declarations\n\noptions:\n" ++
    "  -h, --help            show this help message and exit\n" ++
    "  -s MAPPING_FILE, --mapping-file MAPPING_FILE\n" ++
    "                        Mapping specification file path.\n" ++
    "  -o OUTPUT, --output OUTPUT\n" ++
    "                        Output file path.\n" ++
    "  -t TEMPLATE, --template TEMPLATE\n" ++
    "                        Custom Jinja2 template (default: bundled)\n" ++
    "  --all-declarations    Map non-exported declarations too (default: exported\n" ++
    "                        only)\n" ++
    "  --no-strip-extension  Keep .ts extensions in generated import paths\n" ++
    "  -v, --verbose         Enable debug logging\n").toList

/-- The line that says why the arguments are refused. -/
def complaint (e : UsageError) : Text :=
  "ts-mapper: error: ".toList ++ e.message ++ ['\n']

/-- The lines of a log that matter at least as much as a threshold. -/
def log (threshold : Level) (events : List Event) : Text :=
  (events.filter (threshold.atLeast ·.level)).flatMap fun event => event.line ++ ['\n']

namespace Options

/-- The settings of a run. -/
def settings (o : Options) (cwd : Text) : Settings where
  template := (o.template.filter (· ≠ [])).map fun p => Path.tidy (Path.absolute cwd p)
  visibility := if o.allDeclarations then .all else .exportedOnly
  stripExtension := !o.keepExtension

/-- What matters enough for the log. -/
def threshold (o : Options) : Level :=
  if o.verbose then .debug else .info

end Options

namespace Outcome

/-- A run with the given options. -/
def ofOptions (w : Workspace) (o : Options) : Outcome :=
  let job := Job.generateFrom w.cwd (o.settings w.cwd) (Path.absolute w.cwd o.mappingFile)
    (Path.absolute w.cwd o.output)
  match job.run { files := w.files } with
  | .ok _ s =>
    { ending := .exit 0
      errors := log o.threshold s.session.events
      files := s.files }
  | .error failure s =>
    match failure.report? with
    | some message =>
      { ending := .exit 1
        errors := log o.threshold (s.session.events ++ [.failed message])
        files := s.files }
    | none =>
      { ending := .failure failure
        errors := log o.threshold s.session.events
        files := s.files }

/-- A run with the given arguments. -/
def of (w : Workspace) (arguments : List Text) : Outcome :=
  match Command.ofArguments arguments with
  | .ok .help => { ending := .exit 0, output := help, files := w.files }
  | .ok (.generate o) => ofOptions w o
  | .ok .unnamed => { ending := .unnamed, files := w.files }
  | .error e => { ending := .exit 2, errors := complaint e, files := w.files }

end Outcome

end ShapeMapper.CommandLine
