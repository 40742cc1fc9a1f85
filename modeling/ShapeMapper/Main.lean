import ShapeMapper.CommandLine.Outcome

/-!
# The command

The program around the library: it looks at the files that the arguments and the
configuration name, runs the command on what it saw, prints its texts and writes the
generated file.
-/

namespace ShapeMapper.Main

/-- A location as a path of the operating system. -/
def pathOf (l : Location) : String :=
  String.ofList l.path

/-- What is at a place. -/
def entryAt (l : Location) : IO (Option Entry) := do
  let p := (← IO.currentDir) / pathOf l
  if ← p.isDir then return some .directory
  if ← p.pathExists then return some (.file (← IO.FS.readBinFile p))
  return none

/-- The tree with what is at a place and above it. -/
def look (files : FileTree) (place : Location) : IO FileTree := do
  let mut files := files
  for n in List.range (place.length + 1) do
    let l := place.take n
    if (files.get? l).isNone then
      files := files.set l (← entryAt l)
  return files

/-- Ends a run that has no name of a file. -/
def unnamed : IO UInt32 := do
  IO.eprintln "a file is given without a name"
  return 1

/-- Runs the command with some options. -/
def generate (cwd : Text) (o : CommandLine.Options) : IO UInt32 := do
  let place (p : Text) : Location := Location.ofPath (Path.append cwd p)
  let mut files : FileTree := { get? := fun _ => none }
  for p in o.mappingFile :: o.output :: o.template.toList do
    files ← look files (place p)
  let requests := Request.load { files, cwd } (Path.absolute cwd o.mappingFile)
  for r in requests.toOption.getD [] do
    files ← look files (place r.source)
    files ← look files (place r.target)
  let outcome := CommandLine.Outcome.ofOptions { files, cwd } o
  IO.eprint (String.ofList outcome.errors)
  match outcome.ending with
  | .exit code =>
    if let some (.file content) := outcome.files.get? (place o.output) then
      if code = 0 then IO.FS.writeBinFile (pathOf (place o.output)) content
    return code.toUInt32
  | .failure f =>
    IO.eprintln (String.ofList f.message)
    return 1
  | .unnamed => unnamed

/-- Runs the command with some arguments. -/
def run (arguments : List String) : IO UInt32 := do
  match CommandLine.Command.ofArguments (arguments.map String.toList) with
  | .ok .help =>
    IO.print (String.ofList CommandLine.help)
    return 0
  | .ok (.generate o) => generate (← IO.currentDir).toString.toList o
  | .ok .unnamed => unnamed
  | .error e =>
    IO.eprint (String.ofList (CommandLine.usage ++ CommandLine.complaint e))
    return 2

end ShapeMapper.Main

/-- The generator as a command. -/
def main (arguments : List String) : IO UInt32 :=
  ShapeMapper.Main.run arguments
