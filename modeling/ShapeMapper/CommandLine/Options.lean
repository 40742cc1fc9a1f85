import ShapeMapper.Text.Digit
import ShapeMapper.Text.Listed

/-!
# Command-line options

How the arguments of the command are read (`Command.ofArguments`). Every argument is first
taken by itself as an option, a plain argument or the separator `--`, after which all are
plain. Then the options are carried out from left to right, so that a request for help wins
over what follows the argument it stands in. Plain arguments are for the options that take
one; any other is refused, but only after a missing option.
-/

namespace ShapeMapper.CommandLine

/-- The options of the command. -/
inductive Switch
  | help
  | mappingFile
  | output
  | template
  | allDeclarations
  | keepExtension
  | verbose
  deriving DecidableEq, Repr

namespace Switch

/-- All options, in the order in which they are listed. -/
def all : List Switch :=
  [help, mappingFile, output, template, allDeclarations, keepExtension, verbose]

/-- The short form of an option. -/
def short? : Switch → Option Text
  | help => some ['-', 'h']
  | mappingFile => some ['-', 's']
  | output => some ['-', 'o']
  | template => some ['-', 't']
  | verbose => some ['-', 'v']
  | allDeclarations | keepExtension => none

/-- The long form of an option. -/
def long : Switch → Text
  | help => "--help".toList
  | mappingFile => "--mapping-file".toList
  | output => "--output".toList
  | template => "--template".toList
  | allDeclarations => "--all-declarations".toList
  | keepExtension => "--no-strip-extension".toList
  | verbose => "--verbose".toList

/-- An option as it is called in a message. -/
def name (s : Switch) : Text :=
  ['/'].intercalate (s.short?.toList ++ [s.long])

/-- Whether an option takes an argument. -/
def takesArgument : Switch → Bool
  | mappingFile | output | template => true
  | _ => false

/-- The option that is written so. -/
def ofText? (t : Text) : Option Switch :=
  all.find? fun s => s.short? = some t || s.long = t

end Switch

/-- Why the arguments are refused. -/
inductive UsageError
  | ambiguous (argument : Text) (candidates : List Switch)
  | needsArgument (s : Switch)
  | superfluousArgument (s : Switch) (argument : Text)
  | required (switches : List Switch)
  | unrecognized (arguments : List Text)
  deriving DecidableEq, Repr

/-- An error in words. -/
def UsageError.message : UsageError → Text
  | ambiguous argument candidates =>
    "ambiguous option: ".toList ++ argument ++ " could match ".toList ++
      ", ".toList.intercalate (candidates.map Switch.long)
  | needsArgument s => "argument ".toList ++ s.name ++ ": expected one argument".toList
  | superfluousArgument s argument =>
    "argument ".toList ++ s.name ++ ": ignored explicit argument ".toList ++
      Text.Listed.encode argument
  | required switches =>
    "the following arguments are required: ".toList ++
      ", ".toList.intercalate (switches.map Switch.name)
  | unrecognized arguments =>
    "unrecognized arguments: ".toList ++ [' '].intercalate arguments

/-! ### Arguments by themselves -/

/-- What an argument is by itself. -/
inductive Argument
  | plain (t : Text)
  /-- An option, in its short or long form, with the text attached to it: what follows a
  short one directly, or either after an equals sign. -/
  | option (s : Switch) (short : Bool) (attached : Option Text)
  /-- What looks like an option but is none. -/
  | unknown (t : Text)
  deriving DecidableEq, Repr

namespace Argument

/-- Whether a text is a negative number, which is no option. One line feed at its end is let
through. -/
def isNegativeNumber (t : Text) : Bool :=
  match t with
  | '-' :: number =>
    match number.dropWhile Text.isDecimalDigit with
    | '.' :: fraction =>
      fraction.head?.any Text.isDecimalDigit &&
        isEnd (fraction.dropWhile Text.isDecimalDigit)
    | rest => number.head?.any Text.isDecimalDigit && isEnd rest
  | _ => false
where
  /-- Whether nothing follows but a line feed. -/
  isEnd (rest : Text) : Bool :=
    rest = [] || rest = ['\n']

/-- The option that a text names in full, before an equals sign if it has one. -/
def named? (t : Text) : Option Argument :=
  match Switch.ofText? t with
  | some s => some (.option s (s.short? = some t) none)
  | none => do
    let (before, attached) ← Text.cut? ['='] t
    let s ← Switch.ofText? before
    return .option s (s.short? = some before) (some attached)

/-- The options that a text may abbreviate: a long one by its start, or a short one with the
rest attached to it. -/
def abbreviated (t : Text) : List Argument :=
  match t with
  | '-' :: '-' :: _ =>
    let (start, attached) :=
      match Text.cut? ['='] t with
      | some (before, attached) => (before, some attached)
      | none => (t, none)
    (Switch.all.filter fun s => start.isPrefixOf s.long).map (.option · false attached)
  | _ =>
    (Switch.all.filter fun s => s.short? = some (t.take 2)).map
      (.option · true (some (t.drop 2)))

/-- The option of an argument that is one. -/
def switch? : Argument → Option Switch
  | option s .. => some s
  | _ => none

/-- What an argument is by itself. -/
def ofText (t : Text) : Except UsageError Argument :=
  match t with
  | '-' :: _ :: _ =>
    match named? t with
    | some argument => .ok argument
    | none =>
      match abbreviated t with
      | [argument] => .ok argument
      | [] => .ok (if isNegativeNumber t || t.contains ' ' then .plain t else .unknown t)
      | candidates => .error (.ambiguous t (candidates.filterMap switch?))
  | t => .ok (.plain t)

/-- What the arguments are by themselves. The separator is left in as an unknown one, and
all after it are plain. -/
def ofTexts : List Text → Except UsageError (List Argument)
  | [] => .ok []
  | t :: ts =>
    if t = ['-', '-'] then .ok (.unknown t :: ts.map .plain)
    else do
      let argument ← ofText t
      return argument :: (← ofTexts ts)

end Argument

/-! ### The command -/

/-- What the arguments ask for so far. An option may be given and still name nothing. -/
structure Draft where
  mappingFile : Option (Option Text) := none
  output : Option (Option Text) := none
  template : Option Text := none
  allDeclarations : Bool := false
  keepExtension : Bool := false
  verbose : Bool := false
  unrecognized : List Text := []
  deriving DecidableEq, Repr

/-- A run that the arguments ask for. -/
structure Options where
  mappingFile : Text
  output : Text
  template : Option Text
  allDeclarations : Bool
  keepExtension : Bool
  verbose : Bool
  deriving DecidableEq, Repr

/-- What the arguments ask for. -/
inductive Command
  | help
  | generate (options : Options)
  /-- A run whose mapping file or output is given without a name. -/
  | unnamed
  deriving DecidableEq, Repr

/-- The end of a chain of options in one argument. -/
inductive Tail
  | closed
  /-- The last option takes the next argument. -/
  | wanting (s : Switch)
  /-- The last option takes what is attached to it. -/
  | given (s : Switch) (argument : Text)
  deriving DecidableEq, Repr

namespace Switch

/-- The options that a short one begins with what follows it directly. A text after an option
that takes no argument is a chain of further short options. -/
def chain (s : Switch) : Text → Except UsageError (List Switch × Tail)
  | [] => .ok (if s.takesArgument then ([], .wanting s) else ([s], .closed))
  | c :: t =>
    if s.takesArgument then .ok ([], .given s (c :: t))
    else
      match ofText? ['-', c] with
      | none => .error (.superfluousArgument s (c :: t))
      | some next => (next.chain t).map fun (switches, tail) => (s :: switches, tail)

/-- The options of one argument. An attached text is an argument if the option takes one, and
a chain after a short option otherwise. -/
def withAttached (s : Switch) (short : Bool) :
    Option Text → Except UsageError (List Switch × Tail)
  | none => s.chain []
  | some t =>
    if s.takesArgument then .ok ([], .given s t)
    else if short ∧ t ≠ [] then s.chain t
    else .error (.superfluousArgument s t)

end Switch

namespace Draft

/-- Carries out options that take no argument; none if one of them asks for help. -/
def flags (d : Draft) : List Switch → Option Draft
  | [] => some d
  | .help :: _ => none
  | .allDeclarations :: rest => flags { d with allDeclarations := true } rest
  | .keepExtension :: rest => flags { d with keepExtension := true } rest
  | .verbose :: rest => flags { d with verbose := true } rest
  | _ :: rest => flags d rest

/-- Carries out an option with its argument. The separator as an attached argument names
nothing. -/
def assign (d : Draft) (s : Switch) (argument : Text) : Draft :=
  let named? := if argument = ['-', '-'] then none else some argument
  match s with
  | .mappingFile => { d with mappingFile := some named? }
  | .output => { d with output := some named? }
  | .template => { d with template := named? }
  | _ => d

/-- The command that is asked for after all arguments are read. -/
def finish (d : Draft) : Except UsageError Command :=
  match d.mappingFile, d.output with
  | some mappingFile, some output =>
    if d.unrecognized = [] then
      match mappingFile, output with
      | some mappingFile, some output => .ok (.generate { d with mappingFile, output })
      | _, _ => .ok .unnamed
    else .error (.unrecognized d.unrecognized)
  | mappingFile, output =>
    .error (.required ((if mappingFile.isNone then [.mappingFile] else []) ++
      if output.isNone then [.output] else []))

/-- Reads arguments from left to right. -/
def read (d : Draft) : List Argument → Except UsageError Command
  | [] => d.finish
  | .plain t :: rest | .unknown t :: rest =>
    read { d with unrecognized := d.unrecognized ++ [t] } rest
  | .option s short attached :: rest => do
    let (switches, tail) ← s.withAttached short attached
    match tail, rest with
    | .closed, rest => (d.flags switches).elim (.ok .help) (read · rest)
    | .given s t, rest => (d.flags switches).elim (.ok .help) fun d => read (d.assign s t) rest
    | .wanting s, .plain t :: rest =>
      (d.flags switches).elim (.ok .help) fun d => read (d.assign s t) rest
    | .wanting s, _ => .error (.needsArgument s)

end Draft

/-- What the arguments ask for. -/
def Command.ofArguments (arguments : List Text) : Except UsageError Command := do
  Draft.read {} (← Argument.ofTexts arguments)

end ShapeMapper.CommandLine
