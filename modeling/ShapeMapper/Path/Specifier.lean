import ShapeMapper.Path.Basic

/-!
# Module specifiers

The text after `from` in an import. A relative specifier starts with a dot and is read from
the directory of the file that holds it; any other names a package.

* `Path.between`: the way from one directory to a path;
* `Path.relative`: the specifier by which one file reaches another;
* `Path.withoutExtension`: a specifier without its source extension.
-/

namespace ShapeMapper.Path

/-- Whether a specifier is relative. -/
def isRelative (specifier : Text) : Bool :=
  specifier.head? = some '.'

/-- The segments that are no idle ones, of a path that is normal already. -/
def steps (p : Text) : List Text :=
  (segments p).filter (· ≠ [])

/-- `ys` as reached from `xs`: the common start is left out, the rest of `xs` is gone up. -/
def route : List Text → List Text → List Text
  | x :: xs, y :: ys => if x = y then route xs ys else (x :: xs).map (fun _ => up) ++ y :: ys
  | xs, ys => xs.map (fun _ => up) ++ ys

/-- The path of `target` as seen from the directory `start`. -/
def between (cwd start target : Text) : Text :=
  match route (steps (absolute cwd start)) (steps (absolute cwd target)) with
  | [] => here
  | segments => joined segments

/-- The specifier by which the file `source` reaches `target`. -/
def relative (cwd source target : Text) : Text :=
  let start := if directory source = [] then here else directory source
  let specifier := withSlashes (between cwd start target)
  if isRelative specifier then specifier else '.' :: '/' :: specifier

/-- The specifier by which `source` reaches `target`, which has to name something. -/
def relative? (cwd source target : Text) : Option Text :=
  if target = [] then none else some (relative cwd source target)

/-- The extensions of source files that an import leaves out, the longest first. -/
def extensions : List Text :=
  [".d.ts".toList, ".tsx".toList, ".ts".toList]

/-- A path without its source extension. -/
def withoutExtension (p : Text) : Text :=
  match extensions.find? (·.isSuffixOf p) with
  | some extension => p.take (p.length - extension.length)
  | none => p

end ShapeMapper.Path
