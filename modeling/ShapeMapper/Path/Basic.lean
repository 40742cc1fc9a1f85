import ShapeMapper.Text.Basic

/-!
# Paths

Arithmetic on slash-separated paths, with no look at any file. A path is rooted if it
starts with a slash; the segments `.` and the empty one stand for nothing, and `..` takes
back the segment before it.

* `Path.normalize`: the shortest path of the same meaning;
* `Path.append`, `Path.directory`, `Path.absolute`: paths below paths;
* `Path.beside`: a path as written inside a file;
* `Path.tidy`: a path without its idle segments, `..` kept.
-/

namespace ShapeMapper.Path

/-- The segment that names the directory above. -/
def up : Text := ['.', '.']

/-- The segment that names the directory itself. -/
def here : Text := ['.']

/-- The segments between the slashes of a path. -/
def segments (p : Text) : List Text :=
  p.splitOn '/'

/-- Segments written one below the other. -/
def joined (segments : List Text) : Text :=
  ['/'].intercalate segments

/-- The slashes a normal path starts with: two are kept as two, more count as one. -/
def root : Text → Text
  | '/' :: '/' :: '/' :: _ => ['/']
  | '/' :: '/' :: _ => ['/', '/']
  | '/' :: _ => ['/']
  | _ => []

/-- One segment onto the stack of segments read so far, the last one first. Above the root
there is nothing to take back; a path without root keeps its leading `..`. -/
def push (rooted : Bool) (stack : List Text) (segment : Text) : List Text :=
  if segment = [] ∨ segment = here then stack
  else if segment = up then
    match stack with
    | [] => if rooted then [] else [up]
    | top :: below => if top = up then up :: stack else below
  else segment :: stack

/-- Segments with every `..` taken back as far as there is something before it. -/
def reduce (rooted : Bool) (segments : List Text) : List Text :=
  (segments.foldl (push rooted) []).reverse

/-- The normal form of a path: its root and its reduced segments, or `.` if nothing is left. -/
def normalize (p : Text) : Text :=
  let t := root p ++ joined (reduce (root p ≠ []) (segments p))
  if t = [] then here else t

/-- `p` as seen from the directory `base`; a rooted path stays as it is. -/
def append (base p : Text) : Text :=
  if p.head? = some '/' then p
  else if base = [] ∨ base.getLast? = some '/' then base ++ p
  else base ++ '/' :: p

/-- The directory part of a path: what stands before its last slash. The slashes at its end
go, unless there is nothing else. -/
def directory (p : Text) : Text :=
  let head := (p.reverse.dropWhile (· ≠ '/')).reverse
  if head.all (· == '/') then head else (head.reverse.dropWhile (· == '/')).reverse

/-- The last segment of a path. -/
def fileName (p : Text) : Text :=
  (p.reverse.takeWhile (· ≠ '/')).reverse

/-- The rooted normal form of a path, as seen from the working directory. -/
def absolute (cwd p : Text) : Text :=
  normalize (append cwd p)

/-- The path that `p` denotes when it is written inside `file`. -/
def beside (file p : Text) : Text :=
  normalize (append (directory file) p)

/-- A path without empty segments and `.`; the segment `..` is kept, and no path is `.`. -/
def tidy (p : Text) : Text :=
  let t := root p ++ joined ((segments p).filter fun s => s ≠ [] ∧ s ≠ here)
  if t = [] then here else t

/-- Backslashes as slashes. -/
def withSlashes (p : Text) : Text :=
  p.map fun c => if c = '\\' then '/' else c

end ShapeMapper.Path
