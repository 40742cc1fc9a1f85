import ShapeMapper.Declaration.Document
import ShapeMapper.Json.Basic
import ShapeMapper.Path.Basic

/-!
# Settings

The options of a run, and how they are read from the fields of an object. A flag is read
leniently: beside a boolean it may be one of the numbers zero and one or one of the usual
words, whatever its case. A number that is no whole number of 64 bits is of the wrong kind.
-/

namespace ShapeMapper

/-- The options of a run. -/
structure Settings where
  /-- A template to use in the place of the bundled one. -/
  template : Option Text := none
  visibility : Visibility := .exportedOnly
  /-- Whether a file is read only once. -/
  cache : Bool := true
  /-- Whether imports leave out the extension of a source file. -/
  stripExtension : Bool := true
  deriving DecidableEq, Repr

namespace Visibility

/-- A visibility as it is written. -/
def name : Visibility → Text
  | exportedOnly => "exported_only".toList
  | all => "all".toList

/-- The visibility that is written so. -/
def ofName? (t : Text) : Option Visibility :=
  [exportedOnly, all].find? fun v => v.name = t

end Visibility

namespace Settings

/-- What is wrong with the value of a setting. -/
inductive Fault
  | notAPath
  | notAVisibility
  /-- The value is of a kind that is no flag. -/
  | notAFlag
  /-- The value is a number or a text, but none that is a flag. -/
  | unknownFlag
  deriving DecidableEq, Repr

namespace Fault

/-- The name of a fault. -/
def code : Fault → Text
  | notAPath => "path_type".toList
  | notAVisibility => "enum".toList
  | notAFlag => "bool_type".toList
  | unknownFlag => "bool_parsing".toList

/-- A fault in words. -/
def message : Fault → Text
  | notAPath => "Input is not a valid path for <class 'pathlib.Path'>".toList
  | notAVisibility => "Input should be 'exported_only' or 'all'".toList
  | notAFlag => "Input should be a valid boolean".toList
  | unknownFlag => "Input should be a valid boolean, unable to interpret input".toList

end Fault

/-- The words that stand for a flag, in lower case. -/
def flagWords : Bool → List Text
  | true => ["1", "on", "t", "true", "y", "yes"].map String.toList
  | false => ["0", "off", "f", "false", "n", "no"].map String.toList

/-- The flag that a value stands for. -/
def flag : Json → Except Fault Bool
  | .bool b => .ok b
  | .integer n =>
    if -wordBound ≤ n ∧ n < wordBound then number (n == 0) (n == 1) else .error .notAFlag
  | .decimal x =>
    if x.abs < Float.ofInt wordBound && x.floor == x then number (x == 0) (x == 1)
    else .error .notAFlag
  | .text t =>
    let t := t.map Char.toLower
    number ((flagWords false).contains t) ((flagWords true).contains t)
  | _ => .error .notAFlag
where
  /-- The first whole number that is too large for a signed word of 64 bits. -/
  wordBound : Int := 0x8000000000000000
  /-- A flag, from whether the value stands for one or the other. -/
  number (isFalse isTrue : Bool) : Except Fault Bool :=
    if isFalse then .ok false else if isTrue then .ok true else .error .unknownFlag

/-- The template path that a value stands for. -/
def templatePath : Json → Except Fault (Option Text)
  | .null => .ok none
  | .text t => .ok (some (Path.tidy t))
  | _ => .error .notAPath

/-- The visibility that a value stands for. -/
def visibilityOf : Json → Except Fault Visibility
  | .text t => (Visibility.ofName? t).elim (.error .notAVisibility) .ok
  | _ => .error .notAVisibility

/-- The names of the settings. -/
inductive Field
  | template
  | visibility
  | cache
  | stripExtension
  deriving DecidableEq, Repr

/-- A field as it is written. -/
def Field.name : Field → Text
  | template => "template_path".toList
  | visibility => "visibility".toList
  | cache => "cache_schemas".toList
  | stripExtension => "strip_import_extension".toList

/-- The value of a field, or what is wrong with it; `default` if it is not given. -/
def read {α : Type} (fields : List (Text × Json)) (field : Field) (default : α)
    (ofJson : Json → Except Fault α) : Except (Field × Fault) α :=
  match Json.field? field.name fields with
  | none => .ok default
  | some value => (ofJson value).mapError (field, ·)

/-- The fault of a field, if it has one. -/
def fault? {α : Type} : Except (Field × Fault) α → Option (Field × Fault)
  | .ok _ => none
  | .error fault => some fault

/-- The settings that the fields of an object give, or all faults in the order of the
settings. Other fields are passed over. -/
def ofFields (fields : List (Text × Json)) : Except (List (Field × Fault)) Settings :=
  let template := read fields .template none templatePath
  let visibility := read fields .visibility .exportedOnly visibilityOf
  let cache := read fields .cache true flag
  let stripExtension := read fields .stripExtension true flag
  match template, visibility, cache, stripExtension with
  | .ok template, .ok visibility, .ok cache, .ok stripExtension =>
    .ok { template, visibility, cache, stripExtension }
  | template, visibility, cache, stripExtension =>
    .error ((fault? template).toList ++ (fault? visibility).toList ++ (fault? cache).toList ++
      (fault? stripExtension).toList)

end Settings

end ShapeMapper
