import ShapeMapper.Keyed
import ShapeMapper.Text.Basic

/-!
# Shapes

What a declaration file declares: object shapes (`Entity`) with their properties, and the
imports it makes (`ImportStatement`).
-/

namespace ShapeMapper

/-- A named, typed property of a shape. -/
structure Property where
  name : Text
  /-- The declared type, as it is written. -/
  type : Text
  optional : Bool := false
  deriving DecidableEq, Repr

/-- A named object shape with its properties in the order of their first declaration. -/
structure Entity where
  name : Text
  properties : List Property := []
  exported : Bool := true
  /-- Whether it is the default export of its file. -/
  isDefault : Bool := false
  deriving DecidableEq, Repr

namespace Entity

/-- The shape with the given members. Of two members of one name the first gives the place
and the last the property; a default export is exported. -/
def ofMembers (name : Text) (members : List Property) (exported isDefault : Bool) : Entity where
  name := name
  properties := Keyed.ofList Property.name members
  exported := exported || isDefault
  isDefault := isDefault

/-- The property of a given name. -/
def property? (e : Entity) (name : Text) : Option Property :=
  Keyed.find? Property.name name e.properties

end Entity

/-- An import found in a declaration file. -/
structure ImportStatement where
  /-- The file that makes the import. -/
  file : Text
  /-- The statement as it is written, without the final semicolon. -/
  text : Text
  /-- What it imports from. -/
  specifier : Text
  relative : Bool
  deriving DecidableEq, Repr

end ShapeMapper
