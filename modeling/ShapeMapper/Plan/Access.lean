import ShapeMapper.Text.Alphanumeric
import ShapeMapper.Text.Quoted

/-!
# Property names in generated code

A property whose name is an identifier is written as it is, any other by its quoted name.
-/

namespace ShapeMapper.Access

/-- Whether a name may be written without quotes. One line feed at its end is let through. -/
def isPlain (name : Text) : Bool :=
  match Text.name? name with
  | some (_, rest) => rest = [] || rest = ['\n']
  | none => false

/-- The key of a property in an object literal. -/
def key (name : Text) : Text :=
  if isPlain name then name else Text.Quoted.encode name

/-- What follows the object in an access to a property; `guarded` for an access after `?.`,
which needs no dot of its own. -/
def member (name : Text) (guarded : Bool) : Text :=
  if isPlain name then (if guarded then name else '.' :: name)
  else '[' :: Text.Quoted.encode name ++ [']']

end ShapeMapper.Access
