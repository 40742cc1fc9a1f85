import ShapeMapper.Keyed
import ShapeMapper.Text.Basic

/-!
# JSON values

The values that a configuration or the variables of a template are given by.
-/

namespace ShapeMapper

/-- A JSON value. A number is an integer unless it has a fraction or an exponent; the fields
of an object stand in the order of their first occurrence. -/
inductive Json
  | null
  | bool (b : Bool)
  | integer (n : Int)
  | decimal (x : Float)
  | text (t : Text)
  | list (items : List Json)
  | object (fields : List (Text × Json))

namespace Json

/-- The object with the given fields; of two fields of one name the first gives the place and
the last the value. -/
def ofFields (fields : List (Text × Json)) : Json :=
  .object (Keyed.ofList Prod.fst fields)

/-- The value of a field. -/
def field? (name : Text) (fields : List (Text × Json)) : Option Json :=
  (Keyed.find? Prod.fst name fields).map Prod.snd

/-- The kind of a value in a message. -/
def kind : Json → Text
  | null => "NoneType".toList
  | bool _ => "bool".toList
  | integer _ => "int".toList
  | decimal _ => "float".toList
  | text _ => "str".toList
  | list _ => "list".toList
  | object _ => "dict".toList

end Json

end ShapeMapper
