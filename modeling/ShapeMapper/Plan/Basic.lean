import ShapeMapper.Shape.Basic

/-!
# Mapping plans

A plan says, for every property of a target shape, whether a mapper may copy it from the
source shape or has to be given a custom function. A property is copied if both sides
declare it with the same type, `null` and `undefined` aside, and the source is nullable
only where the target is:

| source       | target       |                 |
|--------------|--------------|-----------------|
| nullable     | not nullable | custom function |
| nullable     | nullable     | copied          |
| not nullable | either       | copied          |

Planning never fails: what cannot be copied is left to the caller.
-/

namespace ShapeMapper

/-! ### Types as unions -/

namespace UnionType

/-- The members of a union: the text between its bars, trimmed. -/
def members (type : Text) : List Text :=
  (type.splitOn '|').map Text.strip

/-- The members that stand for the absence of a value. -/
def isAbsence (member : Text) : Bool :=
  member = "null".toList || member = "undefined".toList

/-- A union without its members `null` and `undefined`. -/
def stripped (type : Text) : Text :=
  ['|'].intercalate ((members type).filter fun m => !isAbsence m)

/-- Whether a type admits no value: one of the two words occurs in it, or its property is
optional. -/
def isNullable (type : Text) (optional : Bool) : Bool :=
  (Text.cut? "null".toList type).isSome || (Text.cut? "undefined".toList type).isSome || optional

end UnionType

/-- The type that a custom function has to return for a property. -/
def Property.returnType (p : Property) : Text :=
  if p.optional then p.type ++ " | undefined".toList else p.type

/-! ### Plans -/

/-- How a mapper produces a property. -/
inductive Route
  | copied
  | custom
  deriving DecidableEq, Repr

/-- How one target property is produced. Every property may be given a custom function;
`optional` tells whether the caller may leave it out. -/
structure Slot where
  name : Text
  route : Route
  returnType : Text
  optional : Bool
  deriving DecidableEq, Repr

/-- How to map one shape onto another. -/
structure Plan where
  source : Text
  target : Text
  slots : List Slot
  /-- Whether the caller may leave out every custom function. -/
  allOptional : Bool
  deriving DecidableEq, Repr

namespace Plan

/-- The names of the properties that are copied. -/
def copied (p : Plan) : List Text :=
  (p.slots.filter (·.route = .copied)).map Slot.name

/-- The names of the properties for which the caller has to give a function. -/
def required (p : Plan) : List Text :=
  (p.slots.filter (!·.optional)).map Slot.name

end Plan

/-- Whether a target property may be copied from a source property. -/
def Property.copyable (target source : Property) : Bool :=
  UnionType.stripped source.type = UnionType.stripped target.type &&
    (!UnionType.isNullable source.type source.optional ||
      UnionType.isNullable target.type target.optional)

/-- The slot of a target property, given the source property of its name. -/
def Slot.of (target : Property) (source : Option Property) : Slot :=
  let copied := source.any target.copyable
  { name := target.name
    route := if copied then .copied else .custom
    returnType := target.returnType
    optional := copied }

/-- The plan of a mapper from `source` to `target`: one slot per target property, in order. -/
def Plan.of (source target : Entity) : Plan :=
  let slots := target.properties.map fun p => Slot.of p (source.property? p.name)
  { source := source.name
    target := target.name
    slots := slots
    allOptional := slots.all Slot.optional }

/-- The plans from every source to every target, source by source. -/
def Plan.product (sources targets : List Entity) : List Plan :=
  sources.flatMap fun s => targets.map fun t => Plan.of s t

/-- The plans of a request: there, and back if it goes both ways. -/
def Plan.between (sources targets : List Entity) (bothWays : Bool) : List Plan :=
  product sources targets ++ if bothWays then product targets sources else []

end ShapeMapper
