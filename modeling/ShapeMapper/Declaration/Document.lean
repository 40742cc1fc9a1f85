import ShapeMapper.Declaration.Scan
import ShapeMapper.Event

/-!
# Documents

A document is what a declaration file offers for mapping: its shapes and its imports. Export
lists may stand anywhere in the file, so which shapes are exported is known only at its end.
-/

namespace ShapeMapper

open Source Declaration

/-- Which declarations count as shapes. -/
inductive Visibility
  | exportedOnly
  | all
  deriving DecidableEq, Repr

/-- The shapes and imports of a declaration file. -/
structure Document where
  file : Text
  entities : List Entity := []
  imports : List ImportStatement := []
  deriving DecidableEq, Repr

namespace Document

/-- The names of the shapes. -/
def names (d : Document) : List Text :=
  d.entities.map Entity.name

/-- The name of the shape that is the default export. -/
def defaultName (d : Document) : Option Text :=
  (d.entities.find? Entity.isDefault).map Entity.name

/-- A shape after the export lists: a listed one is exported, and the one listed as the
default becomes the default export. -/
def exportedBy (entries : List ExportEntry) (e : Entity) : Entity :=
  let isDefault := ((entries.filter (·.asDefault)).getLast?).any (·.name = e.name)
  if isDefault || entries.any (fun entry => !entry.asDefault && entry.name = e.name) then
    { e with exported := true, isDefault := e.isDefault || isDefault }
  else e

/-- The document that items and export lists make up. -/
def ofItems (visibility : Visibility) (file : Text) (items : List Item)
    (entries : List ExportEntry) : Document :=
  let entities := (items.filterMap fun
    | .entity e _ => some e
    | _ => none).map (exportedBy entries)
  { file := file
    entities := if visibility = .exportedOnly then entities.filter Entity.exported else entities
    imports := items.filterMap fun
      | .imported i => some i
      | _ => none }

/-- What there is to report about an item. -/
def events (file : Text) : Item → List Event
  | .imported _ => []
  | .entity _ unsupported => unsupported.map (.unsupportedMember file ·)
  | .composite name => [.compositeAlias file name]

/-- The document that a source declares, or why it cannot be read, with the events on the
way. -/
def ofSource (visibility : Visibility) (file source : Text) :
    Except Unreadable Document × List Event :=
  match withoutComments source with
  | .error stuck => (.error (stuck.report file source), [])
  | .ok text =>
    let found := scan file [] 0 text
    (match found.stuck with
      | some stuck => .error (stuck.report file text)
      | none => .ok (ofItems visibility file found.items (exportEntries text)),
      found.items.flatMap (events file))

end Document

end ShapeMapper
