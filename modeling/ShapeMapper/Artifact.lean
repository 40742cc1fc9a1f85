import ShapeMapper.Template.Bundled

/-!
# Artifacts

What a run generates: the import block and the mappers, and the text that a template makes
of them.
-/

namespace ShapeMapper

/-- The imports and the mappers of a generated file. -/
structure Artifact where
  imports : List Text := []
  mappers : List Plan := []
  deriving DecidableEq, Repr

namespace Artifact

/-- The names under which a template finds the parts of an artifact. -/
def scope (a : Artifact) : Template.Scope :=
  [("imports".toList, .list (a.imports.map .text) false),
    ("mappers".toList, .list (a.mappers.map .plan) false)]

/-- The text of an artifact by a template that comes from a file. -/
def render (source : Text) (a : Artifact) : Except Template.RenderFault Text :=
  Template.render true source a.scope

/-- The text of an artifact by the bundled template. -/
def renderBundled (a : Artifact) : Except Template.RenderFault Text :=
  a.render Template.Bundled.source

end Artifact

end ShapeMapper
