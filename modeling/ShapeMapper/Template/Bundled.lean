import ShapeMapper.Template.Render

/-!
# The bundled template

The template that is used unless another one is named: the imports, and one mapper function
per plan. A mapper takes the source object and a map of custom functions; a copied property
uses its function only if there is one.
-/

namespace ShapeMapper.Template

namespace Bundled

/-- A tag on a line of its own. -/
def tag (t : String) : Text :=
  '\x7b' :: '%' :: ' ' :: t.toList ++ [' ', '%', '\x7d', '\n']

/-- An output. -/
def output (t : String) : Text :=
  '\x7b' :: '\x7b' :: ' ' :: t.toList ++ [' ', '\x7d', '\x7d']

/-- The head of a mapper up to the type of its custom functions. -/
def head : Text :=
  "\nexport const map".toList ++ output "mapper.source_entity_name" ++ "To".toList ++
    output "mapper.target_entity_name" ++ " = (\n  source: ".toList ++
    output "mapper.source_entity_name" ++ ",\n  customMap".toList ++
    output "'?' if mapper.all_custom_optional else ''" ++ ": \x7b\n".toList

/-- The entry of a property in the type of the custom functions. -/
def entry : Text :=
  "    ".toList ++ output "prop.name | ts_key" ++ output "'?' if prop.is_optional else ''" ++
    ": (source: ".toList ++ output "mapper.source_entity_name" ++ ") => ".toList ++
    output "prop.return_type" ++ ['\n']

/-- The line of a property that may be copied. -/
def copiedLine : Text :=
  "  ".toList ++ output "prop.name | ts_key" ++ ": customMap?.".toList ++
    output "prop.name | ts_access(optional=True)" ++ " ? customMap".toList ++
    output "prop.name | ts_access" ++ "(source) : source".toList ++
    output "prop.name | ts_access" ++ ",\n".toList

/-- The line of a property that needs a custom function. -/
def customLine : Text :=
  "  ".toList ++ output "prop.name | ts_key" ++ ": customMap".toList ++
    output "prop.name | ts_access" ++ "(source),\n".toList

/-- A mapper function. -/
def mapper : Text :=
  head ++ tag "for prop in mapper.properties" ++ entry ++ tag "endfor" ++
    "  \x7d,\n): ".toList ++ output "mapper.target_entity_name" ++ " => (\x7b\n".toList ++
    tag "for prop in mapper.properties" ++ tag "if prop.auto_mapped" ++ copiedLine ++
    tag "else" ++ customLine ++ tag "endif" ++ tag "endfor" ++ "\x7d)\n".toList

/-- The name that the bundled template goes by. -/
def name : Text :=
  "mapper.ts.j2".toList

/-- The source of the bundled template. -/
def source : Text :=
  tag "for statement in imports" ++ output "statement" ++ ['\n'] ++ tag "endfor" ++
    tag "for mapper in mappers" ++ mapper ++ tag "endfor"

end Bundled

end ShapeMapper.Template
