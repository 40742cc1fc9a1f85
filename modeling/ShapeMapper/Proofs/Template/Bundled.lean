import Mathlib.Data.List.Basic
import ShapeMapper.Generator
import ShapeMapper.Proofs.Template.Render

/-!
# What the bundled template writes

The text of an artifact written out as a function of its imports and plans (`Artifact.text`), the
tree that the bundled template is read as (`Bundled.ofText_source`), and the equality of the two:
`TemplateChoice.render_bundled`. What an artifact holds is written as it is, so no import, name or
type is read as a part of the template.
-/

namespace ShapeMapper

/-! ### The text of an artifact -/

/-- The mark of what may be left out. -/
def optionalMark (optional : Bool) : Text :=
  if optional then ['?'] else []

/-- The line of a slot in the type of the custom functions of a mapper from `source`. -/
def Slot.declaration (source : Text) (s : Slot) : Text :=
  "    ".toList ++ Access.key s.name ++ optionalMark s.optional ++ ": (source: ".toList ++ source ++
    ") => ".toList ++ s.returnType ++ ['\n']

/-- The line of a slot in the object that a mapper makes. A property that may be copied is taken
from the custom function if there is one. -/
def Slot.assignment (s : Slot) : Text :=
  let custom := "customMap".toList ++ Access.member s.name false ++ "(source)".toList
  let value :=
    match s.route with
    | .copied => "customMap?.".toList ++ Access.member s.name true ++ " ? ".toList ++ custom ++
        " : source".toList ++ Access.member s.name false
    | .custom => custom
  "  ".toList ++ Access.key s.name ++ ": ".toList ++ value ++ ",\n".toList

/-- The mapper function of a plan, after an empty line. -/
def Plan.text (p : Plan) : Text :=
  "\nexport const map".toList ++ p.source ++ "To".toList ++ p.target ++ " = (\n".toList ++
    "  source: ".toList ++ p.source ++ ",\n".toList ++
    "  customMap".toList ++ optionalMark p.allOptional ++ ": \x7b\n".toList ++
    p.slots.flatMap (Slot.declaration p.source) ++
    "  \x7d,\n".toList ++ "): ".toList ++ p.target ++ " => (\x7b\n".toList ++
    p.slots.flatMap Slot.assignment ++ "\x7d)\n".toList

/-- The imports, each on a line of its own, and the mapper functions. -/
def Artifact.text (a : Artifact) : Text :=
  a.imports.flatMap (· ++ ['\n']) ++ a.mappers.flatMap Plan.text

namespace Template

namespace Bundled

/-! ### The tree of the template -/

/-- A field of the mapper at hand. -/
def mapperField (name : String) : Expr :=
  .field (.name "mapper".toList) name.toList

/-- A field of the property at hand. -/
def propertyField (name : String) : Expr :=
  .field (.name "prop".toList) name.toList

/-- A question mark if a test holds. -/
def markIf (test : Expr) : Expr :=
  .choice test (.string ['?']) (.string [])

/-- The property as a key. -/
def keyExpr : Expr :=
  .filtered (propertyField "name") "ts_key".toList [] .nil

/-- The access to the property. -/
def accessExpr : Expr :=
  .filtered (propertyField "name") "ts_access".toList [] .nil

/-- The guarded access to the property. -/
def guardedExpr : Expr :=
  .filtered (propertyField "name") "ts_access".toList [some "optional".toList]
    (.cons (.bool true) .nil)

/-- The entry of a property in the type of the custom functions. -/
def entryTree : Tree :=
  .data "    ".toList <| .output keyExpr <| .output (markIf (propertyField "is_optional")) <|
  .data ": (source: ".toList <| .output (mapperField "source_entity_name") <|
  .data ") => ".toList <| .output (propertyField "return_type") <| .data ['\n'] .done

/-- The line of a property that may be copied. -/
def copiedTree : Tree :=
  .data "  ".toList <| .output keyExpr <| .data ": customMap?.".toList <| .output guardedExpr <|
  .data " ? customMap".toList <| .output accessExpr <| .data "(source) : source".toList <|
  .output accessExpr <| .data ",\n".toList .done

/-- The line of a property that needs a custom function. -/
def customTree : Tree :=
  .data "  ".toList <| .output keyExpr <| .data ": customMap".toList <| .output accessExpr <|
  .data "(source),\n".toList .done

/-- A mapper function. -/
def mapperTree : Tree :=
  .data "\nexport const map".toList <| .output (mapperField "source_entity_name") <|
  .data "To".toList <| .output (mapperField "target_entity_name") <|
  .data " = (\n  source: ".toList <| .output (mapperField "source_entity_name") <|
  .data ",\n  customMap".toList <| .output (markIf (mapperField "all_custom_optional")) <|
  .data ": \x7b\n".toList <|
  .loop "prop".toList (mapperField "properties") entryTree .done <|
  .data "  \x7d,\n): ".toList <| .output (mapperField "target_entity_name") <|
  .data " => (\x7b\n".toList <|
  .loop "prop".toList (mapperField "properties")
    (.branch (propertyField "auto_mapped") copiedTree customTree .done) .done <|
  .data "\x7d)\n".toList .done

/-- The whole template. -/
def tree : Tree :=
  .loop "statement".toList (.name "imports".toList)
    (.output (.name "statement".toList) <| .data ['\n'] .done) .done <|
  .loop "mapper".toList (.name "mappers".toList) mapperTree .done .done

theorem ofText_source : Tree.ofText source = .ok tree := by
  decide +kernel

/-! ### The values that it writes -/

section values

variable {scope : Scope} {p : Plan} {s : Slot}

theorem eval_mapperField (name : String) {v : Value}
    (hmapper : scope.value "mapper".toList = .plan p)
    (hfield : (Value.plan p).field name.toList = .ok v) :
    (mapperField name).eval scope = .ok v := by
  rw [mapperField, Expr.eval_field (Expr.eval_name scope _), hmapper]
  exact hfield

theorem eval_propertyField (name : String) {v : Value}
    (hproperty : scope.value "prop".toList = .slot s)
    (hfield : (Value.slot s).field name.toList = .ok v) :
    (propertyField name).eval scope = .ok v := by
  rw [propertyField, Expr.eval_field (Expr.eval_name scope _), hproperty]
  exact hfield

theorem eval_markIf {test : Expr} {b : Bool} (h : test.eval scope = .ok (.bool b)) :
    (markIf test).eval scope = .ok (.text (optionalMark b)) := by
  rw [markIf, Expr.eval_choice h]
  cases b with
  | true => rfl
  | false => rfl

theorem eval_keyExpr (hproperty : scope.value "prop".toList = .slot s) :
    keyExpr.eval scope = .ok (.text (Access.key s.name)) := by
  have hname := eval_propertyField "name" hproperty (v := .text s.name) rfl
  exact Expr.eval_filtered hname _ [] rfl

theorem access_text (name : Text) (guarded : Bool) :
    (Value.text name).access (.bool guarded) = .ok (.text (Access.member name guarded)) := by
  cases hplain : Access.isPlain name with
  | true =>
    simp only [Value.access, hplain, if_true]
    rfl
  | false =>
    -- the name is quoted, guarded or not
    have hquoted : Access.member name guarded = Access.member name false := by
      simp [Access.member, hplain]
    rw [hquoted]
    simp only [Value.access, hplain, Bool.false_eq_true, if_false]
    rfl

theorem eval_accessExpr (hproperty : scope.value "prop".toList = .slot s) :
    accessExpr.eval scope = .ok (.text (Access.member s.name false)) := by
  have hname := eval_propertyField "name" hproperty (v := .text s.name) rfl
  exact (Expr.eval_filtered hname _ [] rfl).trans (access_text s.name false)

theorem eval_guardedExpr (hproperty : scope.value "prop".toList = .slot s) :
    guardedExpr.eval scope = .ok (.text (Access.member s.name true)) := by
  have hname := eval_propertyField "name" hproperty (v := .text s.name) rfl
  have hguarded : (Exprs.cons (.bool true) .nil).eval scope = .ok [.bool true] := rfl
  exact (Expr.eval_filtered hname _ [some "optional".toList] hguarded).trans
    (access_text s.name true)

end values

/-! ### The text that it writes -/

section texts

variable (fromFile : Bool) {scope : Scope} {p : Plan} {s : Slot}

theorem render_entryTree (hmapper : scope.value "mapper".toList = .plan p)
    (hproperty : scope.value "prop".toList = .slot s) :
    entryTree.render fromFile scope = .ok (s.declaration p.source) := by
  have hmark := eval_markIf (eval_propertyField "is_optional" hproperty
    (v := .bool s.optional) rfl)
  have hsource := eval_mapperField "source_entity_name" hmapper (v := .text p.source) rfl
  have htype := eval_propertyField "return_type" hproperty (v := .text s.returnType) rfl
  have hrender := Tree.render_data "    ".toList <| Tree.render_output (eval_keyExpr hproperty) <|
    Tree.render_output hmark <| Tree.render_data ": (source: ".toList <|
    Tree.render_output hsource <| Tree.render_data ") => ".toList <|
    Tree.render_output htype <| Tree.render_data ['\n'] (Tree.render_done fromFile _)
  unfold entryTree Slot.declaration
  refine hrender.trans (congrArg Except.ok ?_)
  simp

theorem render_copiedTree (hproperty : scope.value "prop".toList = .slot s)
    (hroute : s.route = .copied) :
    copiedTree.render fromFile scope = .ok s.assignment := by
  have haccess := eval_accessExpr hproperty
  have hrender := Tree.render_data "  ".toList <| Tree.render_output (eval_keyExpr hproperty) <|
    Tree.render_data ": customMap?.".toList <| Tree.render_output (eval_guardedExpr hproperty) <|
    Tree.render_data " ? customMap".toList <| Tree.render_output haccess <|
    Tree.render_data "(source) : source".toList <| Tree.render_output haccess <|
    Tree.render_data ",\n".toList (Tree.render_done fromFile _)
  unfold copiedTree Slot.assignment
  refine hrender.trans (congrArg Except.ok ?_)
  simp [hroute]

theorem render_customTree (hproperty : scope.value "prop".toList = .slot s)
    (hroute : s.route = .custom) :
    customTree.render fromFile scope = .ok s.assignment := by
  have hrender := Tree.render_data "  ".toList <| Tree.render_output (eval_keyExpr hproperty) <|
    Tree.render_data ": customMap".toList <| Tree.render_output (eval_accessExpr hproperty) <|
    Tree.render_data "(source),\n".toList (Tree.render_done fromFile _)
  unfold customTree Slot.assignment
  refine hrender.trans (congrArg Except.ok ?_)
  simp [hroute]

/-- The line of a property, whatever it needs. -/
theorem render_lineTree (hproperty : scope.value "prop".toList = .slot s) :
    (Tree.branch (propertyField "auto_mapped") copiedTree customTree .done).render fromFile scope =
      .ok s.assignment := by
  have htest : (propertyField "auto_mapped").eval scope = .ok (.bool (s.route = .copied)) :=
    eval_propertyField "auto_mapped" hproperty rfl
  have hbranch : (if decide (s.route = .copied) then copiedTree else customTree).render fromFile
      scope = .ok s.assignment := by
    cases hroute : s.route with
    | copied => exact render_copiedTree fromFile hproperty hroute
    | custom => exact render_customTree fromFile hproperty hroute
  have hrender := Tree.render_branch htest hbranch (Tree.render_done fromFile _)
  rwa [List.append_nil] at hrender

theorem render_mapperTree (hmapper : scope.value "mapper".toList = .plan p) :
    mapperTree.render fromFile scope = .ok p.text := by
  have hsource := eval_mapperField "source_entity_name" hmapper (v := .text p.source) rfl
  have htarget := eval_mapperField "target_entity_name" hmapper (v := .text p.target) rfl
  have hmark := eval_markIf (eval_mapperField "all_custom_optional" hmapper
    (v := .bool p.allOptional) rfl)
  have hslots : (mapperField "properties").eval scope = .ok (.list (p.slots.map .slot) true) :=
    eval_mapperField "properties" hmapper rfl
  -- inside a loop over the properties the mapper is still the same
  have hitem (s : Slot) (index size : Nat) :
      (scope.atItem "prop".toList (.slot s) index size).value "prop".toList = .slot s ∧
      (scope.atItem "prop".toList (.slot s) index size).value "mapper".toList = .plan p := by
    rw [Scope.value_atItem, Scope.value_atItem, if_pos rfl, if_neg (by decide), if_neg (by decide)]
    exact ⟨rfl, hmapper⟩
  have hentries (s : Slot) (index size : Nat) := render_entryTree fromFile
    (hitem s index size).2 (hitem s index size).1
  have hlines (s : Slot) (index size : Nat) := render_lineTree fromFile
    (hitem s index size).1
  have hrender := Tree.render_data "\nexport const map".toList <| Tree.render_output hsource <|
    Tree.render_data "To".toList <| Tree.render_output htarget <|
    Tree.render_data " = (\n  source: ".toList <| Tree.render_output hsource <|
    Tree.render_data ",\n  customMap".toList <| Tree.render_output hmark <|
    Tree.render_data ": \x7b\n".toList <| Tree.render_loop hslots hentries <|
    Tree.render_data "  \x7d,\n): ".toList <| Tree.render_output htarget <|
    Tree.render_data " => (\x7b\n".toList <| Tree.render_loop hslots hlines <|
    Tree.render_data "\x7d)\n".toList (Tree.render_done fromFile _)
  unfold mapperTree Plan.text
  refine hrender.trans (congrArg Except.ok ?_)
  simp

theorem render_tree (a : Artifact) : tree.render fromFile a.scope = .ok a.text := by
  have himports : (Expr.name "imports".toList).eval a.scope =
      .ok (.list (a.imports.map .text) false) := by
    rw [Expr.eval_name, Artifact.scope, Scope.value_cons, if_pos rfl]
  have hmappers : (Expr.name "mappers".toList).eval a.scope =
      .ok (.list (a.mappers.map .plan) false) := by
    rw [Expr.eval_name, Artifact.scope, Scope.value_cons, if_neg (by decide), Scope.value_cons,
      if_pos rfl]
  have hstatements (t : Text) (index size : Nat) :
      (Tree.output (.name "statement".toList) <| .data ['\n'] .done).render fromFile
        (a.scope.atItem "statement".toList (.text t) index size) = .ok (t ++ ['\n']) := by
    have hstatement : (Expr.name "statement".toList).eval
        (a.scope.atItem "statement".toList (.text t) index size) = .ok (.text t) := by
      rw [Expr.eval_name, Scope.value_atItem, if_pos rfl]
    exact Tree.render_output hstatement (Tree.render_data ['\n'] (Tree.render_done fromFile _))
  have hmapper (p : Plan) (index size : Nat) :
      (a.scope.atItem "mapper".toList (.plan p) index size).value "mapper".toList = .plan p := by
    rw [Scope.value_atItem, if_pos rfl]
  have hplans (p : Plan) (index size : Nat) := render_mapperTree fromFile (hmapper p index size)
  have hrender := Tree.render_loop himports hstatements <|
    Tree.render_loop hmappers hplans (Tree.render_done fromFile _)
  unfold tree Artifact.text
  rwa [List.append_nil] at hrender

end texts

end Bundled

end Template

/-- The bundled template can be rendered for every artifact. -/
theorem Artifact.renderBundled_eq (a : Artifact) : a.renderBundled = .ok a.text := by
  -- no import and no mapper goes by the name of the template itself
  have hself : (Keyed.find? Prod.fst Template.selfName a.scope).isSome = false := rfl
  rw [renderBundled, render, Template.render, Template.Bundled.ofText_source, hself]
  show (Template.Bundled.tree.render true a.scope).mapError Template.RenderFault.use = .ok a.text
  rw [Template.Bundled.render_tree]
  rfl

/-- The text of an artifact by the template that is used unless another one is named. -/
theorem TemplateChoice.render_bundled (w : Workspace) (a : Artifact) :
    (TemplateChoice.ofPath none).render w a = .ok a.text := by
  show a.renderBundled.mapError Failure.rendering = .ok a.text
  rw [a.renderBundled_eq]
  rfl

end ShapeMapper
