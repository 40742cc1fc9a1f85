import ShapeMapper.Template.Tree
import ShapeMapper.Template.Value

/-!
# Rendering templates

The value of an expression (`Expr.eval`) and the text of a template (`Tree.render`) among
named values. A loop binds its variable and the name `loop` for its body only. Every template
stands alone: there is no other one that it could include.
-/

namespace ShapeMapper.Template

/-- Named values; of two with one name the first counts. -/
abbrev Scope := List (Text × Value)

/-- Why a template cannot be rendered. -/
inductive RenderFault
  | malformed (fault : Fault)
  | use (fault : UseFault)
  deriving DecidableEq, Repr

/-- A fault in words. There are none for a value of the wrong kind, which is not a fault of
the template. -/
def RenderFault.detail? : RenderFault → Option Text
  | malformed fault => some fault.message
  | use (.missing m) => some m.message
  | use (.unknownFilter name) =>
    some ("No filter named ".toList ++ Fault.quoted name ++ " found.".toList)
  | use (.noTemplate name) => some ("template not found: ".toList ++ name)
  | use (.noChoice true) => some "template not found: None".toList
  | use (.noChoice false) => some "Tried to select from an empty list of templates.".toList
  | use (.unsupported u) => some u.message
  | use .wrongKind => none

/-- A class under its full name. -/
def classValue (name : String) : Value :=
  .operation "type object".toList ("<class ".toList ++ Text.Listed.encode name.toList ++ ['>'])

/-- What has a name in every template. -/
def standing : Scope :=
  [("range".toList, classValue "range"),
    ("dict".toList, classValue "dict"),
    ("cycler".toList, classValue "jinja2.utils.Cycler"),
    ("joiner".toList, classValue "jinja2.utils.Joiner"),
    ("namespace".toList, classValue "jinja2.utils.Namespace"),
    ("lipsum".toList,
      .operation "function object".toList "<function generate_lorem_ipsum>".toList)]

/-- The value of a name. -/
def Scope.value (scope : Scope) (name : Text) : Value :=
  (((Keyed.find? Prod.fst name scope).or (Keyed.find? Prod.fst name standing)).map
    Prod.snd).getD (.missing (.name name))

/-- The value of a number in a template. -/
def Literal.Number.eval : Literal.Number → Value
  | integer n => .integer n
  | decimal d => .decimal d.toFloat

/-- The record with some keys and values. The keys are looked at after all values are there. -/
def Value.ofEntries (entries : List (Value × Value)) : Except UseFault Value := do
  let names ← entries.mapM fun entry => entry.1.entryName
  return .record (Keyed.ofList Prod.fst (names.zip (entries.map Prod.snd)))

mutual

/-- The value of an expression. -/
def Expr.eval (scope : Scope) : Expr → Except UseFault Value
  | .name n => .ok (scope.value n)
  | .string s => .ok (.text s)
  | .number n => .ok n.eval
  | .bool b => .ok (.bool b)
  | .absent => .ok .absent
  | .list items fixed => do return .list (← items.eval scope) fixed
  | .record entries => do Value.ofEntries (← entries.eval scope)
  | .field object n => do (← object.eval scope).field n
  | .item object key => do (← object.eval scope).item (← key.eval scope)
  | .filtered value filter labels arguments => do
    (← value.eval scope).filter filter (labels.zip (← arguments.eval scope))
  | .negated value => do return .bool (!(← (← value.eval scope).test))
  | .choice test yes no => do
    if ← (← test.eval scope).test then yes.eval scope else no.eval scope

/-- The values of several expressions. -/
def Exprs.eval (scope : Scope) : Exprs → Except UseFault (List Value)
  | .nil => .ok []
  | .cons e es => do return (← e.eval scope) :: (← es.eval scope)

/-- The keys and values of the entries of a record, entry by entry. -/
def Entries.eval (scope : Scope) : Entries → Except UseFault (List (Value × Value))
  | .nil => .ok []
  | .cons key value es => do
    return (← key.eval scope, ← value.eval scope) :: (← es.eval scope)

end

/-- The scope of a loop's body at one item. -/
def Scope.atItem (scope : Scope) (x : Text) (item : Value) (index size : Nat) : Scope :=
  (x, item) :: (stateName, .loop index size) :: scope

/-- Whether a template can be looked for under a value. There is none under what is missing. -/
def Value.isSought : Value → Bool
  | text _ | missing _ => true
  | _ => false

/-- Why none of several templates can be included. All are looked for, and the last one is told. -/
def Value.choiceFault (names : List Value) : UseFault :=
  if names.all isSought then
    match names.getLast? with
    | some (text name) => .noTemplate name
    | _ => .wrongKind
  else .wrongKind

/-- Why the template that a value names, or any of several, cannot be included. Only a template
that comes from a file has a place where others are looked for. -/
def Value.inclusionFault (fromFile : Bool) : Value → UseFault
  | missing m => if fromFile then .missing m else .wrongKind
  | text name => if fromFile then .noTemplate name else .wrongKind
  | list (name :: names) _ => if fromFile then choiceFault (name :: names) else .wrongKind
  | value =>
    match value.test with
    | .ok false => .noChoice fromFile
    | _ => .wrongKind

/-- The text of a template. One that comes from a file looks for the templates that it
includes, and finds none. -/
def Tree.render (fromFile : Bool) (scope : Scope) : Tree → Except UseFault Text
  | done => .ok []
  | data t next => do return t ++ (← next.render fromFile scope)
  | output value next => do
    let t ← (← value.eval scope).print
    return t ++ (← next.render fromFile scope)
  | loop x range body orElse next => do
    let items ← (← range.eval scope).items
    let texts ←
      if items.isEmpty then orElse.render fromFile scope
      else
        List.flatten <$> (items.zipIdx 1).mapM fun (item, index) =>
          body.render fromFile (scope.atItem x item index items.length)
    return texts ++ (← next.render fromFile scope)
  | branch test yes no next => do
    let t ←
      if ← (← test.eval scope).test then yes.render fromFile scope
      else no.render fromFile scope
    return t ++ (← next.render fromFile scope)
  | inclusion template _ => do throw ((← template.eval scope).inclusionFault fromFile)

/-- The name of the template itself, which no value may have. -/
def selfName : Text :=
  "self".toList

/-- The text of the template that a source writes. -/
def render (fromFile : Bool) (source : Text) (scope : Scope) : Except RenderFault Text := do
  let tree ← (Tree.ofText source).mapError .malformed
  if (Keyed.find? Prod.fst selfName scope).isSome then throw (.use .wrongKind)
  (tree.render fromFile scope).mapError .use

end ShapeMapper.Template
