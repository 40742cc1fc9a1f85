import ShapeMapper.Decimal.Shortest
import ShapeMapper.Json.Basic
import ShapeMapper.Plan.Access
import ShapeMapper.Plan.Basic
import ShapeMapper.Text.Listed

/-!
# Template values

The values that a template's expressions have, and what a template can do with them: print
them, test them, go through their items, reach into them and apply a filter. A name or a
field that does not exist has a value too, which may be handed on but not used.
-/

namespace ShapeMapper.Template

/-- A name, a field or an item that does not exist. -/
inductive Missing
  | name (name : Text)
  | field (kind name : Text)
  /-- An item by a key that is no name, as it is listed. -/
  | item (kind key : Text)
  deriving DecidableEq, Repr

/-- What is missing, in words. -/
def Missing.message : Missing → Text
  | name n => Text.Listed.encode n ++ " is undefined".toList
  | field kind n =>
    '\'' :: kind ++ "' has no attribute ".toList ++ Text.Listed.encode n
  | item kind key => kind ++ " has no element ".toList ++ key

/-- A value in a template. -/
inductive Value
  | absent
  | bool (b : Bool)
  | integer (n : Int)
  | decimal (x : Float)
  | text (t : Text)
  /-- A list; `fixed` for one that cannot grow. -/
  | list (items : List Value) (fixed : Bool)
  | record (fields : List (Text × Value))
  | plan (p : Plan)
  | slot (s : Slot)
  | route (r : Route)
  /-- The state of a loop at the item of the given index. -/
  | loop (index size : Nat)
  /-- A function or a class, which can be shown and tested but not applied. -/
  | operation (kind shown : Text)
  | missing (m : Missing)

/-- A use of a value that is not supported. -/
inductive Unsupported
  /-- A key of a record that is no text. -/
  | key
  /-- Joining a part of each item instead of the items. -/
  | part
  /-- Going through the state of a loop, which would take items from the loop. -/
  | state
  deriving DecidableEq, Repr

/-- What is not supported, in words. -/
def Unsupported.message : Unsupported → Text
  | key => "a key that is no text is not supported".toList
  | part => "joining parts of the items is not supported".toList
  | state => "going through the state of a loop is not supported".toList

/-- Why a template that was read cannot be rendered. -/
inductive UseFault
  /-- Something is used that does not exist. -/
  | missing (m : Missing)
  | unknownFilter (name : Text)
  | noTemplate (name : Text)
  /-- There is nothing to choose a template from. -/
  | noChoice (fromFile : Bool)
  | unsupported (use : Unsupported)
  /-- A value is of a kind that the operation does not take. -/
  | wrongKind
  deriving DecidableEq, Repr

namespace Value

/-- The second part of a pair in a list is smaller than the list. -/
theorem sizeOf_snd_lt {α β : Type} [SizeOf α] [SizeOf β] {p : α × β} {l : List (α × β)}
    (h : p ∈ l) : sizeOf p.2 < sizeOf l := by
  obtain ⟨a, b⟩ := p
  have hab : sizeOf (a, b) = 1 + sizeOf a + sizeOf b := Prod.mk.sizeOf_spec a b
  have := List.sizeOf_lt_of_mem h
  show sizeOf b < sizeOf l
  omega

/-- The value that a JSON value stands for. -/
def ofJson : Json → Value
  | .null => absent
  | .bool b => bool b
  | .integer n => integer n
  | .decimal x => decimal x
  | .text t => text t
  | .list items => list (items.map ofJson) false
  | .object fields => record (fields.map fun field => (field.1, ofJson field.2))
decreasing_by
  · rw [Json.list.sizeOf_spec]
    exact Nat.lt_add_left 1 (List.sizeOf_lt_of_mem ‹_›)
  · rw [Json.object.sizeOf_spec]
    exact Nat.lt_add_left 1 (sizeOf_snd_lt ‹_›)

/-- The kind of a value in a message. -/
def kind : Value → Text
  | absent => "None".toList
  | bool _ => "bool object".toList
  | integer _ => "int object".toList
  | decimal _ => "float object".toList
  | text _ => "str object".toList
  | list _ false => "list object".toList
  | list _ true => "tuple object".toList
  | record _ => "dict object".toList
  | plan _ => "ts_mapper.mapping.plan.MappingPlan object".toList
  | slot _ => "ts_mapper.mapping.plan.PropertyClassification object".toList
  | route _ => "ts_mapper.core.enums.PropertyKind object".toList
  | loop .. => "jinja2.runtime.LoopContext object".toList
  | operation kind _ => kind
  | missing _ => []

/-! ### Printing -/

/-- The two truth values as words. -/
def boolText (b : Bool) : Text :=
  if b then "True".toList else "False".toList

/-- The name of a route. -/
def routeName : Route → Text
  | .copied => "AUTO_MAPPED".toList
  | .custom => "CUSTOM_MAP_REQUIRED".toList

/-- The name of a route in lower case. -/
def routeCode : Route → Text
  | .copied => "auto_mapped".toList
  | .custom => "custom_map_required".toList

/-- A route as it is printed. -/
def routeLabel (r : Route) : Text :=
  "PropertyKind.".toList ++ routeName r

/-- A route as it is listed. -/
def routeText (r : Route) : Text :=
  '<' :: routeLabel r ++ ": ".toList ++ Text.Listed.encode (routeCode r) ++ ['>']

/-- Items in brackets; a fixed list of one item keeps its comma. -/
def listText (items : List Text) (fixed : Bool) : Text :=
  let inner := ", ".toList.intercalate items
  if fixed then '(' :: inner ++ (if items.length = 1 then [','] else []) ++ [')']
  else '[' :: inner ++ [']']

/-- A slot as it is listed. -/
def slotText (s : Slot) : Text :=
  "PropertyClassification(name=".toList ++ Text.Listed.encode s.name ++
    ", kind=".toList ++ routeText s.route ++
    ", return_type=".toList ++ Text.Listed.encode s.returnType ++
    ", is_optional=".toList ++ boolText s.optional ++ [')']

/-- A plan as it is listed. -/
def planText (p : Plan) : Text :=
  "MappingPlan(source_entity_name=".toList ++ Text.Listed.encode p.source ++
    ", target_entity_name=".toList ++ Text.Listed.encode p.target ++
    ", properties=".toList ++ listText (p.slots.map slotText) true ++
    ", all_custom_optional=".toList ++ boolText p.allOptional ++ [')']

/-- A whole number in base ten. -/
def integerText (n : Int) : Text :=
  if n < 0 then '-' :: Text.ofNat n.natAbs else Text.ofNat n.natAbs

/-- The exponent of a decimal, with its sign and at least two digits. -/
def exponentText (e : Int) : Text :=
  let digits := Text.ofNat e.natAbs
  'e' :: (if e < 0 then '-' else '+') :: (List.replicate (2 - digits.length) '0' ++ digits)

/-- A decimal without its sign: positional from four zeros after the point up to sixteen
digits before it, and with an exponent outside. -/
def positiveText (d : Decimal) : Text :=
  let digits := ((Text.ofNat d.digits).reverse.dropWhile (· = '0')).reverse
  let point : Int := (Text.ofNat d.digits).length + d.exponent
  if -4 < point ∧ point ≤ 16 then
    if point ≤ 0 then '0' :: '.' :: (List.replicate (-point).toNat '0' ++ digits)
    else
      let whole := digits.take point.toNat
      let fraction := digits.drop point.toNat
      whole ++ List.replicate (point.toNat - digits.length) '0' ++ '.' ::
        (if fraction = [] then ['0'] else fraction)
  else
    digits.take 1 ++ (if digits.length = 1 then [] else '.' :: digits.drop 1) ++
      exponentText (point - 1)

/-- A number with a fraction or an exponent, by the shortest decimal that reads back. -/
def decimalText (x : Float) : Text :=
  if x.isNaN then "nan".toList
  else
    (if x.toBits < 0x8000000000000000 then [] else ['-']) ++
      if x.isInf then "inf".toList
      else if x == 0 then "0.0".toList
      else positiveText (Decimal.Binary.ofFloat x).shortest

/-- A value as it is shown in the listing of another. -/
def listed : Value → Text
  | absent => "None".toList
  | bool b => boolText b
  | integer n => integerText n
  | decimal x => decimalText x
  | text t => Text.Listed.encode t
  | list items fixed => listText (items.map listed) fixed
  | record fields =>
    '\x7b' :: ", ".toList.intercalate (fields.map fun field =>
      Text.Listed.encode field.1 ++ ": ".toList ++ listed field.2) ++ ['\x7d']
  | plan p => planText p
  | slot s => slotText s
  | route r => routeText r
  | loop index size =>
    "<LoopContext ".toList ++ Text.ofNat index ++ '/' :: Text.ofNat size ++ ['>']
  | operation _ shown => shown
  | missing _ => "Undefined".toList
decreasing_by
  · rw [list.sizeOf_spec]
    exact Nat.lt_add_right _ (Nat.lt_add_left 1 (List.sizeOf_lt_of_mem ‹_›))
  · rw [record.sizeOf_spec]
    exact Nat.lt_add_left 1 (sizeOf_snd_lt ‹_›)

/-- The text that an output writes. -/
def print : Value → Except UseFault Text
  | text t => .ok t
  | route r => .ok (routeLabel r)
  | missing m => .error (.missing m)
  | value => .ok value.listed

/-! ### Use -/

/-- Whether a branch is taken. -/
def test : Value → Except UseFault Bool
  | absent => .ok false
  | bool b => .ok b
  | integer n => .ok (n ≠ 0)
  | decimal x => .ok (x != 0)
  | text t => .ok (t ≠ [])
  | list items _ => .ok (!items.isEmpty)
  | record fields => .ok (!fields.isEmpty)
  | plan _ | slot _ | route _ | loop .. | operation .. => .ok true
  | missing m => .error (.missing m)

/-- What a loop goes through. -/
def items : Value → Except UseFault (List Value)
  | list items _ => .ok items
  | text t => .ok (t.map fun c => text [c])
  | record fields => .ok (fields.map fun (name, _) => text name)
  | loop .. => .error (.unsupported .state)
  | missing m => .error (.missing m)
  | _ => .error .wrongKind

/-- A field of a plan. -/
def planField? (p : Plan) (name : Text) : Option Value :=
  if name = "source_entity_name".toList then some (text p.source)
  else if name = "target_entity_name".toList then some (text p.target)
  else if name = "properties".toList then some (list (p.slots.map slot) true)
  else if name = "all_custom_optional".toList then some (bool p.allOptional)
  else if name = "auto_mapped".toList then some (list (p.copied.map text) false)
  else if name = "custom_required".toList then some (list (p.required.map text) false)
  else none

/-- A field of a slot. -/
def slotField? (s : Slot) (name : Text) : Option Value :=
  if name = "name".toList then some (text s.name)
  else if name = "kind".toList then some (route s.route)
  else if name = "return_type".toList then some (text s.returnType)
  else if name = "is_optional".toList then some (bool s.optional)
  else if name = "auto_mapped".toList then some (bool (s.route = .copied))
  else none

/-- A field of a route. -/
def routeField? (r : Route) (name : Text) : Option Value :=
  if name = "name".toList then some (text (routeName r))
  else if name = "value".toList then some (text (routeCode r))
  else none

/-- A field of the state of a loop. -/
def loopField? (index size : Nat) (name : Text) : Option Value :=
  if name = "index".toList then some (integer index)
  else if name = "index0".toList then some (integer (index - 1))
  else if name = "revindex".toList then some (integer (size - index + 1))
  else if name = "revindex0".toList then some (integer (size - index))
  else if name = "first".toList then some (bool (index = 1))
  else if name = "last".toList then some (bool (index = size))
  else if name = "length".toList then some (integer size)
  else none

/-- A field of a whole number. -/
def integerField? (n : Int) (name : Text) : Option Value :=
  if name = "real".toList ∨ name = "numerator".toList then some (integer n)
  else if name = "imag".toList then some (integer 0)
  else if name = "denominator".toList then some (integer 1)
  else none

/-- A field of a number with a fraction. -/
def decimalField? (x : Float) (name : Text) : Option Value :=
  if name = "real".toList then some (decimal x)
  else if name = "imag".toList then some (decimal 0)
  else none

/-- The operations that a value has by the kind of it. -/
def operations : Value → List Text
  | text _ =>
    ["capitalize", "casefold", "center", "count", "encode", "endswith", "expandtabs", "find",
      "format", "format_map", "index", "isalnum", "isalpha", "isascii", "isdecimal", "isdigit",
      "isidentifier", "islower", "isnumeric", "isprintable", "isspace", "istitle", "isupper",
      "join", "ljust", "lower", "lstrip", "maketrans", "partition", "removeprefix",
      "removesuffix", "replace", "rfind", "rindex", "rjust", "rpartition", "rsplit", "rstrip",
      "split", "splitlines", "startswith", "strip", "swapcase", "title", "translate", "upper",
      "zfill"].map String.toList
  | list _ false =>
    ["append", "clear", "copy", "count", "extend", "index", "insert", "pop", "remove",
      "reverse", "sort"].map String.toList
  | list _ true => ["count", "index"].map String.toList
  | record _ =>
    ["clear", "copy", "fromkeys", "get", "items", "keys", "pop", "popitem", "setdefault",
      "update", "values"].map String.toList
  | bool _ | integer _ =>
    ["as_integer_ratio", "bit_count", "bit_length", "conjugate", "from_bytes",
      "to_bytes"].map String.toList
  | decimal _ =>
    ["as_integer_ratio", "conjugate", "fromhex", "hex", "is_integer"].map String.toList
  | _ => []

/-- What a value has under a name by its kind, whatever it holds. -/
def attribute? (value : Value) (name : Text) : Option Value :=
  if value.operations.contains name then
    some (operation "builtin_function_or_method object".toList
      ("<built-in method ".toList ++ name ++ " of ".toList ++ value.kind ++ ['>']))
  else
    match value with
    | bool b => integerField? (if b then 1 else 0) name
    | integer n => integerField? n name
    | decimal x => decimalField? x name
    | plan p => planField? p name
    | slot s => slotField? s name
    | route r => routeField? r name
    | loop index size => loopField? index size name
    | _ => none

/-- The value of a key that a record holds. -/
def entry? (value : Value) (name : Text) : Option Value :=
  match value with
  | record fields => (Keyed.find? Prod.fst name fields).map Prod.snd
  | _ => none

/-- The field of a value. What it has by its kind comes before what it holds. -/
def field (value : Value) (name : Text) : Except UseFault Value :=
  match value with
  | missing m => .error (.missing m)
  | value =>
    .ok (((value.attribute? name).or (value.entry? name)).getD (missing (.field value.kind name)))

/-- The place that a key stands for in a list of some length; a negative one counts from the
end. -/
def position? (key : Value) (length : Nat) : Option Nat :=
  match key with
  | bool b => some (if b then 1 else 0)
  | integer n =>
    if 0 ≤ n then some n.toNat
    else if n.natAbs ≤ length then some (length - n.natAbs)
    else none
  | _ => none

/-- The item of a value by a key that is no name. -/
def itemAt? (value key : Value) : Option Value :=
  match value with
  | list items _ => (key.position? items.length).bind fun n => items[n]?
  | text t => (key.position? t.length).bind fun n => t[n]?.map fun c => text [c]
  | _ => none

/-- The item of a value by a name or another key. What a value holds under a name comes
before what it has by its kind. -/
def item (value key : Value) : Except UseFault Value :=
  match value, key with
  | missing m, _ | record _, missing m => .error (.missing m)
  | value, text name =>
    .ok (((value.entry? name).or (value.attribute? name)).getD (missing (.field value.kind name)))
  | value, key => .ok ((value.itemAt? key).getD (missing (.item value.kind key.listed)))

/-! ### Filters -/

/-- An argument of a filter, with the label it was given. -/
abbrev Argument := Option Text × Value

/-- A value as a key of a record. A list that can grow and a record are no keys. -/
def entryName : Value → Except UseFault Text
  | text t => .ok t
  | list _ false | record _ => .error .wrongKind
  | missing m => .error (.missing m)
  | _ => .error (.unsupported .key)

/-- The items of a value as one text. -/
def join (value separator : Value) : Except UseFault Value := do
  let separator ← separator.print
  let texts ← (← value.items).mapM print
  return text (separator.intercalate texts)

/-- The number of items of a value. -/
def length (value : Value) : Except UseFault Value :=
  match value with
  | loop _ size => .ok (integer size)
  | value => value.items.map fun items => integer items.length

/-- A property name as a key. -/
def key : Value → Except UseFault Value
  | text t => .ok (text (Access.key t))
  | _ => .error .wrongKind

/-- A property name as an access. Whether the access is guarded is asked only of a plain
name, since any other is written the same in both cases. -/
def access (value guarded : Value) : Except UseFault Value :=
  match value with
  | text t => do
    let guarded ← if Access.isPlain t then guarded.test else pure false
    return text (Access.member t guarded)
  | _ => .error .wrongKind

/-- Whether the arguments of a join name an attribute, with a separator or without. -/
def namesAttribute : List Argument → Bool
  | [(some label, _)] => label = "attribute".toList
  | [(none, _), (label?, _)] => label? = none || label? = some "attribute".toList
  | [(some label, _), (some label', _)] =>
    [(label, label'), (label', label)].contains (['d'], "attribute".toList)
  | _ => false

/-- A filter applied to a value. -/
def filter (value : Value) (name : Text) (arguments : List Argument) : Except UseFault Value :=
  if name = "join".toList then
    if namesAttribute arguments then do
      let _ ← value.items
      throw (.unsupported .part)
    else
      match arguments with
      | [] => value.join (text [])
      | [(none, separator)] => value.join separator
      | [(some label, separator)] =>
        if label = ['d'] then value.join separator else .error .wrongKind
      | _ => .error .wrongKind
  else if name = "length".toList then
    if arguments.isEmpty then value.length else .error .wrongKind
  else if name = "ts_key".toList then
    if arguments.isEmpty then value.key else .error .wrongKind
  else if name = "ts_access".toList then
    match arguments with
    | [] => value.access (bool false)
    | [(none, guarded)] => value.access guarded
    | [(some label, guarded)] =>
      if label = "optional".toList then value.access guarded else .error .wrongKind
    | _ => .error .wrongKind
  else .error (.unknownFilter name)

end Value

end ShapeMapper.Template
