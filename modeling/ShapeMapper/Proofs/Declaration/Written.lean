import ShapeMapper.Declaration.Document
import ShapeMapper.Proofs.Source.Bracketed

/-!
# Written declaration files

The items that a declaration file is made of, and how each is written: imports, shapes with
their properties, unions, and export lists. `Written.print` writes items one below the other,
and the rest says what such a file declares.
-/

namespace ShapeMapper.Written

open Source Declaration

/-- A name as declarations use it. -/
structure Name where
  first : Char
  rest : Text
  isNameStart_first : Text.isNameStart first = true
  isNameChar_rest : ∀ c ∈ rest, Text.isNameChar c = true

def Name.text (n : Name) : Text :=
  n.first :: n.rest

/-- A name, or a name under another one. -/
structure Binding where
  name : Name
  target : Option Name := none

def Binding.text (b : Binding) : Text :=
  match b.target with
  | none => b.name.text
  | some target => b.name.text ++ " as ".toList ++ target.text

/-- Bindings with commas between them. -/
def listed (bindings : List Binding) : Text :=
  ", ".toList.intercalate (bindings.map Binding.text)

/-- Bindings in braces, with some blanks on both sides. -/
def braced (blanks : Nat) (bindings : List Binding) : Text :=
  '{' :: (List.replicate blanks ' ' ++ listed bindings ++ List.replicate blanks ' ') ++ ['}']

/-! ### Imports -/

/-- What an import binds. -/
inductive Clause
  | whole (name : Name)
  | named (blanks : Nat) (bindings : List Binding)
  | both (name : Name) (blanks : Nat) (bindings : List Binding)

def Clause.text : Clause → Text
  | whole name => name.text
  | named blanks bindings => braced blanks bindings
  | both name blanks bindings => name.text ++ ", ".toList ++ braced blanks bindings

/-- An import from a file or a package. -/
structure Import where
  typeOnly : Bool
  clause : Clause
  quote : Char
  specifier : Text
  semicolon : Bool
  quote_eq : quote = '\'' ∨ quote = '"'
  specifier_ne_nil : specifier ≠ []
  not_end_of_mem : ∀ c ∈ specifier, c ≠ '\'' ∧ c ≠ '"' ∧ c ≠ '\\' ∧ c ≠ '\n'

/-- What stands between the first word of an import and its specifier. -/
def Import.middle (i : Import) : Text :=
  ' ' :: ((if i.typeOnly then "type ".toList else []) ++ i.clause.text) ++ " from ".toList

/-- An import without its semicolon. -/
def Import.statement (i : Import) : Text :=
  "import".toList ++ i.middle ++ i.quote :: i.specifier ++ [i.quote]

def Import.text (i : Import) : Text :=
  i.statement ++ if i.semicolon then [';'] else []

/-! ### Shapes -/

/-- Whether a character of a type is no part of a comment. -/
def isInner (c : Char) : Prop := c ≠ '/'

/-- Whether a character of a type neither ends its member nor is part of a comment. -/
def isLoose (c : Char) : Prop := c ≠ '/' ∧ c ≠ ';' ∧ c ≠ ',' ∧ c ≠ '\n'

instance : DecidablePred isInner := fun c => inferInstanceAs (Decidable (c ≠ '/'))

instance : DecidablePred isLoose := fun c =>
  inferInstanceAs (Decidable (c ≠ '/' ∧ c ≠ ';' ∧ c ≠ ',' ∧ c ≠ '\n'))

/-- The type of a property. -/
structure PropertyType where
  text : Text
  bracketed : Bracketed isInner isLoose text
  ne_nil : text ≠ []
  not_isBlank_head : ∀ c ∈ text.head?, Text.isBlank c = false
  not_isBlank_last : ∀ c ∈ text.getLast?, Text.isBlank c = false

/-- A type is on one line if its words have single spaces between them, and if no bar or
ampersand stands in front of them. -/
structure PropertyType.OnOneLine (t : PropertyType) : Prop where
  spaced : ∃ words : List Text, (∀ w ∈ words, w ≠ [] ∧ ∀ c ∈ w, Text.isBlank c = false) ∧
    t.text = [' '].intercalate words
  not_operator_head : ∀ c ∈ t.text.head?, c ≠ '|' ∧ c ≠ '&'

/-- A text in quotes, on one line and without escapes. -/
structure Quoted where
  quote : Char
  value : Text
  quote_eq : quote = '\'' ∨ quote = '"'
  not_end_of_mem : ∀ c ∈ value, c ≠ quote ∧ c ≠ '\\' ∧ c ≠ '\n'

def Quoted.text (q : Quoted) : Text :=
  q.quote :: (q.value ++ [q.quote])

/-- The name of a property. -/
inductive PropertyName
  | plain (n : Name)
  | quoted (q : Quoted)

def PropertyName.text : PropertyName → Text
  | plain n => n.text
  | quoted q => q.text

/-- The name without its quotes. -/
def PropertyName.value : PropertyName → Text
  | plain n => n.text
  | quoted q => q.value

/-- A property of a shape. -/
structure Property where
  readonly : Bool
  name : PropertyName
  optional : Bool
  type : PropertyType

def Property.text (p : Property) : Text :=
  (if p.readonly then "readonly ".toList else []) ++ p.name.text ++
    (if p.optional then ['?'] else []) ++ ": ".toList ++ p.type.text

/-- How a shape is exported where it is declared. -/
inductive Export
  | unexported
  | plain
  | default
  deriving DecidableEq

def Export.text : Export → Text
  | unexported => []
  | plain => "export ".toList
  | default => "export default ".toList

/-- A declaration of a shape, with the number of blanks before its properties. -/
structure Shape where
  modifier : Export
  ambient : Bool
  form : Form
  name : Name
  properties : List Property
  indent : Nat

/-- The properties of a shape, each on its line. -/
def Shape.body (s : Shape) : Text :=
  '\n' :: s.properties.flatMap fun p => List.replicate s.indent ' ' ++ p.text ++ ";\n".toList

/-- The word for a form of declarations. -/
def formWord : Form → Text
  | .interface => "interface".toList
  | .alias => "type".toList

/-- What stands between the name of a shape and its body. -/
def formOpening : Form → Text
  | .interface => " \x7b".toList
  | .alias => " = \x7b".toList

def Shape.text (s : Shape) : Text :=
  s.modifier.text ++ (if s.ambient then "declare ".toList else []) ++ formWord s.form ++ [' '] ++
    s.name.text ++ formOpening s.form ++ s.body ++ ['}']

/-! ### Unions and export lists -/

/-- The words that begin a statement. -/
def statementWords : List Text :=
  ["import", "export", "interface", "type", "declare"].map String.toList

/-- An alternative of a union. -/
inductive Alternative
  | literal (l : Literal)
  | name (n : Name) (h : n.text ∉ statementWords)

def Alternative.text : Alternative → Text
  | literal l => l.text
  | name n _ => n.text

/-- A declaration of a name for some alternatives. -/
structure Union where
  exported : Bool
  name : Name
  first : Alternative
  others : List Alternative

def Union.alternatives (u : Union) : Text :=
  u.first.text ++ u.others.flatMap fun a => " | ".toList ++ a.text

def Union.text (u : Union) : Text :=
  (if u.exported then Export.plain else .unexported).text ++ formWord .alias ++ [' '] ++
    u.name.text ++ " = ".toList ++ u.alternatives

/-- An item of a declaration file. -/
inductive Item
  | imported (i : Import)
  | shape (s : Shape)
  | union (u : Union)
  | exports (bindings : List Binding)

def Item.text : Item → Text
  | imported i => i.text
  | shape s => s.text
  | union u => u.text
  | exports bindings => "export ".toList ++ braced 1 bindings

/-- A declaration file. -/
def print (items : List Item) : Text :=
  items.flatMap fun item => item.text ++ ['\n']

/-! ### What is declared -/

/-- The import as it is found in a file. -/
def Import.declared (file : Text) (i : Import) : ImportStatement where
  file := file
  text := i.statement
  specifier := i.specifier
  relative := i.specifier.head? = some '.'

/-- The property that is declared. Its type is brought on one line. -/
def Property.declared (p : Property) : ShapeMapper.Property where
  name := p.name.value
  type := normalizeType p.type.text
  optional := p.optional

/-- The properties of a shape: each name at its first place, with its last property. -/
def Shape.declaredProperties (s : Shape) : List ShapeMapper.Property :=
  let properties := s.properties.map Property.declared
  (properties.map ShapeMapper.Property.name).eraseDups.filterMap fun name =>
    properties.reverse.find? fun p => p.name = name

/-- The imports among some items. -/
def imports (items : List Item) : List Import :=
  items.filterMap fun
    | .imported i => some i
    | _ => none

/-- The shapes among some items. -/
def shapes (items : List Item) : List Shape :=
  items.filterMap fun
    | .shape s => some s
    | _ => none

/-- The bindings of all export lists among some items. -/
def bindings (items : List Item) : List Binding :=
  items.flatMap fun
    | .exports bindings => bindings
    | _ => []

/-- Whether a binding names the default export. -/
def Binding.isDefault (b : Binding) : Bool :=
  b.target.any fun target => target.text = "default".toList

/-- The name that the last such binding of some items makes the default export. -/
def defaultName (items : List Item) : Option Text :=
  ((bindings items).filter Binding.isDefault).getLast?.map fun b => b.name.text

/-- The names that the bindings of some items export otherwise. -/
def exportedNames (items : List Item) : List Text :=
  ((bindings items).filter fun b => !b.isDefault).map fun b => b.name.text

/-- The entity that a shape among some items declares. -/
def Shape.declared (items : List Item) (s : Shape) : Entity where
  name := s.name.text
  properties := s.declaredProperties
  exported := s.modifier ≠ .unexported || defaultName items = some s.name.text ||
    (exportedNames items).any (· = s.name.text)
  isDefault := s.modifier = .default || defaultName items = some s.name.text

/-! ### Quiet items -/

/-- Some blanks, at least one. -/
def IsGap (t : Text) : Prop :=
  t ≠ [] ∧ ∀ c ∈ t, Text.isBlank c = true

/-- How an export list begins. -/
inductive ListHead : Text → Prop
  | plain {gap : Text} (h : IsGap gap) : ListHead ("export".toList ++ (gap ++ ['\x7b']))
  | typeOnly {gap gap' : Text} (h : IsGap gap) (h' : IsGap gap') :
      ListHead ("export".toList ++ (gap ++ ("type".toList ++ (gap' ++ ['\x7b']))))

/-- An item is quiet if no export list begins inside of it, and if none of the names that it
lists is the word `as`. Export lists are looked for everywhere in a file, also in its types. -/
structure Item.Quiet (item : Item) : Prop where
  not_head : ∀ head, ListHead head → ¬head <:+: item.text.tail
  ne_as : ∀ b ∈ bindings [item], b.name.text ≠ "as".toList

end ShapeMapper.Written
