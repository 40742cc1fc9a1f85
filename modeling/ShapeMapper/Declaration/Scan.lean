import ShapeMapper.Declaration.Header
import ShapeMapper.Source.Comment

/-!
# The items of a source

A source without comments is read once from left to right (`scan`). String and pattern
literals are passed over, braces are counted, and outside all braces the imports and the
declarations are read as a whole. What was found before a place where reading gets stuck is
kept.
-/

namespace ShapeMapper.Declaration

open Source

/-- Something that a source declares outside all braces. -/
inductive Item
  | imported (i : ImportStatement)
  /-- A shape, with the members that are no properties. -/
  | entity (e : Entity) (unsupported : List Text)
  /-- An alias whose braces are only a part of its type. -/
  | composite (name : Text)
  deriving DecidableEq, Repr

/-- The items of a source, up to the place where reading got stuck. -/
structure Scan where
  items : List Item := []
  stuck : Option Stuck := none
  deriving DecidableEq, Repr

/-- The shape that a declaration with the given head and body declares. -/
def Item.ofBody (header : Header) (members : List Member) : Item :=
  .entity
    (Entity.ofMembers header.name (members.filterMap Member.property?) header.exported
      header.isDefault)
    (members.filterMap Member.unsupported?)

/-- Whether the braces of an alias are only a part of its type, given what follows them. -/
def isComposite (rest : Text) : Bool :=
  match Text.trimStart rest with
  | c :: _ => ['&', '|', '['].contains c
  | [] => false

/-- What a declaration declares, given its head and what follows its name, and the text from
which to read on. -/
def declared (header : Header) (t : Text) : Except Stuck (Option Item × Text) := do
  let t ← afterTypeParameters t
  match header.form with
  | .interface =>
    let cut := Cut.ofText t
    let (body, rest) ← enclosed (← openBody cut.torn 0 cut.pieces)
    return (some (Item.ofBody header (← members body)), rest)
  | .alias =>
    match openAlias t with
    | .error rest => return (none, rest)
    | .ok t =>
      let (body, rest) ← enclosed t
      if isComposite rest then return (some (.composite header.name), rest)
      return (some (Item.ofBody header (← members body)), rest)

/-- The import or declaration at the head of a text, if there is one, and the text from which
to read on. -/
def statement? (file t : Text) : Except Stuck (Option (Option Item × Text)) :=
  match import? file t with
  | some (i, rest) => .ok (some (some (.imported i), rest))
  | none =>
    match header? t with
    | some (header, rest) => (declared header rest).map some
    | none => .ok none

/-- One step of reading. -/
structure Step where
  item : Option Item := none
  /-- How many characters the step takes beside the first. -/
  further : Nat := 0
  /-- The number of open braces after the step. -/
  depth : Nat

/-- The step at a character, given the text before it in reverse and the open braces. -/
def step (file before : Text) (depth : Nat) (c : Char) (t : Text) : Except Stuck Step :=
  if isQuote c then
    match closeString? c t with
    | some (body, _) => .ok { further := body.length, depth }
    | none => .error ⟨.unclosedString, c :: t⟩
  else if c = '/' then
    .ok { further := (Pattern.read? before t).elim 0 (·.1.length), depth }
  else if c = '{' then .ok { depth := depth + 1 }
  else if c = '}' then .ok { depth := depth - 1 }
  else if depth = 0 ∧ !(before.head?.any Text.isNameChar) then do
    match ← statement? file (c :: t) with
    | some (item, rest) => return { item, further := t.length - rest.length, depth }
    | none => return { depth }
  else .ok { depth }

/-- The items of a text, given the text before it in reverse and the open braces. -/
def scan (file before : Text) (depth : Nat) : Text → Scan
  | [] => {}
  | c :: t =>
    match step file before depth c t with
    | .error stuck => { stuck := some stuck }
    | .ok s =>
      let later :=
        scan file ((t.take s.further).reverse ++ c :: before) s.depth (t.drop s.further)
      { later with items := s.item.toList ++ later.items }
termination_by t => t.length
decreasing_by exact Text.length_drop_lt ..

end ShapeMapper.Declaration
