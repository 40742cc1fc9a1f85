import ShapeMapper.Decimal.Basic
import ShapeMapper.Json.Basic
import ShapeMapper.Text.Hexadecimal

/-!
# Reading JSON

Reading a JSON text, with the place where it goes wrong (`Json.parse`). Beside the standard,
`NaN`, `Infinity` and `-Infinity` are numbers. A surrogate that is escaped without its other
half is read as the replacement character.

A reader takes a text and gives what it read with the rest; a failure is a fault with the
text from its place on.
-/

namespace ShapeMapper.Json

/-- What is wrong with a JSON text. -/
inductive Fault
  | byteOrderMark
  | expectedValue
  | expectedName
  | expectedColon
  | expectedComma
  | extraData
  | unterminatedString
  | controlCharacter
  | invalidEscape
  | invalidUnicodeEscape
  deriving DecidableEq, Repr

/-- A fault in words. -/
def Fault.message : Fault → Text
  | byteOrderMark => "Unexpected UTF-8 BOM (decode using utf-8-sig)".toList
  | expectedValue => "Expecting value".toList
  | expectedName => "Expecting property name enclosed in double quotes".toList
  | expectedColon => "Expecting ':' delimiter".toList
  | expectedComma => "Expecting ',' delimiter".toList
  | extraData => "Extra data".toList
  | unterminatedString => "Unterminated string starting at".toList
  | controlCharacter => "Invalid control character at".toList
  | invalidEscape => "Invalid \\escape".toList
  | invalidUnicodeEscape => "Invalid \\uXXXX escape".toList

/-- A fault, and the text before its place. -/
structure Malformed where
  fault : Fault
  before : Text
  deriving DecidableEq, Repr

/-- The fault with its line, its column and its offset; lines and columns count from one. -/
def Malformed.message (e : Malformed) : Text :=
  let line := e.before.count '\n' + 1
  let column := (e.before.reverse.takeWhile (· ≠ '\n')).length + 1
  e.fault.message ++ ": line ".toList ++ Text.ofNat line ++ " column ".toList ++
    Text.ofNat column ++ " (char ".toList ++ Text.ofNat e.before.length ++ [')']

/-- What a reader gives: a value and the rest of the text, or a fault and the text from its
place on. -/
abbrev Reading (α : Type) := Except (Fault × Text) (α × Text)

/-- The blanks between tokens. -/
def isSpace (c : Char) : Bool :=
  c = ' ' || c = '\t' || c = '\n' || c = '\r'

/-- A text without the blanks at its start. -/
def skipSpace (t : Text) : Text :=
  t.dropWhile isSpace

/-! ### Strings -/

/-- The character of a one-letter escape. -/
def escaped? : Char → Option Char
  | '"' => some '"'
  | '\\' => some '\\'
  | '/' => some '/'
  | 'b' => some '\x08'
  | 'f' => some '\x0c'
  | 'n' => some '\n'
  | 'r' => some '\r'
  | 't' => some '\t'
  | _ => none

/-- The character that stands for half of a surrogate pair. -/
def replacement : Char := '\uFFFD'

/-- A leading surrogate that was left alone, in front of a text. -/
def flush (high : Option Nat) (t : Text) : Text :=
  if high.isSome then replacement :: t else t

/-- A UTF-16 unit in front of a text, given the leading surrogate before it. -/
def unit (high : Option Nat) (n : Nat) (t : Text) : Text :=
  if 0xDC00 ≤ n ∧ n < 0xE000 then
    match high with
    | some h => Char.ofNat (0x10000 + (h - 0xD800) * 0x400 + (n - 0xDC00)) :: t
    | none => replacement :: t
  else flush high (Char.ofNat n :: t)

/-- The rest of a string up to its closing quote. `start` is the text from the opening quote
on, and `high` a leading surrogate that was just read. -/
def string (start : Text) (high : Option Nat) : Text → Reading Text
  | [] => .error (.unterminatedString, start)
  | '"' :: t => .ok (flush high [], t)
  | ['\\'] => .error (.unterminatedString, start)
  | '\\' :: 'u' :: a :: b :: c :: d :: e :: t =>
    match Text.hexNumber? [a, b, c, d] with
    | none => .error (.invalidUnicodeEscape, 'u' :: a :: b :: c :: d :: e :: t)
    | some n =>
      if 0xD800 ≤ n ∧ n < 0xDC00 then
        (string start (some n) (e :: t)).map fun (s, rest) => (flush high s, rest)
      else (string start none (e :: t)).map fun (s, rest) => (unit high n s, rest)
  | '\\' :: 'u' :: t => .error (.invalidUnicodeEscape, 'u' :: t)
  | '\\' :: c :: t =>
    match escaped? c with
    | none => .error (.invalidEscape, '\\' :: c :: t)
    | some c => (string start none t).map fun (s, rest) => (flush high (c :: s), rest)
  | c :: t =>
    if c < ' ' then .error (.controlCharacter, c :: t)
    else (string start none t).map fun (s, rest) => (flush high (c :: s), rest)

/-! ### Numbers -/

/-- The digits of a number's integral part, which starts with a zero only if it is zero. -/
def integralPart? : Text → Option (Text × Text)
  | '0' :: t => some (['0'], t)
  | c :: t => if c.isDigit then some ((c :: t).span Char.isDigit) else none
  | [] => none

/-- The digits of a fraction; none if the text does not begin with one. -/
def fraction (t : Text) : Text × Text :=
  match t with
  | '.' :: c :: t' => if c.isDigit then (c :: t').span Char.isDigit else ([], t)
  | _ => ([], t)

/-- An exponent with its sign; none if the text does not begin with one. -/
def exponent? (t : Text) : Option (Int × Text) :=
  match t with
  | e :: t' =>
    if e = 'e' ∨ e = 'E' then
      let (negative, t') :=
        match t' with
        | '-' :: t => (true, t)
        | '+' :: t => (false, t)
        | t => (false, t)
      let (digits, rest) := t'.span Char.isDigit
      if digits = [] then none
      else some (if negative then -(Text.toNat digits : Int) else Text.toNat digits, rest)
    else none
  | [] => none

/-- The value of a number that is no integer. -/
def fractional (negative : Bool) (digits : Text) (exponent : Int) : Json :=
  let x := Decimal.toFloat ⟨Text.toNat digits, exponent⟩
  .decimal (if negative then -x else x)

/-- A number after its sign. -/
def unsigned? (negative : Bool) (t : Text) : Option (Json × Text) := do
  let (integral, t) ← integralPart? t
  let (fraction, t) := fraction t
  match exponent? t with
  | some (e, t) =>
    some (fractional negative (integral ++ fraction) (e - fraction.length), t)
  | none =>
    if fraction = [] then
      some (.integer (if negative then -(Text.toNat integral : Int) else Text.toNat integral), t)
    else some (fractional negative (integral ++ fraction) (-fraction.length), t)

/-- The words that are values, longest first where one begins another. -/
def words : List (Text × Json) :=
  [("null".toList, .null), ("true".toList, .bool true), ("false".toList, .bool false),
    ("NaN".toList, .decimal (0.0 / 0.0)), ("Infinity".toList, .decimal (1.0 / 0.0)),
    ("-Infinity".toList, .decimal (-1.0 / 0.0))]

/-- A number, or a word that is a value. -/
def atom (t : Text) : Reading Json :=
  let word := words.findSome? fun (word, value) => (Text.after? word t).map (value, ·)
  let number :=
    match t with
    | '-' :: t => unsigned? true t
    | t => unsigned? false t
  match word.or number with
  | some r => .ok r
  | none => .error (.expectedValue, t)

/-! ### Values -/

mutual

/-- The value at the head of a text. Every call takes at least one character, so as much fuel
as there are characters is enough. -/
def value : (fuel : Nat) → Text → Reading Json
  | 0, t => .error (.expectedValue, t)
  | fuel + 1, t =>
    match t with
    | '"' :: rest => (string t none rest).map fun (s, rest) => (.text s, rest)
    | '[' :: rest =>
      match skipSpace rest with
      | ']' :: rest => .ok (.list [], rest)
      | rest => (items fuel rest).map fun (items, rest) => (.list items, rest)
    | '{' :: rest =>
      match skipSpace rest with
      | '}' :: rest => .ok (.object [], rest)
      | rest => (fields fuel rest).map fun (fields, rest) => (ofFields fields, rest)
    | t => atom t

/-- The items of a list up to its closing bracket. -/
def items : (fuel : Nat) → Text → Except (Fault × Text) (List Json × Text)
  | 0, t => .error (.expectedValue, t)
  | fuel + 1, t => do
    let (item, t) ← value fuel t
    match skipSpace t with
    | ']' :: t => return ([item], t)
    | ',' :: t =>
      let (later, t) ← items fuel (skipSpace t)
      return (item :: later, t)
    | t => throw (.expectedComma, t)

/-- The fields of an object up to its closing brace. -/
def fields : (fuel : Nat) → Text → Except (Fault × Text) (List (Text × Json) × Text)
  | 0, t => .error (.expectedName, t)
  | fuel + 1, t => do
    let '"' :: rest := t | throw (.expectedName, t)
    let (name, t) ← string t none rest
    let ':' :: t := skipSpace t | throw (.expectedColon, skipSpace t)
    let (item, t) ← value fuel (skipSpace t)
    match skipSpace t with
    | '}' :: t => return ([(name, item)], t)
    | ',' :: t =>
      let (later, t) ← fields fuel (skipSpace t)
      return ((name, item) :: later, t)
    | t => throw (.expectedComma, t)

end

/-- The value of a whole text. -/
def document (t : Text) : Except (Fault × Text) Json := do
  if t.head? = some '\uFEFF' then throw (.byteOrderMark, t)
  let (value, rest) ← value (2 * t.length + 1) (skipSpace t)
  if skipSpace rest = [] then return value
  throw (.extraData, skipSpace rest)

/-- Reads a JSON text. -/
def parse (t : Text) : Except Malformed Json :=
  (document t).mapError fun (fault, rest) => ⟨fault, t.take (t.length - rest.length)⟩

end ShapeMapper.Json
