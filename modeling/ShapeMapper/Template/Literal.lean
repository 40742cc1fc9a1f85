import ShapeMapper.Decimal.Basic
import ShapeMapper.Text.CharacterName
import ShapeMapper.Text.Digit

/-!
# Literals in templates

How strings and numbers are written in a template.

* `Literal.body?`: what stands between the quotes of a string;
* `Literal.decode`: the text that it means, by its escapes;
* `Literal.number?`: a number at the head of a text.

An escape is read in the ASCII form of a string, in which every other character is an escape
of its code. So a backslash in front of such a character takes the backslash of its escape.
-/

namespace ShapeMapper.Template.Literal

/-- What is wrong with an escape. -/
inductive Fault
  /-- There are fewer digits than the letter asks for. -/
  | truncated (letter : Char) (width : Nat)
  /-- The digits are no code of a character. -/
  | noCharacter
  | malformedName
  | unknownName
  deriving DecidableEq, Repr

/-- A fault in words. -/
def Fault.message : Fault → Text
  | truncated letter width =>
    "truncated \\".toList ++ letter :: List.replicate width 'X' ++ " escape".toList
  | noCharacter => "illegal Unicode character".toList
  | malformedName => "malformed \\N character escape".toList
  | unknownName => "unknown Unicode character name".toList

/-- The number that digits write in a base; other characters are passed over. -/
def value (base : Nat) (digits : Text) : Nat :=
  digits.foldl (fun n c =>
    match (Text.digitValue? c).or (Text.hexDigit? c) with
    | some d => base * n + d
    | none => n) 0

/-! ### Strings -/

/-- What stands before the closing quote of a string. -/
def body? (quote : Char) : Text → Option Text
  | [] => none
  | ['\\'] => none
  | '\\' :: c :: t => (body? quote t).map ('\\' :: c :: ·)
  | c :: t => if c = quote then some [] else (body? quote t).map (c :: ·)

/-- The character with a code. A surrogate has none of its own. -/
def character (n : Nat) : Char :=
  if n.isValidChar then Char.ofNat n else '\uFFFD'

/-- The character that an escape by a single letter stands for. -/
def letterEscape? : Char → Option Char
  | '\\' => some '\\'
  | '\'' => some '\''
  | '"' => some '"'
  | 'a' => some '\x07'
  | 'b' => some '\x08'
  | 'f' => some '\x0c'
  | 'n' => some '\n'
  | 'r' => some '\r'
  | 't' => some '\t'
  | 'v' => some '\x0b'
  | _ => none

/-- The escape by a letter and a number of hexadecimal digits, which `t` begins with: what it
stands for, and how many characters it takes. -/
def digitEscape (letter : Char) (width : Nat) (t : Text) : Except Fault (Text × Nat) :=
  let digits := t.take width
  match if digits.length = width then Text.hexNumber? digits else none with
  | none => .error (.truncated letter width)
  | some n => if n ≤ 0x10FFFF then .ok ([character n], width + 1) else .error .noCharacter

/-- The escape by a name in braces, which `t` begins with: what it stands for, and how many
characters it takes. -/
def nameEscape (t : Text) : Except Fault (Text × Nat) :=
  match t with
  | '\x7b' :: t =>
    let name := t.takeWhile (· ≠ '\x7d')
    if name = [] ∨ name.length = t.length then .error .malformedName
    else
      match Text.CharacterName.code? name with
      | some n => .ok ([character n], name.length + 3)
      | none => .error .unknownName
  | _ => .error .malformedName

/-- Whether a character is an octal digit. -/
def isOctalDigit (c : Char) : Bool :=
  '0' ≤ c && c ≤ '7'

/-- The escape after a backslash: what it stands for, and how many characters it takes. A
line feed is passed over, and what is no escape keeps its backslash. -/
def escape : Text → Except Fault (Text × Nat)
  | [] => .ok (['\\'], 0)
  | '\n' :: _ => .ok ([], 1)
  | 'x' :: t => digitEscape 'x' 2 t
  | 'u' :: t => digitEscape 'u' 4 t
  | 'U' :: t => digitEscape 'U' 8 t
  | 'N' :: t => nameEscape t
  | c :: t =>
    match letterEscape? c with
    | some d => .ok ([d], 1)
    | none =>
      let octal := ((c :: t).take 3).takeWhile isOctalDigit
      if octal = [] then .ok (['\\', c], 1)
      else .ok ([character (value 8 octal)], octal.length)

/-- The text that a string in its ASCII form means. -/
def decodeAscii : Text → Except Fault Text
  | [] => .ok []
  | '\\' :: t => do
    let (s, n) ← escape t
    return s ++ (← decodeAscii (t.drop n))
  | c :: t => return c :: (← decodeAscii t)
termination_by t => t.length
decreasing_by
  · exact Text.length_drop_lt ..
  · exact Nat.lt_succ_self _

/-- A character in the ASCII form of a string. -/
def ascii (c : Char) : Text :=
  if c.val < 0x80 then [c] else Text.codeEscape c.val.toNat

/-- The text that a string means. -/
def decode (body : Text) : Except Fault Text :=
  decodeAscii (body.flatMap ascii)

/-! ### Numbers -/

/-- A number as it is written. -/
inductive Number
  | integer (n : Nat)
  | decimal (d : Decimal)
  deriving DecidableEq, Repr

/-- The digits that go on with a number, each after an underscore or not: how many characters
they take. -/
def further (isDigit : Char → Bool) : Text → Nat
  | '_' :: c :: t => if isDigit c then 2 + further isDigit t else 0
  | c :: t => if isDigit c then 1 + further isDigit t else 0
  | [] => 0

/-- The characters of a run of decimal digits at the head of a text. -/
def digitRun : Text → Nat
  | c :: t => if Text.isDecimalDigit c then 1 + further Text.isDecimalDigit t else 0
  | [] => 0

/-- The characters of an exponent at the head of a text. -/
def exponentRun (t : Text) : Nat :=
  match t with
  | e :: t =>
    if e = 'e' ∨ e = 'E' then
      let sign := match t with
        | '+' :: _ | '-' :: _ => 1
        | _ => 0
      let digits := digitRun (t.drop sign)
      if digits = 0 then 0 else 1 + sign + digits
    else 0
  | [] => 0

/-- The exponent that a run of characters writes. -/
def exponentValue (run : Text) : Int :=
  if run.contains '-' then -(value 10 (run.drop 1) : Int) else value 10 (run.drop 1)

/-- A number with a fraction or an exponent at the head of a text, and how many characters it
takes. -/
def decimal? (t : Text) : Option (Number × Nat) :=
  let whole := digitRun t
  let afterWhole := t.drop whole
  let fraction :=
    match afterWhole with
    | '.' :: t => if digitRun t = 0 then 0 else 1 + digitRun t
    | _ => 0
  let afterFraction := afterWhole.drop fraction
  let exponent := exponentRun afterFraction
  if whole = 0 ∨ fraction + exponent = 0 then none
  else
    let places := ((afterWhole.take fraction).filter Text.isDecimalDigit).length
    some (.decimal {
      digits := value 10 (t.take (whole + fraction))
      exponent := exponentValue (afterFraction.take exponent) - places },
      whole + fraction + exponent)

/-- The base that a letter after a zero stands for, with its digits. -/
def base? (letter : Char) : Option (Nat × (Char → Bool)) :=
  if letter = 'b' ∨ letter = 'B' then some (2, fun c => c = '0' || c = '1')
  else if letter = 'o' ∨ letter = 'O' then some (8, isOctalDigit)
  else if letter = 'x' ∨ letter = 'X' then
    some (16, fun c => (Text.hexDigit? c).isSome || Text.isDecimalDigit c)
  else none

/-- A whole number at the head of a text, and how many characters it takes. A number in base
ten begins with a zero only if it is zero. -/
def integer? (t : Text) : Option (Number × Nat) :=
  match t with
  | '0' :: t =>
    let based : Option (Number × Nat) := do
      let (base, isDigit) ← base? (← t.head?)
      let n := further isDigit (t.drop 1)
      if n = 0 then none else some (.integer (value base ((t.drop 1).take n)), 2 + n)
    based.or (some (.integer 0, 1 + further (· = '0') t))
  | c :: t =>
    if c.isDigit then
      let n := further Text.isDecimalDigit t
      some (.integer (value 10 (c :: t.take n)), 1 + n)
    else none
  | [] => none

/-- A number at the head of a text, and how many characters it takes. It begins with a digit,
and after a point it is a whole number. -/
def number? (afterPoint : Bool) (t : Text) : Option (Number × Nat) :=
  if t.head?.any Text.isDecimalDigit then
    (if afterPoint then none else decimal? t).or (integer? t)
  else none

end ShapeMapper.Template.Literal
