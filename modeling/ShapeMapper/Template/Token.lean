import ShapeMapper.Template.Literal
import ShapeMapper.Text.Identifier
import ShapeMapper.Text.Listed

/-!
# Parts and tokens of a template

A template source is text with outputs between double braces, tags between a brace and a
percent sign, and comments between a brace and a hash (`Part.ofText`). What stands inside an
output or a tag is a list of tokens, the last of which says how it ended.

White space around tags: a tag or comment that is the first thing on its line takes the
blanks before it, and one line feed directly after it, with it. A minus sign inside a
delimiter takes all blanks on its side, a plus sign keeps them.
-/

namespace ShapeMapper.Template

/-- What is wrong with the tokens of a template. -/
inductive TokenFault
  | unclosedComment
  | unexpectedChar (c : Char) (offset : Nat)
  | notAnIdentifier
  | malformedString (fault : Literal.Fault)
  | unbalanced (c : Char) (expected : Option Char)
  deriving DecidableEq, Repr

/-- A fault in words. -/
def TokenFault.message : TokenFault → Text
  | unclosedComment => "Missing end of comment tag".toList
  | unexpectedChar c offset =>
    "unexpected char ".toList ++ Text.Listed.encode [c] ++ " at ".toList ++ Text.ofNat offset
  | notAnIdentifier => "Invalid character in identifier".toList
  | malformedString fault => fault.message
  | unbalanced c none => "unexpected '".toList ++ [c, '\'']
  | unbalanced c (some d) => "unexpected '".toList ++ c :: "', expected '".toList ++ [d, '\'']

/-- A token inside an output or a tag. -/
inductive Token
  | name (t : Text)
  | string (t : Text)
  | number (n : Literal.Number)
  | symbol (t : Text)
  | endOfTag
  | endOfOutput
  | endOfTemplate
  /-- No further token can be read. -/
  | bad (fault : TokenFault)
  deriving DecidableEq, Repr

/-- A token as it is called in a message. -/
def Token.describe : Token → Text
  | name t => t
  | string _ => "string".toList
  | number (.integer _) => "integer".toList
  | number (.decimal _) => "float".toList
  | symbol t => t
  | endOfTag => "end of statement block".toList
  | endOfOutput => "end of print statement".toList
  | endOfTemplate => "end of template".toList
  | bad fault => fault.message

/-- The three kinds of delimiters, by the character beside the brace. -/
inductive Delimiter
  | output
  | tag
  | comment
  deriving DecidableEq, Repr

/-- A part of a template. -/
inductive Part
  | data (t : Text)
  | output (tokens : List Token)
  | tag (tokens : List Token)
  /-- No further part can be read. -/
  | bad (fault : TokenFault)
  deriving DecidableEq, Repr

namespace Token

/-- The delimiter that closes an output or a tag at the head of a text: what follows it, and
whether that begins a line. -/
def closing? (isTag : Bool) (t : Text) : Option (Text × Bool) :=
  let delimiter := [if isTag then '%' else '\x7d', '\x7d']
  match Text.after? ('-' :: delimiter) t with
  | some rest =>
    some (rest.dropWhile Text.isBlank, (rest.takeWhile Text.isBlank).getLast? = some '\n')
  | none =>
    match if isTag then Text.after? ('+' :: delimiter) t else none with
    | some rest => some (rest, false)
    | none =>
      (Text.after? delimiter t).map fun rest =>
        match rest with
        | '\n' :: rest' => if isTag then (rest', true) else (rest, false)
        | rest => (rest, false)

/-- The operators, longer ones first. -/
def symbols : List Text :=
  ["//", "**", "==", "!=", ">=", "<=", "+", "-", "/", "*", "%", "~", "[", "]", "(", ")",
    "\x7b", "\x7d", ">", "<", "=", ".", ":", "|", ",", ";"].map String.toList

/-- The token of a string with the given text between its quotes. -/
def ofBody (body : Text) : Token :=
  match Literal.decode body with
  | .ok t => string t
  | .error fault => bad (.malformedString fault)

/-- The token of a word. -/
def ofWord (word : Text) : Token :=
  if Text.isIdentifier word then name word else bad .notAnIdentifier

/-- The token that begins with `c` and goes on in `t`, none for a blank, and how many further
characters it takes. -/
def read? (afterPoint : Bool) (c : Char) (t : Text) : Option (Option Token × Nat) :=
  if Text.isBlank c then some (none, 0)
  else
    match Literal.number? afterPoint (c :: t) with
    | some (n, length) => some (some (.number n), length - 1)
    | none =>
      if Text.isWordOrMark c then
        let rest := t.takeWhile Text.isWordOrMark
        some (some (ofWord (c :: rest)), rest.length)
      else if c = '\'' ∨ c = '"' then
        (Literal.body? c t).map fun body => (some (ofBody body), body.length + 1)
      else
        (symbols.find? fun s => s.isPrefixOf (c :: t)).map fun s =>
          (some (.symbol s), s.length - 1)

/-- The open brackets after a token; the bracket that closes one has to match it. -/
def balance (brackets : Text) : Token → Except TokenFault Text
  | symbol ['('] => .ok (')' :: brackets)
  | symbol ['['] => .ok (']' :: brackets)
  | symbol ['{'] => .ok ('}' :: brackets)
  | symbol [c] =>
    if c = ')' ∨ c = ']' ∨ c = '\x7d' then
      match brackets with
      | [] => .error (.unbalanced c none)
      | d :: brackets => if c = d then .ok brackets else .error (.unbalanced c (some d))
    else .ok brackets
  | _ => .ok brackets

/-- The tokens of an output or a tag, with what follows it, and whether that begins a line.
`size` is the length of the whole template, `brackets` are the brackets still to be closed,
and `afterPoint` says whether a point stands directly before the text. -/
def inside (size : Nat) (isTag : Bool) (brackets : Text) (afterPoint : Bool) :
    Text → List Token × Text × Bool
  | [] => ([.endOfTemplate], [], false)
  | c :: t =>
    match if brackets = [] then closing? isTag (c :: t) else none with
    | some (rest, lineStart) => ([if isTag then .endOfTag else .endOfOutput], rest, lineStart)
    | none =>
      match read? afterPoint c t with
      | none => ([.bad (.unexpectedChar c (size - (c :: t).length))], [], false)
      | some (none, n) => inside size isTag brackets false (t.drop n)
      | some (some (.bad fault), _) => ([.bad fault], [], false)
      | some (some token, n) =>
        match balance brackets token with
        | .error fault => ([.bad fault], [], false)
        | .ok brackets =>
          let (tokens, rest) := inside size isTag brackets (token = .symbol ['.']) (t.drop n)
          (token :: tokens, rest)
termination_by t => t.length
decreasing_by all_goals exact Text.length_drop_lt ..

end Token

namespace Part

/-- What stands before the first opening delimiter, which one it is, and what follows. -/
def opening? : Text → Option (Text × Delimiter × Text)
  | [] => none
  | '{' :: '{' :: t => some ([], .output, t)
  | '{' :: '%' :: t => some ([], .tag, t)
  | '{' :: '#' :: t => some ([], .comment, t)
  | c :: t => (opening? t).map fun (before, rest) => (c :: before, rest)

/-- The sign inside an opening delimiter, and what follows it. -/
def sign : Text → Option Char × Text
  | '-' :: t => (some '-', t)
  | '+' :: t => (some '+', t)
  | t => (none, t)

/-- The text before a delimiter, without the white space that the delimiter takes. -/
def trimmed (before : Text) (lineStart : Bool) (delimiter : Delimiter) (sign : Option Char) :
    Text :=
  let line := (before.reverse.takeWhile (· ≠ '\n')).reverse
  if sign = some '-' then Text.trimEnd before
  else if sign = none ∧ delimiter ≠ .output ∧ (lineStart ∨ line.length < before.length) ∧
      line.all Text.isBlank then
    before.take (before.length - line.length)
  else before

/-- What follows a comment, and whether that begins a line. -/
def afterComment? (t : Text) : Option (Text × Bool) :=
  (Text.cut? ['#', '\x7d'] t).map fun (body, rest) =>
    if body.getLast? = some '-' then
      (rest.dropWhile Text.isBlank, (rest.takeWhile Text.isBlank).getLast? = some '\n')
    else if body.getLast? = some '+' then (rest, false)
    else
      match rest with
      | '\n' :: rest => (rest, true)
      | rest => (rest, false)

/-- The parts of a text in which line ends are line feeds. -/
def read (size : Nat) (lineStart : Bool) (t : Text) : List Part :=
  match t with
  | [] => []
  | c :: t =>
    match opening? (c :: t) with
    | none => [.data (c :: t)]
    | some (before, delimiter, rest) =>
      let (sign, rest) := sign rest
      let data := trimmed before lineStart delimiter sign
      let (part?, rest?) : Option Part × Option (Text × Bool) :=
        match delimiter with
        | .output =>
          let (tokens, rest) := Token.inside size false [] false rest
          (some (.output tokens), some rest)
        | .tag =>
          let (tokens, rest) := Token.inside size true [] false rest
          (some (.tag tokens), some rest)
        | .comment => (none, afterComment? rest)
      .data data :: part?.toList ++
        match rest? with
        | none => [.bad .unclosedComment]
        | some (rest, lineStart) =>
          read size lineStart (t.drop (t.length - rest.length))
termination_by t.length
decreasing_by exact Text.length_drop_lt ..

/-- The parts of a template source. -/
def ofText (source : Text) : List Part :=
  let t := Text.normalizeNewlines source
  read t.length true t

end Part

end ShapeMapper.Template
