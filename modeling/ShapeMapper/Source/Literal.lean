import ShapeMapper.Text.Alphanumeric

/-!
# String and pattern literals

Where a literal ends. A backslash takes the next character with it. A string in single or
double quotes and a pattern between slashes end on their line; a text in backticks may run
over several.

A slash opens a pattern only where an operand may stand, which the text before it decides
(`Pattern.mayOpen`); texts before a place are given in reverse.
-/

namespace ShapeMapper.Source

/-- The characters that open a string literal. -/
def isQuote (c : Char) : Bool :=
  c = '\'' || c = '"' || c = '`'

/-- The rest of a string literal up to its closing quote, and what follows it. -/
def closeString? (quote : Char) : Text → Option (Text × Text)
  | [] => none
  | ['\\'] => none
  | '\\' :: c :: t =>
    (closeString? quote t).map fun (body, rest) => ('\\' :: c :: body, rest)
  | c :: t =>
    if c = quote then some ([c], t)
    else if c = '\n' ∧ quote ≠ '`' then none
    else (closeString? quote t).map fun (body, rest) => (c :: body, rest)

theorem eq_append_of_closeString? {quote : Char} {t body rest : Text}
    (h : closeString? quote t = some (body, rest)) : t = body ++ rest := by
  fun_induction closeString? quote t generalizing body <;>
    grind [Option.map_eq_some_iff]

namespace Pattern

/-- The operators and openers after which an operand stands. -/
def openers : Text :=
  "(,=:[!&|?\x7b\x7d;+-*%<>~^".toList

/-- The words after which an operand stands. -/
def openingWords : List Text :=
  ["return", "typeof", "case", "do", "else", "in", "of", "void", "yield", "await",
    "throw"].map String.toList

/-- Whether a slash may open a pattern, given the text before it in reverse. -/
def mayOpen (before : Text) : Bool :=
  match before.dropWhile Text.isBlank with
  | [] => true
  | c :: t =>
    openers.contains c || openingWords.contains ((c :: t).takeWhile Text.isNameChar).reverse

/-- The rest of a pattern up to its flags, and what follows them. Inside brackets a slash
stands for itself. -/
def close? (bracketed : Bool) : Text → Option (Text × Text)
  | [] => none
  | ['\\'] => none
  | '\\' :: c :: t => (close? bracketed t).map fun (body, rest) => ('\\' :: c :: body, rest)
  | '\n' :: _ => none
  | c :: t =>
    if bracketed then (close? (c ≠ ']') t).map fun (body, rest) => (c :: body, rest)
    else if c = '/' then some (c :: t.takeWhile Text.isNameChar, t.dropWhile Text.isNameChar)
    else (close? (c = '[') t).map fun (body, rest) => (c :: body, rest)

theorem eq_append_of_close? {bracketed : Bool} {t body rest : Text}
    (h : close? bracketed t = some (body, rest)) : t = body ++ rest := by
  fun_induction close? bracketed t generalizing body <;>
    grind [Option.map_eq_some_iff, List.takeWhile_append_dropWhile]

/-- The rest of a pattern whose slash stands after `before`, and what follows it. -/
def read? (before t : Text) : Option (Text × Text) :=
  if mayOpen before then close? false t else none

theorem eq_append_of_read? {before t body rest : Text} (h : read? before t = some (body, rest)) :
    t = body ++ rest := by
  unfold read? at h
  split at h
  · exact eq_append_of_close? h
  · simp at h

end Pattern

end ShapeMapper.Source
