import ShapeMapper.Text.CharacterName.Table
import ShapeMapper.Text.Hexadecimal

/-!
# Characters by name

The code of the character that has a given name (`CharacterName.code?`). Most names stand in
a table. The names of ideographs end in the code, and the names of Hangul syllables are made
of the short names of their letters. Case does not matter, save in the names of unified
ideographs and of syllables.
-/

namespace ShapeMapper.Text.CharacterName

/-! ### Names in the table -/

/-- The words of a text, which are between single spaces. -/
def spaced (t : Text) : List Text :=
  t.splitOnP (· == ' ')

/-- A part of the table with its lower-case letters spelled out. -/
def expand (t : Text) : Text :=
  t.flatMap fun c => if c.isLower then (parts[c.toNat - 'a'.toNat]?).getD [] else [c]

/-- The words of the name that an item of the table stands for, after a name with the words
`before`. -/
def wordsAfter (before : List Text) : Text → List Text
  | [] => []
  | c :: t =>
    if c.isDigit then before.take (c.toNat - '0'.toNat) ++ spaced (expand t)
    else spaced (expand (c :: t))

/-- The code of a name among the items of a line. The first item belongs to `code` and comes
after a name with the words `before`. -/
def findItem? (name : List Text) (code : Nat) (before : List Text) : List Text → Option Nat
  | [] => none
  | item :: items =>
    let words := wordsAfter before item
    if words = name then some code else findItem? name (code + 1) words items

/-- The code of a name on a line. -/
def findOnLine? (name : List Text) (line : Text) : Option Nat :=
  match line.splitOnP (· == ';') with
  | [] => none
  | code :: items => (hexNumber? code).bind fun code => findItem? name code [] items

/-- The code of a name in a table. -/
def find? (table : String) (name : Text) : Option Nat :=
  (table.toList.splitOnP (· == '\n')).findSome? (findOnLine? (spaced name))

/-! ### Names by rules -/

/-- The code that four or five digits in upper case write, if it lies in one of some closed
ranges. -/
def coded? (ranges : List (Nat × Nat)) (digits : Text) : Option Nat :=
  if (digits.length = 4 ∨ digits.length = 5) ∧ !digits.any Char.isLower then
    (hexNumber? digits).filter fun n => ranges.any fun (low, high) => low ≤ n && n ≤ high
  else none

/-- Closed ranges of the unified ideographs. -/
def unifiedRanges : List (Nat × Nat) :=
  [(0x3400, 0x4DBF), (0x4E00, 0x9FFF), (0x20000, 0x2A6DF), (0x2A700, 0x2B738),
    (0x2B740, 0x2B81D), (0x2B820, 0x2CEA1), (0x2CEB0, 0x2EBE0), (0x30000, 0x3134A)]

/-- The other names that end in a code, each without its code and with its ranges. -/
def codedNames : List (Text × List (Nat × Nat)) :=
  [("CJK COMPATIBILITY IDEOGRAPH-".toList,
      [(0xF900, 0xFA6D), (0xFA70, 0xFAD9), (0x2F800, 0x2FA1D)]),
    ("KHITAN SMALL SCRIPT CHARACTER-".toList, [(0x18B00, 0x18CD5)]),
    ("NUSHU CHARACTER-".toList, [(0x1B170, 0x1B2FB)])]

/-- The short names of the consonants that begin a syllable. -/
def leads : List Text :=
  ["G", "GG", "N", "D", "DD", "R", "M", "B", "BB", "S", "SS", "", "J", "JJ", "C", "K", "T", "P",
    "H"].map String.toList

/-- The short names of the vowels. -/
def vowels : List Text :=
  ["A", "AE", "YA", "YAE", "EO", "E", "YEO", "YE", "O", "WA", "WAE", "OE", "YO", "U", "WEO",
    "WE", "WI", "YU", "EU", "YI", "I"].map String.toList

/-- The short names of the consonants that end a syllable, with the empty one for none. -/
def tails : List Text :=
  ["", "G", "GG", "GS", "N", "NJ", "NH", "D", "L", "LG", "LM", "LB", "LS", "LT", "LP", "LH",
    "M", "B", "BS", "S", "SS", "NG", "J", "C", "K", "T", "P", "H"].map String.toList

/-- The index of the longest of some names that a text begins with, and what follows it. -/
def longest? (names : List Text) (t : Text) : Option (Nat × Text) :=
  names.zipIdx.foldl (fun best (name, i) =>
    match after? name t, best with
    | none, best => best
    | some rest, none => some (i, rest)
    | some rest, some (j, shortest) =>
      some (if rest.length < shortest.length then (i, rest) else (j, shortest))) none

/-- The code of the syllable of three letters with the given short names. -/
def syllable? (t : Text) : Option Nat := do
  let (lead, t) ← longest? leads t
  let (vowel, t) ← longest? vowels t
  let (tail, t) ← longest? tails t
  if t = [] then some (0xAC00 + (lead * vowels.length + vowel) * tails.length + tail) else none

/-- The code of the character with the given name. -/
def code? (name : Text) : Option Nat :=
  match after? "HANGUL SYLLABLE ".toList name, after? "CJK UNIFIED IDEOGRAPH-".toList name with
  | some letters, _ => syllable? letters
  | none, some digits => coded? unifiedRanges digits
  | none, none =>
    let name := name.map Char.toUpper
    let coded := codedNames.findSome? fun (stem, ranges) => do
      let digits ← after? stem name
      if digits.head? = some '0' then none else coded? ranges digits
    coded.or (find? table name)

end ShapeMapper.Text.CharacterName
