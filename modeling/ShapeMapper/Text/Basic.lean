/-!
# Texts

Names, locations and sources are sequences of characters. This file holds what the
rest of the library does with them:

* `Text.strip`, `Text.words`: blanks at the ends and between words;
* `Text.after?`, `Text.endsWith`: what a text begins and ends with;
* `Text.cut?`, `Text.cutLast?`: a text around the first or last occurrence of another;
* `Text.normalizeNewlines`: one spelling for the three line ends.
-/

namespace ShapeMapper

/-- A text is the sequence of its characters. -/
abbrev Text := List Char

namespace Text

/-- What is left after a character is shorter than the text. -/
theorem length_drop_lt (c : Char) (t : Text) (n : Nat) : (t.drop n).length < (c :: t).length :=
  Nat.lt_succ_of_le (by rw [List.length_drop]; exact Nat.sub_le ..)

/-- The characters that separate words: the controls and spaces of the white-space
property, and the four information separators. -/
def isBlank (c : Char) : Bool :=
  let n := c.val.toNat
  (0x09 ≤ n && n ≤ 0x0D) || (0x1C ≤ n && n ≤ 0x20) || n == 0x85 || n == 0xA0 || n == 0x1680 ||
    (0x2000 ≤ n && n ≤ 0x200A) || n == 0x2028 || n == 0x2029 || n == 0x202F || n == 0x205F ||
    n == 0x3000

/-- A text without the blanks at its start. -/
def trimStart (t : Text) : Text :=
  t.dropWhile isBlank

/-- A text without the blanks at its end. -/
def trimEnd (t : Text) : Text :=
  (t.reverse.dropWhile isBlank).reverse

/-- A text without the blanks at both ends. -/
def strip (t : Text) : Text :=
  trimEnd (trimStart t)

/-- The maximal runs of characters that are not blank. -/
def words (t : Text) : List Text :=
  (t.splitOnP isBlank).filter (· ≠ [])

/-- What follows `head` in a text that begins with it. -/
def after? : (head t : Text) → Option Text
  | [], t => some t
  | _ :: _, [] => none
  | a :: head, c :: t => if a = c then after? head t else none

theorem after?_eq_some_iff {head t rest : Text} : after? head t = some rest ↔ t = head ++ rest := by
  induction head generalizing t with
  | nil => simp [after?]
  | cons a head ih =>
    cases t with
    | nil => simp [after?]
    | cons c t => by_cases h : a = c <;> simp [after?, h, ih, eq_comm (a := c)]

/-- Whether a text ends with `tail`. -/
def endsWith (tail t : Text) : Bool :=
  tail.isSuffixOf t

/-- What stands before and after the first occurrence of `sep`. -/
def cut? (sep : Text) : Text → Option (Text × Text)
  | [] => (after? sep []).map ([], ·)
  | c :: t =>
    match after? sep (c :: t) with
    | some rest => some ([], rest)
    | none => (cut? sep t).map fun (before, rest) => (c :: before, rest)

theorem eq_append_of_cut? {sep t before rest : Text} (h : cut? sep t = some (before, rest)) :
    t = before ++ sep ++ rest := by
  fun_induction cut? sep t generalizing before rest <;>
    grind [Option.map_eq_some_iff, after?_eq_some_iff]

/-- What stands before and after the last occurrence of `sep`. -/
def cutLast? (sep : Text) : Text → Option (Text × Text)
  | [] => (after? sep []).map ([], ·)
  | c :: t =>
    match cutLast? sep t with
    | some (before, rest) => some (c :: before, rest)
    | none => (after? sep (c :: t)).map ([], ·)

theorem eq_append_of_cutLast? {sep t before rest : Text}
    (h : cutLast? sep t = some (before, rest)) : t = before ++ sep ++ rest := by
  fun_induction cutLast? sep t generalizing before rest <;>
    grind [Option.map_eq_some_iff, after?_eq_some_iff]

/-- Every line end (carriage return and line feed, or either alone) as one line feed. -/
def normalizeNewlines : Text → Text
  | [] => []
  | '\r' :: '\n' :: t => '\n' :: normalizeNewlines t
  | '\r' :: t => '\n' :: normalizeNewlines t
  | c :: t => c :: normalizeNewlines t

/-- The digits of a number in base ten. -/
def ofNat (n : Nat) : Text :=
  Nat.toDigits 10 n

/-- The number that decimal digits write. -/
def toNat (digits : Text) : Nat :=
  digits.foldl (fun n c => 10 * n + (c.toNat - '0'.toNat)) 0

end Text

end ShapeMapper
