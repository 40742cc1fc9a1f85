import ShapeMapper.Proofs.Declaration.TemplateLiteral
import ShapeMapper.Proofs.Source.CommentSpace

/-!
# Constants in front of a declaration

Lines that give string literals and patterns to constants, whatever quotes, braces, slashes and
brackets these have in them (`Constant`). Comments are taken out and statements are looked for one
after the other, and both decide anew where a literal ends. They pass over the same literals, so the
lines are kept as they are and hide nothing of the declaration behind them:
`Document.ofSource_constants`.
-/

namespace ShapeMapper

open Source Declaration Written

/-! ### Constants -/

/-- A string literal or a pattern, as the value of a constant. -/
inductive ConstantValue
  | literal (l : Literal)
  | pattern (p : PatternLiteral)

namespace ConstantValue

def lexeme : ConstantValue → Lexeme
  | literal l => .literal l
  | pattern p => .pattern p

def text (x : ConstantValue) : Text :=
  x.lexeme.text

end ConstantValue

/-- A constant on its line. Its name may have letters of any script, and it may be one of the words
that begin statements. -/
structure Constant where
  name : Text
  value : ConstantValue
  isOrdinary_name : ∀ c ∈ name, IsOrdinary c
  not_isBlank_name : ∀ c ∈ name, Text.isBlank c = false
  not_export_infix : ¬"export".toList <:+: value.text

/-- What stands in front of the value. -/
def Constant.head (x : Constant) : Text :=
  "const ".toList ++ (x.name ++ " = ".toList)

def Constant.line (x : Constant) : Text :=
  x.head ++ (x.value.text ++ ['\n'])

/-! ### The name -/

theorem Text.eq_of_append_blank {t u v w : Text} {b c : Char}
    (ht : ∀ d ∈ t, isBlank d = false) (hv : ∀ d ∈ v, isBlank d = false) (hb : isBlank b = true)
    (hc : isBlank c = true) (h : t ++ b :: u = v ++ c :: w) : t = v := by
  have htake {x y : Text} {d : Char} (hx : ∀ e ∈ x, isBlank e = false) (hd : isBlank d = true) :
      (x ++ d :: y).takeWhile (!isBlank ·) = x :=
    (takeWhile_append_cons (by simpa using hx) (by simp [hd]) y).1
  rw [← htake ht hb, h, htake hv hc]

namespace Declaration

variable {file before word w : Text}

/-- What stands before a blank is read as a word only if it is the whole of it. -/
theorem afterWord?_of_ne (hword : ∀ c ∈ word, Text.isBlank c = false)
    (hw : ∀ c ∈ w, Text.isBlank c = false) (hne : w ≠ word) {b : Char}
    (hb : Text.isBlank b = true) (u : Text) : afterWord? word (w ++ b :: u) = none := by
  unfold afterWord?
  split
  · next c rest hafter =>
    rw [Text.after?_eq_some_iff] at hafter
    split
    · next hc => exact absurd (Text.eq_of_append_blank hw hword hb hc hafter) hne
    · rfl
  · rfl

theorem import?_equals (file u : Text) :
    Declaration.import? file ("import".toList ++ " = ".toList ++ u) = none := by
  have hafter : Text.after? "import".toList ("import".toList ++ " = ".toList ++ u) =
      some (' ' :: '=' :: ' ' :: u) := Text.after?_eq_some_iff.2 rfl
  have hclause : isClause ((' ' :: '=' :: ' ' :: u).takeWhile isClauseChar) = false := rfl
  simp only [import?, hafter, Option.bind_eq_bind, Option.bind_some, hclause]
  split
  · split
    · simp
    · rfl
  · rfl

/-- In front of an equals sign no word begins a statement. -/
theorem statement?_equals (hw : ∀ c ∈ w, Text.isBlank c = false) (u : Text) :
    statement? file (w ++ " = ".toList ++ u) = .ok none := by
  have hword : ∀ word ∈ statementWords, word.all fun c => Text.isBlank c = false := by decide
  by_cases hstatement : w ∈ statementWords
  -- the word is read, but what follows it is no clause, no further word and no name
  · have hwords : statementWords = ["import".toList, "export".toList, "interface".toList,
        "type".toList, "declare".toList] := rfl
    simp only [hwords, List.mem_cons, List.not_mem_nil, or_false] at hstatement
    rcases hstatement with rfl | rfl | rfl | rfl | rfl
    · rw [statement?, import?_equals]
      rfl
    all_goals
      rw [statement?]
      rfl
  · have hnone {word : Text} (hmem : word ∈ statementWords) :
        afterWord? word (w ++ " = ".toList ++ u) = none := by
      rw [List.append_assoc]
      exact afterWord?_of_ne (Text.forall_mem_of_all (hword word hmem)) hw
        (fun h => hstatement (h ▸ hmem)) (by decide) _
    refine statement?_eq_none (fun v hv => ?_) (hnone (by decide)) (hnone (by decide))
      (hnone (by decide)) (hnone (by decide))
    rw [Text.after?_eq_some_iff, List.append_assoc] at hv
    cases v with
    | nil => rfl
    | cons c v =>
      by_contra hblank
      have hc : Text.isBlank c = true := by simpa using hblank
      have heq := Text.eq_of_append_blank hw (Text.forall_mem_of_all (by decide)) (by decide) hc hv
      exact hstatement (heq ▸ by decide)

/-- A scan finds nothing in front of an equals sign. -/
theorem scan_equals (hordinary : ∀ c ∈ w, IsOrdinary c) (hw : ∀ c ∈ w, Text.isBlank c = false)
    (u : Text) :
    scan file before 0 (w ++ " = ".toList ++ u) =
      scan file ((w ++ " = ".toList).reverse ++ before) 0 u := by
  induction w generalizing before with
  | nil =>
    refine (scan_mark (by decide) (by decide)).trans ((scan_mark (by decide) (by decide)).trans ?_)
    exact scan_mark (by decide) (by decide)
  | cons c w ih =>
    have hstatement : statement? file (c :: w ++ " = ".toList ++ u) = .ok none :=
      statement?_equals hw u
    rw [List.cons_append, List.cons_append] at hstatement ⊢
    rw [scan_char (hordinary c List.mem_cons_self) (.inr (.inr hstatement)),
      ih (fun d hd => hordinary d (List.mem_cons_of_mem c hd))
        fun d hd => hw d (List.mem_cons_of_mem c hd)]
    simp

/-- The word `export` in front of an equals sign begins no list. -/
theorem exportList?_equals (hw : ∀ c ∈ w, Text.isBlank c = false) (u : Text) :
    exportList? (w ++ " = ".toList ++ u) = none := by
  by_cases hexport : w = "export".toList
  · rw [hexport]
    rfl
  · have hnone : afterWord? "export".toList (w ++ " = ".toList ++ u) = none := by
      rw [List.append_assoc]
      exact afterWord?_of_ne (Text.forall_mem_of_all (by decide)) hw hexport (by decide) _
    simp only [exportList?, hnone, Option.bind_eq_bind, Option.bind_none]

/-- No export list begins in front of an equals sign. -/
theorem exportEntries_equals (hw : ∀ c ∈ w, Text.isBlank c = false) (u : Text) :
    exportEntries (w ++ " = ".toList ++ u) = exportEntries u := by
  induction w with
  | nil => rfl
  | cons c w ih =>
    have hnone := exportList?_equals hw u
    rw [List.cons_append, List.cons_append] at hnone ⊢
    rw [Written.exportEntries_cons, hnone, ih fun d hd => hw d (List.mem_cons_of_mem c hd)]
    rfl

/-! ### Patterns -/

/-- A pattern is passed over where it may stand. -/
theorem scan_pattern (p : PatternLiteral) (hopen : Pattern.mayOpen before = true) {depth : Nat}
    {u : Text} (hu : ∀ c ∈ u.head?, Text.isNameChar c = false) :
    scan file before depth (p.text ++ u) = scan file (p.text.reverse ++ before) depth u := by
  have hread : Pattern.read? before (p.rest ++ p.flags ++ u) = some (p.rest ++ p.flags, u) := by
    rw [Pattern.read?, if_pos hopen, List.append_assoc,
      Pattern.close?_append p.closed p.isNameChar_flags hu]
  have hstep : step file before depth '/' (p.rest ++ p.flags ++ u) =
      .ok { further := (p.rest ++ p.flags).length, depth } := by
    rw [step, if_neg (by decide), if_pos rfl, hread]
    rfl
  rw [PatternLiteral.text, List.cons_append, scan_of_step hstep, List.take_left, List.drop_left,
    Scan.after_none]
  simp

end Declaration

/-! ### Lines -/

theorem mayOpen_equals (b : Text) : Pattern.mayOpen (" = ".toList.reverse ++ b) = true :=
  rfl

namespace ConstantValue

/-- A scan finds nothing in a value. -/
theorem scan_append (x : ConstantValue) {file before u : Text}
    (hopen : Pattern.mayOpen before = true) (hu : ∀ c ∈ u.head?, Text.isNameChar c = false) :
    scan file before 0 (x.text ++ u) = scan file (x.text.reverse ++ before) 0 u := by
  cases x with
  | literal l => exact scan_literal l
  | pattern p => exact scan_pattern p hopen hu

theorem isRead_lexeme (x : ConstantValue) {b u : Text} (hopen : Pattern.mayOpen b = true)
    (hu : ∀ c ∈ u.head?, Text.isNameChar c = false) : x.lexeme.IsRead b u := by
  cases x with
  | literal l => trivial
  | pattern p => exact ⟨hopen, hu⟩

end ConstantValue

namespace Constant

variable {file before : Text}

theorem line_append (x : Constant) (u : Text) :
    x.line ++ u = "const".toList ++ (' ' :: (x.name ++ " = ".toList ++
      (x.value.text ++ '\n' :: u))) := by
  simp [line, head]

/-- A scan finds nothing in a line. -/
theorem scan_line (x : Constant) (u : Text) :
    scan file before 0 (x.line ++ u) = scan file (x.line.reverse ++ before) 0 u := by
  have hreverse : x.line.reverse ++ before = '\n' :: (x.value.text.reverse ++
      ((x.name ++ " = ".toList).reverse ++ ' ' :: ("onst".toList.reverse ++ 'c' :: before))) := by
    simp [line, head]
  have hopen (b : Text) : Pattern.mayOpen ((x.name ++ " = ".toList).reverse ++ b) = true := by
    rw [List.reverse_append, List.append_assoc]
    exact mayOpen_equals _
  rw [hreverse, x.line_append]
  calc scan file before 0 ('c' :: ("onst".toList ++ ' ' :: _))
    _ = scan file ("onst".toList.reverse ++ 'c' :: before) 0 (' ' :: _) :=
      scan_word (by decide) (Text.forall_mem_of_all (by decide))
        (statement?_of_head (by decide) _ _)
    _ = _ := by
      rw [scan_mark (by decide) (by decide), scan_equals x.isOrdinary_name x.not_isBlank_name,
        x.value.scan_append (hopen _) (Text.not_isNameChar_head_cons (by decide) u),
        scan_mark (by decide) (by decide)]

/-- No export list begins in a line. -/
theorem exportEntries_line (x : Constant) (u : Text) :
    exportEntries (x.line ++ u) = exportEntries u := by
  have hword (v : Text) : exportEntries ("const".toList ++ ' ' :: v) = exportEntries v := rfl
  rw [x.line_append, hword, exportEntries_equals x.not_isBlank_name,
    ShapeMapper.exportEntries_line x.not_export_infix]

/-! #### Comments -/

/-- A line out of characters and the value. -/
def lexemes (x : Constant) : List Lexeme :=
  x.head.map .char ++ [x.value.lexeme, .char '\n']

theorem flatMap_text_char (t : Text) : (t.map Lexeme.char).flatMap Lexeme.text = t := by
  induction t with
  | nil => rfl
  | cons c t ih => exact congrArg (c :: ·) ih

theorem flatMap_text_lexemes (x : Constant) : x.lexemes.flatMap Lexeme.text = x.line := by
  rw [lexemes, List.flatMap_append, flatMap_text_char]
  simp [Lexeme.text, line, ConstantValue.text]

theorem kept_of_mem_lexemes (x : Constant) : ∀ y ∈ x.lexemes, y.kept = y.text := by
  intro y hy
  rcases List.mem_append.1 hy with hy | hy
  · obtain ⟨c, -, rfl⟩ := List.mem_map.1 hy
    rfl
  · obtain rfl | rfl : y = x.value.lexeme ∨ y = .char '\n' := by simpa using hy
    · cases x.value <;> rfl
    · rfl

theorem isOrdinary_head (x : Constant) : ∀ c ∈ x.head, IsOrdinary c := by
  have hconst : ∀ c ∈ "const ".toList, IsOrdinary c := Text.forall_mem_of_all (by decide)
  have hequals : ∀ c ∈ " = ".toList, IsOrdinary c := Text.forall_mem_of_all (by decide)
  intro c hc
  rcases List.mem_append.1 hc with hc | hc
  · exact hconst c hc
  · exact (List.mem_append.1 hc).elim (x.isOrdinary_name c) (hequals c)

theorem allRead_char {t : Text} (ht : ∀ c ∈ t, IsOrdinary c) (b u : Text) :
    Lexeme.AllRead b u (t.map .char) := by
  induction t generalizing b with
  | nil => trivial
  | cons c t ih =>
    have hc := ht c List.mem_cons_self
    exact ⟨⟨hc.isQuote_eq, hc.ne_slash⟩, ih (fun d hd => ht d (List.mem_cons_of_mem c hd)) _⟩

theorem allRead_lexemes (x : Constant) (b u : Text) : Lexeme.AllRead b u x.lexemes := by
  refine (allRead_char x.isOrdinary_head b _).append ⟨x.value.isRead_lexeme ?_ ?_,
    ⟨by decide, by decide⟩, trivial⟩
  · rw [flatMap_text_char, head]
    simp only [List.reverse_append, List.append_assoc]
    exact mayOpen_equals _
  · exact Text.not_isNameChar_head_cons (by decide) u

/-! #### Several lines -/

variable (l : List Constant)

theorem flatMap_text_lines :
    (l.flatMap lexemes).flatMap Lexeme.text = l.flatMap line := by
  rw [List.flatMap_assoc]
  exact List.flatMap_congr fun x _ => x.flatMap_text_lexemes

theorem flatMap_kept_lines :
    (l.flatMap lexemes).flatMap Lexeme.kept = l.flatMap line := by
  rw [← flatMap_text_lines]
  refine List.flatMap_congr fun y hy => ?_
  obtain ⟨x, -, hx⟩ := List.mem_flatMap.1 hy
  exact x.kept_of_mem_lexemes y hx

theorem allRead_lines (b u : Text) : Lexeme.AllRead b u (l.flatMap lexemes) := by
  induction l generalizing b with
  | nil => trivial
  | cons x l ih => exact (x.allRead_lexemes b _).append (ih _)

/-- Lines of constants are kept with what follows them, if that has no comments. -/
theorem withoutComments_lines {t : Text} (ht : Uncommented t) :
    withoutComments (l.flatMap line ++ t) = .ok (l.flatMap line ++ t) := by
  have hlines := withoutComments_flatMap_text_append (allRead_lines l [] t)
  obtain ⟨hstuck, hkept⟩ := ht.segments_eq ((l.flatMap lexemes).flatMap Lexeme.text).reverse
  rw [flatMap_text_lines, flatMap_kept_lines] at hlines
  rw [flatMap_text_lines] at hstuck hkept
  rw [hlines]
  generalize segments (l.flatMap line).reverse t = later at hstuck hkept
  obtain ⟨later, stuck⟩ := later
  obtain rfl : stuck = none := hstuck
  exact congrArg (Except.ok <| l.flatMap line ++ ·) hkept

/-- No name goes on behind the lines. -/
theorem not_isNameChar_last : (l.flatMap line).reverse.head?.any Text.isNameChar = false := by
  rcases l.eq_nil_or_concat with rfl | ⟨l, x, rfl⟩
  · rfl
  · simp [line]
    decide

theorem scan_lines (u : Text) :
    scan file before 0 (l.flatMap line ++ u) =
      scan file ((l.flatMap line).reverse ++ before) 0 u := by
  induction l generalizing before with
  | nil => rfl
  | cons x l ih =>
    rw [List.flatMap_cons, List.append_assoc, x.scan_line, ih, List.reverse_append,
      List.append_assoc]

theorem exportEntries_lines (u : Text) :
    exportEntries (l.flatMap line ++ u) = exportEntries u := by
  induction l with
  | nil => rfl
  | cons x l ih => rw [List.flatMap_cons, List.append_assoc, x.exportEntries_line, ih]

end Constant

/-- Constants in front of an exported interface take nothing from it. Both are read as they are,
and the document is the one of the interface. -/
theorem Document.ofSource_constants (l : List Constant) {i : InterfaceFile.Interface} {gap : Text}
    {hgap : IsGap gap} (hmodifier : i.modifier = .exported gap hgap) :
    withoutComments (l.flatMap Constant.line ++ i.text) =
        .ok (l.flatMap Constant.line ++ i.text) ∧
      ∀ visibility file, ∃ document events,
        ofSource visibility file i.text = (.ok document, events) ∧
        ofSource visibility file (l.flatMap Constant.line ++ i.text) = (.ok document, events) ∧
        document.names = [i.name.text] := by
  have hread := Constant.withoutComments_lines l i.uncommented
  refine ⟨hread, fun visibility file => ?_⟩
  have htext : InterfaceFile.text [.interface i] = i.text := List.flatMap_singleton _ _
  have hscan (before : Text) (hbefore : before.head?.any Text.isNameChar = false) :
      scan file before 0 i.text = { items := [i.found] } := by
    rw [← htext]
    exact InterfaceFile.scan_text [.interface i] hbefore
  have hlonger : scan file [] 0 (l.flatMap Constant.line ++ i.text) = { items := [i.found] } := by
    rw [Constant.scan_lines, List.append_nil, hscan _ (Constant.not_isNameChar_last l)]
  refine ⟨ofItems visibility file [i.found] (exportEntries i.text), [i.found].flatMap (events file),
    ?_, ?_, ?_⟩
  · rw [ofSource, i.uncommented.withoutComments_eq]
    dsimp only
    rw [hscan [] rfl]
  · rw [ofSource, hread]
    dsimp only
    rw [hlonger, Constant.exportEntries_lines]
  · refine names_ofItems_exported ?_ visibility file _ _
    rw [hmodifier]
    rfl

/-- A literal with a brace, an escaped quote and the marks of comments in it. -/
def markLiteral : Literal where
  quote := '\''
  rest := "/*\x7b\\'//'".toList
  isQuote_quote := isQuote_apostrophe
  closed := .char (by decide) (by decide) (by decide) (.char (by decide) (by decide) (by decide)
    (.char (by decide) (by decide) (by decide) (.escape (.char (by decide) (by decide) (by decide)
      (.char (by decide) (by decide) (by decide) .close)))))

/-- It is given to a constant with the name of a word that begins statements. -/
def markConstant : Constant where
  name := "type".toList
  value := .literal markLiteral
  isOrdinary_name := Text.forall_mem_of_all (by decide)
  not_isBlank_name := Text.forall_mem_of_all (by decide)
  not_export_infix := by decide

/-- A pattern with a slash and a quote in brackets. -/
def patternConstant : Constant where
  name := "größe".toList
  value := .pattern slashPattern
  isOrdinary_name := Text.forall_mem_of_all (by decide)
  not_isBlank_name := Text.forall_mem_of_all (by decide)
  not_export_infix := by decide

/-- The two of them take nothing from an interface behind them. -/
theorem Document.ofSource_constants_marks :
    exportedInterface.modifier = .exported [' '] InterfaceFile.isGap_space ∧
      [markConstant, patternConstant].flatMap Constant.line =
        "const type = '/*\x7b\\'//'\nconst größe = /[/']\\//g\n".toList ∧
      withoutComments ([markConstant, patternConstant].flatMap Constant.line ++
          exportedInterface.text) =
        .ok ([markConstant, patternConstant].flatMap Constant.line ++ exportedInterface.text) ∧
      ∀ visibility file, ∃ document events,
        ofSource visibility file exportedInterface.text = (.ok document, events) ∧
        ofSource visibility file ([markConstant, patternConstant].flatMap Constant.line ++
          exportedInterface.text) = (.ok document, events) ∧
        document.names = ["N".toList] :=
  ⟨rfl, by decide, ofSource_constants _ rfl⟩

end ShapeMapper
