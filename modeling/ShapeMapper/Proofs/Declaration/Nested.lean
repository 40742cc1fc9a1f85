import ShapeMapper.Proofs.Declaration.Entity
import ShapeMapper.Proofs.Declaration.ExportList
import ShapeMapper.Proofs.Declaration.Prolonged

/-!
# Declarations in a namespace

What stands in a namespace at the end of a file is no part of its document: a scan passes it over
(`scan_nested`). Its export lists are found all the same, so the document stays as it is just if
these change no shape: `ofSource_nested`.
-/

namespace ShapeMapper

open Source Declaration Written

/-! ### Balanced texts -/

/-- The texts whose literals are closed and whose braces have their partners, with no slash
outside of their literals. -/
inductive Balanced : Text → Prop
  | nil : Balanced []
  | char {c : Char} {t : Text} (hc : IsOrdinary c) (h : Balanced t) : Balanced (c :: t)
  | literal {t : Text} (l : Literal) (h : Balanced t) : Balanced (l.text ++ t)
  | braces {body t : Text} (hbody : Balanced body) (h : Balanced t) :
      Balanced ('{' :: body ++ '}' :: t)

namespace Balanced

variable {file before t u : Text} {depth : Nat}

theorem append_of_all (ht : t.all fun c => IsOrdinary c) (hu : Balanced u) : Balanced (t ++ u) := by
  induction t with
  | nil => exact hu
  | cons c t ih =>
    simp only [List.all_cons, Bool.and_eq_true, decide_eq_true_eq] at ht
    exact .char ht.1 (ih ht.2)

theorem uncommented (h : Balanced t) : Uncommented t := by
  induction h with
  | nil => exact .nil
  | char hc _ ih => exact .char hc.isQuote_eq hc.ne_slash ih
  | literal l _ ih => exact .literal l ih
  | braces _ _ ihbody ih =>
    exact .char (by decide) (by decide) (ihbody.append (.char (by decide) (by decide) ih))

/-- Inside braces a balanced text is passed over. -/
theorem scan_append (h : Balanced t) :
    scan file before (depth + 1) (t ++ u) = scan file (t.reverse ++ before) (depth + 1) u := by
  induction h generalizing before depth u with
  | nil => rfl
  | char hc _ ih =>
    rw [List.cons_append, scan_char hc (.inl (Nat.succ_ne_zero depth)), ih]
    simp
  | literal l _ ih =>
    rw [List.append_assoc, scan_literal, ih]
    simp
  | braces _ _ ihbody ih =>
    rw [List.append_assoc, List.cons_append, List.cons_append, scan_open, ihbody, scan_close,
      Nat.add_sub_cancel, ih]
    simp

end Balanced

/-! ### Export lists in front of other text -/

section exports

variable {t u : Text}

theorem beginsWithFrom_append (hu : NextLine u) (t : Text) :
    beginsWithFrom (t ++ u) = beginsWithFrom t := by
  unfold beginsWithFrom
  by_cases htrim : Text.trimStart t = []
  · obtain ⟨c, v, hlonger, -, hhead⟩ := trimStart_append_nextLine hu htrim
    have hne : 'f' ≠ c := by
      rintro rfl
      exact hhead (by decide)
    have hnone : Text.after? "from".toList (c :: v) = none := if_neg hne
    rw [hlonger, hnone, htrim]
    rfl
  · rw [Text.trimStart_append_of_ne_nil htrim, after?_append hu (by decide)]
    cases Text.after? "from".toList (Text.trimStart t) with
    | none => rfl
    | some v =>
      cases v with
      | nil =>
        cases hu with
        | intro => rfl
      | cons => rfl

/-- Whether a character is no brace. -/
def notBrace (c : Char) : Bool := !(c = '\x7b' || c = '\x7d')

/-- A text up to the brace that closes it, unless it is exported from another file. -/
def upToClosing? (t : Text) : Option Text :=
  match t.dropWhile notBrace with
  | '}' :: rest => if beginsWithFrom rest then none else some (t.takeWhile notBrace)
  | _ => none

theorem exportList?_eq (t : Text) :
    exportList? t = (afterWord? "export".toList t).bind fun t =>
      (Text.after? ['{'] (optionalWord "type".toList t).2).bind upToClosing? := rfl

theorem upToClosing?_append (hu : NextLine u) (hbrace : ∃ v, u.dropWhile notBrace = '{' :: v)
    (t : Text) : upToClosing? (t ++ u) = upToClosing? t := by
  cases hclose : t.dropWhile notBrace with
  | nil =>
    -- the list would have to end behind an opening brace
    obtain ⟨v, hv⟩ := hbrace
    have hlonger : (t ++ u).dropWhile notBrace = '{' :: v := by
      rw [List.dropWhile_append, hclose]
      exact hv
    rw [upToClosing?, upToClosing?, hlonger, hclose]
    rfl
  | cons brace rest =>
    obtain ⟨htake, hdrop⟩ := Text.while_append_of_ne_nil (hclose ▸ List.cons_ne_nil _ _) u
    rw [upToClosing?, upToClosing?, htake, hdrop, hclose, List.cons_append]
    by_cases hbrace : brace = '}'
    · simp only [hbrace, beginsWithFrom_append hu]
    · simp [hbrace]

/-- An export list is read as before if the next brace of the rest is an opening one. -/
theorem exportList?_append (hu : NextLine u) (hbrace : ∃ v, u.dropWhile notBrace = '{' :: v)
    (t : Text) : exportList? (t ++ u) = exportList? t := by
  have hnone {c : Char} (v : Text) (hname : Text.isNameChar c = true) :
      Text.after? ['{'] (c :: v) = none :=
    if_neg (ne_of_isNameChar hname (by decide)).symm
  rw [exportList?_eq, exportList?_eq]
  cases hexport : isOnlyWord "export".toList t with
  | true =>
    obtain ⟨c, v, hlonger, hname, hhead, hshorter⟩ :=
      exists_afterWord?_of_isOnlyWord hu hexport (by decide)
    have htype := optionalWord_of_none (barren_cons hhead v "type".toList (by decide))
    rw [hlonger, Option.bind_some, htype, hnone v hname]
    rcases hshorter with ⟨hshort, -⟩ | hshort <;> rw [hshort] <;> rfl
  | false =>
    rw [afterWord?_append_of_not_isOnlyWord hu (by decide) hexport]
    cases afterWord? "export".toList t with
    | none => rfl
    | some v =>
      rw [Option.map_some, Option.bind_some, Option.bind_some]
      cases htype : isOnlyWord "type".toList v with
      | true =>
        obtain ⟨c, x, hlonger, hname, -, hshorter⟩ :=
          exists_afterWord?_of_isOnlyWord hu htype (by decide)
        rw [optionalWord_of_some hlonger, hnone x hname]
        rcases hshorter with ⟨hshort, rfl⟩ | hshort
        · rw [optionalWord_of_none hshort]
          rfl
        · rw [optionalWord_of_some hshort]
          rfl
      | false =>
        rw [optionalWord_append_of_not_isOnlyWord hu (by decide) htype,
          after?_append hu (by decide)]
        cases Text.after? ['{'] (optionalWord "type".toList v).2 with
        | none => rfl
        | some x => exact upToClosing?_append hu hbrace x

theorem exportEntries_append_nextLine (hu : NextLine u)
    (hbrace : ∃ v, u.dropWhile notBrace = '{' :: v) (t : Text) :
    exportEntries (t ++ u) = exportEntries t ++ exportEntries u := by
  induction t with
  | nil => rfl
  | cons c t ih =>
    rw [List.cons_append, exportEntries_cons, exportEntries_cons, ih, ← List.cons_append,
      exportList?_append hu hbrace, List.append_assoc]

end exports

/-! ### A namespace at the end of a file -/

/-- A namespace on a line of its own. -/
def nested (n w : Text) : Text :=
  '\n' :: ("namespace ".toList ++ (n ++ (" \x7b".toList ++ (w ++ "\x7d\n".toList))))

section nested

variable {n w : Text}

theorem nested_eq (n w : Text) :
    nested n w = ('\n' :: ("namespace ".toList ++ (n ++ [' ']))) ++
      '{' :: (w ++ "\x7d\n".toList) := by
  unfold nested
  simp only [List.cons_append, List.append_assoc, List.nil_append]
  rfl

/-- Whatever holds of names, blanks and the text in its braces holds of a namespace. -/
theorem forall_mem_nested (hn : ∀ c ∈ n, Text.isNameChar c = true) {p : Char → Prop}
    (hname : ∀ c, Text.isNameChar c = true → p c)
    (hmarks : ∀ c ∈ "\n \x7b\x7d".toList, p c) (hw : ∀ c ∈ w, p c) : ∀ c ∈ nested n w, p c := by
  have hnewline : p '\n' := hmarks _ (by decide)
  have hblank : p ' ' := hmarks _ (by decide)
  have hopen : p '{' := hmarks _ (by decide)
  have hclose : p '}' := hmarks _ (by decide)
  have hword : ∀ c ∈ "namespace ".toList, p c := by
    have hchars : ∀ c ∈ "namespace ".toList, Text.isNameChar c = true ∨ c = ' ' :=
      Text.forall_mem_of_all (by decide)
    intro c hc
    rcases hchars c hc with hc | rfl
    · exact hname c hc
    · exact hblank
  intro c hc
  simp only [nested, List.mem_cons, List.mem_append] at hc
  rcases hc with rfl | hc | hc | hc | hc | hc
  · exact hnewline
  · exact hword c hc
  · exact hname c (hn c hc)
  · exact hmarks c ((by decide : " \x7b".toList ⊆ "\n \x7b\x7d".toList) hc)
  · exact hw c hc
  · exact hmarks c ((by decide : "\x7d\n".toList ⊆ "\n \x7b\x7d".toList) hc)

theorem nextLine_nested (hn : ∀ c ∈ n, Text.isNameChar c = true) (hslash : '/' ∉ w) :
    NextLine (nested n w) := by
  have hne : ∀ c ∈ nested n w, c ≠ '/' :=
    forall_mem_nested hn (fun c hc => ne_of_isNameChar hc (by decide))
      (Text.forall_mem_of_all (by decide)) fun c hc h => hslash (h ▸ hc)
  exact .intro (c := 'n') (by decide) (by decide) fun hmem => hne '/' (.tail _ hmem) rfl

theorem uncommented_nested (hn : ∀ c ∈ n, Text.isNameChar c = true) (hw : Balanced w) :
    Uncommented (nested n w) := by
  rw [nested_eq]
  refine .append (.of_forall fun c hc => ?_)
    (.char (by decide) (by decide) (hw.uncommented.append
      (.of_forall (Text.forall_mem_of_all (by decide)))))
  have hordinary : IsOrdinary c := by
    simp only [List.mem_cons, List.mem_append, List.not_mem_nil, or_false] at hc
    rcases hc with rfl | hc | hc | rfl
    · decide
    · exact Text.forall_mem_of_all (p := IsOrdinary) (t := "namespace ".toList) (by decide) c hc
    · exact isOrdinary_of_isNameChar (hn c hc)
    · decide
  exact ⟨hordinary.isQuote_eq, hordinary.ne_slash⟩

/-- No name but one begins a statement in front of a brace. -/
theorem statement?_name_brace (hn : ∀ c ∈ n, Text.isNameChar c = true)
    (himport : n ≠ "import".toList) (file t : Text) :
    statement? file (n ++ (' ' :: '{' :: t)) = .ok none := by
  by_cases hword : n ∈ statementWords
  · -- the word stands there alone
    simp only [statementWords, List.map_cons, List.map_nil, List.mem_cons, List.not_mem_nil,
      or_false] at hword
    rcases hword with h | h | h | h | h
    · exact absurd h himport
    all_goals
      rw [h]
      rfl
  · refine statement?_word hn hword (fun c hc => ?_) file
    obtain rfl : ' ' = c := Option.some.inj hc
    decide

/-- A scan finds nothing in a namespace. -/
theorem scan_nested (hn : ∀ c ∈ n, Text.isNameChar c = true) (himport : n ≠ "import".toList)
    (hw : Balanced w) (file before : Text) : scan file before 0 (nested n w) = {} := by
  have hstatement := statement?_name_brace hn himport file (w ++ ['}', '\n'])
  have hname (before : Text) : scan file before 0 (n ++ (' ' :: '{' :: (w ++ ['}', '\n']))) =
      scan file (n.reverse ++ before) 0 (' ' :: '{' :: (w ++ ['}', '\n'])) := by
    cases n with
    | nil => rfl
    | cons c n =>
      obtain ⟨hc, hn⟩ := List.forall_mem_cons.1 hn
      rw [List.cons_append, scan_word hc hn hstatement, List.reverse_cons, List.append_assoc]
      rfl
  have hnamespace : ∀ c ∈ "amespace".toList, Text.isNameChar c = true :=
    Text.forall_mem_of_all (by decide)
  show scan file before 0 ('\n' :: 'n' :: ("amespace".toList ++ (' ' ::
    (n ++ (' ' :: '{' :: (w ++ ['}', '\n'])))))) = {}
  rw [scan_mark (by decide) (by decide),
    scan_word (by decide) hnamespace (statement?_of_head (by decide) file _),
    scan_mark (by decide) (by decide), hname, scan_mark (by decide) (by decide), scan_open,
    hw.scan_append, scan_close, scan_mark (by decide) (by decide), scan]

theorem exportEntries_append_nested (hn : ∀ c ∈ n, Text.isNameChar c = true)
    (hslash : '/' ∉ w) (t : Text) :
    exportEntries (t ++ nested n w) = exportEntries t ++ exportEntries (nested n w) := by
  refine exportEntries_append_nextLine (nextLine_nested hn hslash) ?_ t
  have hhead : ∀ c ∈ '\n' :: ("namespace ".toList ++ (n ++ [' '])), notBrace c = true := by
    intro c hc
    simp only [List.mem_cons, List.mem_append, List.not_mem_nil, or_false] at hc
    rcases hc with rfl | hc | hc | rfl
    · decide
    · exact Text.forall_mem_of_all (p := fun c => notBrace c = true) (t := "namespace ".toList)
        (by decide) c hc
    · have hordinary := isOrdinary_of_isNameChar (hn c hc)
      simp [notBrace, hordinary.ne_open, hordinary.ne_close]
    · decide
  rw [nested_eq]
  exact ⟨_, (Text.takeWhile_append_cons hhead (by decide) _).2⟩

end nested

/-! ### Documents -/

namespace Document

variable {file source text n w : Text}

theorem names_ofItems_all (file : Text) (items : List Declaration.Item)
    (entries entries' : List ExportEntry) :
    (ofItems .all file items entries').names = (ofItems .all file items entries).names := by
  simp [names, ofItems, Function.comp_def]

/-- Two lists of entries make the same document just if they mark each shape the same. -/
theorem ofItems_eq_iff (file : Text) {items : List Declaration.Item}
    {entries entries' : List ExportEntry} :
    (∀ visibility, ofItems visibility file items entries' = ofItems visibility file items entries) ↔
      ∀ e unsupported, .entity e unsupported ∈ items →
        exportedBy entries' e = exportedBy entries e := by
  constructor
  · intro h e unsupported he
    have hentities := congrArg entities (h .all)
    simp only [ofItems, reduceCtorEq, if_false] at hentities
    exact List.map_inj_left.1 hentities e (List.mem_filterMap.2 ⟨_, he, rfl⟩)
  · intro h visibility
    simp only [ofItems, mk.injEq, true_and, and_true]
    rw [List.map_congr_left (g := exportedBy entries)]
    intro e he
    obtain ⟨item, hitem, hfound⟩ := List.mem_filterMap.1 he
    split at hfound
    · cases hfound
      exact h e _ hitem
    · cases hfound

/-- If a namespace follows, the same is found in a source, and more export lists. -/
theorem ofSource_append_nested (visibility : Visibility)
    (hread : withoutComments source = .ok text) (hends : endsOutside file [] 0 text = true)
    (hn : ∀ c ∈ n, Text.isNameChar c = true) (himport : n ≠ "import".toList) (hw : Balanced w)
    (hslash : '/' ∉ w) :
    ofSource visibility file source =
        (.ok (ofItems visibility file (scan file [] 0 text).items (exportEntries text)),
          (scan file [] 0 text).items.flatMap (events file)) ∧
      ofSource visibility file (source ++ nested n w) =
        (.ok (ofItems visibility file (scan file [] 0 text).items
            (exportEntries text ++ exportEntries (nested n w))),
          (scan file [] 0 text).items.flatMap (events file)) := by
  have hnext : NextLine (nested n w) := nextLine_nested hn hslash
  obtain ⟨hstuck, hscan⟩ := scan_append hnext hends
  rw [scan_nested hn himport hw, List.append_nil] at hscan
  have hlonger := withoutComments_append hnext (uncommented_nested hn hw) hread
  unfold ofSource
  rw [hread, hlonger]
  simp only [hstuck, hscan, exportEntries_append_nested hn hslash, and_self]

/-- What stands in a namespace at the end of a file is no part of its document, nor reported. Its
export lists count all the same: the document stays as it is just if they change the marks of
no shape in front of it. The namespace may have any name but `import`, which begins a statement. -/
theorem ofSource_nested (hread : withoutComments source = .ok text)
    (hends : endsOutside file [] 0 text = true) (hn : ∀ c ∈ n, Text.isNameChar c = true)
    (himport : n ≠ "import".toList) (hw : Balanced w) (hslash : '/' ∉ w) :
    (∀ visibility, ∃ d d' events, ofSource visibility file source = (.ok d, events) ∧
        ofSource visibility file (source ++ nested n w) = (.ok d', events) ∧
        d'.imports = d.imports ∧ (visibility = .all → d'.names = d.names)) ∧
      ((∀ visibility, ofSource visibility file (source ++ nested n w) =
          ofSource visibility file source) ↔
        ∀ e unsupported, .entity e unsupported ∈ (scan file [] 0 text).items →
          exportedBy (exportEntries text ++ exportEntries (nested n w)) e =
            exportedBy (exportEntries text) e) := by
  constructor
  · intro visibility
    obtain ⟨hsource, hlonger⟩ := ofSource_append_nested visibility hread hends hn himport hw hslash
    refine ⟨_, _, _, hsource, hlonger, rfl, ?_⟩
    rintro rfl
    exact names_ofItems_all _ _ _ _
  · refine Iff.trans (forall_congr' fun visibility => ?_) (ofItems_eq_iff file)
    obtain ⟨hsource, hlonger⟩ := ofSource_append_nested visibility hread hends hn himport hw hslash
    rw [hsource, hlonger, Prod.mk.injEq, Except.ok.injEq, eq_self, and_true]

/-- One interface that is not exported. -/
def plainSource : Text := "interface A \x7b x: string \x7d\n".toList

/-- A literal with a brace in it. -/
def braceLiteral : Literal where
  quote := '\''
  rest := "\x7d'".toList
  isQuote_quote := isQuote_apostrophe
  closed := .char (by decide) (by decide) (by decide) .close

/-- Another interface and that literal, and an export list that names only what stands here. -/
def exportingOther : Text :=
  " interface B \x7b y: string \x7d\nconst s = '\x7d'\nexport \x7b B, s \x7d\n".toList

/-- An export list for the interface. -/
def exportingShape : Text := " export \x7b A \x7d ".toList

theorem withoutComments_plainSource : withoutComments plainSource = .ok plainSource := by
  decide +kernel

theorem endsOutside_plainSource : endsOutside "/a.ts".toList [] 0 plainSource = true := by
  decide +kernel

theorem balanced_exportingOther : Balanced exportingOther := by
  have htext : exportingOther = " interface B ".toList ++ ('{' :: (" y: string ".toList ++ []) ++
      '}' :: ("\nconst s = ".toList ++ (braceLiteral.text ++ ("\nexport ".toList ++
        ('{' :: (" B, s ".toList ++ []) ++ '}' :: ("\n".toList ++ [])))))) := by decide
  have hplain {t : Text} (ht : t.all fun c => IsOrdinary c) : Balanced (t ++ []) :=
    .append_of_all ht .nil
  rw [htext]
  exact .append_of_all (by decide) (.braces (hplain (by decide)) (.append_of_all (by decide)
    (.literal braceLiteral (.append_of_all (by decide)
      (.braces (hplain (by decide)) (hplain (by decide)))))))

theorem balanced_exportingShape : Balanced exportingShape := by
  have htext : exportingShape = " export ".toList ++
      ('{' :: (" A ".toList ++ []) ++ '}' :: (" ".toList ++ [])) := by decide
  have hplain {t : Text} (ht : t.all fun c => IsOrdinary c) : Balanced (t ++ []) :=
    .append_of_all ht .nil
  rw [htext]
  exact .append_of_all (by decide) (.braces (hplain (by decide)) (hplain (by decide)))

/-- An export list that names no shape of the file leaves its document as it is. -/
theorem ofSource_nested_exportingOther :
    Balanced exportingOther ∧ endsOutside "/a.ts".toList [] 0 plainSource = true ∧
      ∀ visibility, ofSource visibility "/a.ts".toList
        (plainSource ++ nested "N".toList exportingOther) =
          ofSource visibility "/a.ts".toList plainSource := by
  have hitems : (scan "/a.ts".toList [] 0 plainSource).items = [.entity {
      name := "A".toList
      properties := [{ name := "x".toList, type := "string".toList }]
      exported := false } []] := by decide +kernel
  refine ⟨balanced_exportingOther, endsOutside_plainSource, (ofSource_nested
    withoutComments_plainSource endsOutside_plainSource (Text.forall_mem_of_all (by decide))
    (by decide) balanced_exportingOther (by decide)).2.2 fun e unsupported he => ?_⟩
  rw [hitems, List.mem_singleton, Item.entity.injEq] at he
  rw [he.1]
  decide +kernel

/-- One that names a shape of the file exports it. -/
theorem names_ofSource_nested_exportingShape :
    withoutComments plainSource = .ok plainSource ∧
      endsOutside "/a.ts".toList [] 0 plainSource = true ∧
      Balanced exportingShape ∧ '/' ∉ exportingShape ∧
      (ofSource .exportedOnly "/a.ts".toList plainSource).1.toOption.map names = some [] ∧
      (ofSource .exportedOnly "/a.ts".toList
        (plainSource ++ nested "N".toList exportingShape)).1.toOption.map names =
          some ["A".toList] :=
  ⟨withoutComments_plainSource, endsOutside_plainSource, balanced_exportingShape, by decide,
    by decide +kernel, by decide +kernel⟩

end Document

end ShapeMapper
