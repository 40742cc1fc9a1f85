import ShapeMapper.Proofs.Declaration.RoundTrip
import ShapeMapper.Proofs.ImportBlock.Binding
import ShapeMapper.Proofs.Path.Specifier

/-!
# Reading a synthesized import

The import of a file's shapes is read back as one import and nothing else, whatever words its names
are, also the words of an import itself; its clause binds the default name before the braces and
each other name once inside of them (`Site.ofSource_entityImport`).
-/

namespace ShapeMapper

/-! ### Specifiers -/

namespace Path

theorem backslash_notMem_withSlashes (p : Text) : '\\' ∉ withSlashes p := by
  intro h
  obtain ⟨c, -, hc⟩ := List.mem_map.1 h
  split at hc
  · cases hc
  · next hne => exact hne hc

theorem backslash_notMem_relative (cwd source target : Text) :
    '\\' ∉ relative cwd source target := by
  intro h
  rcases mem_of_mem_dotted h with h | h | h
  · cases h
  · cases h
  · exact backslash_notMem_withSlashes _ h

theorem withoutExtension_subset (p : Text) : withoutExtension p ⊆ p := by
  unfold withoutExtension
  split
  · exact List.take_subset _ p
  · exact List.Subset.refl p

end Path

theorem Site.backslash_notMem_specifier (s : Site) (file : Text) : '\\' ∉ s.specifier file := by
  intro h
  unfold specifier at h
  have hrelative := Path.backslash_notMem_relative s.cwd s.output file
  cases hstrip : s.stripExtension <;> rw [hstrip] at h
  · exact hrelative h
  · exact hrelative (Path.withoutExtension_subset _ h)

/-! ### Imports as sources -/

namespace Document

open Source Declaration Written

section oneImport

variable {middle specifier : Text} {quote : Char} (hquote : quote = '\'' ∨ quote = '"')
  (hmiddle : ∀ c ∈ middle, isClauseChar c = true)
  (hend : ∀ c ∈ specifier, c ≠ '\'' ∧ c ≠ '"' ∧ c ≠ '\n')
include hquote hmiddle hend

theorem uncommented_import (hback : '\\' ∉ specifier) :
    Uncommented ("import".toList ++ middle ++ quote :: specifier ++ [quote]) := by
  let quoted : Quoted := {
    quote
    value := specifier
    quote_eq := hquote
    not_end_of_mem := by
      intro c hc
      obtain ⟨hsingle, hdouble, hline⟩ := hend c hc
      refine ⟨?_, fun h => hback (h ▸ hc), hline⟩
      rcases hquote with h | h <;> rw [h]
      · exact hsingle
      · exact hdouble }
  have htext : "import".toList ++ middle ++ quote :: specifier ++ [quote] =
      "import".toList ++ (middle ++ quoted.literal.text) := by
    simp [quoted, Quoted.text_literal, Quoted.text]
  rw [htext]
  exact (uncommented_of_all (by decide)).append
    ((uncommented_of_isClauseChar hmiddle).append (.of_literal _))

variable (hclause : isClause middle = true) (hne : specifier ≠ [])
include hclause hne

theorem scan_import (file : Text) :
    scan file [] 0 ("import".toList ++ middle ++ quote :: specifier ++ [quote]) = {
      items := [.imported {
        file
        text := "import".toList ++ middle ++ quote :: specifier ++ [quote]
        specifier
        relative := Path.isRelative specifier }] } := by
  have hread := import?_quoted hquote hmiddle hclause hne hend file []
  -- the import is all there is to scan
  generalize himport : (ImportStatement.mk file _ specifier _) = i at hread ⊢
  generalize hstatement : "import".toList ++ middle ++ quote :: specifier ++ [quote] = statement
    at hread himport ⊢
  have hhead : ∃ c r, statement = c :: r ∧ IsOrdinary c := by
    rw [← hstatement]
    exact ⟨'i', _, rfl, by decide⟩
  have hfound : scan file [] 0 (statement ++ []) =
      (scan file (statement.reverse ++ []) 0 []).after (some (.imported i)) :=
    scan_statement hhead rfl (by rw [statement?, hread])
  rw [List.append_nil] at hfound
  rw [hfound, scan]
  rfl

/-- A source that holds a clause with a specifier and nothing else is read as one import. -/
theorem ofSource_import (hback : '\\' ∉ specifier) (visibility : Visibility) (file : Text) :
    ofSource visibility file ("import".toList ++ middle ++ quote :: specifier ++ [quote]) =
      (.ok { file, imports := [{
        file
        text := "import".toList ++ middle ++ quote :: specifier ++ [quote]
        specifier
        relative := Path.isRelative specifier }] }, []) := by
  have huncommented := uncommented_import hquote hmiddle hend hback
  have hscan := scan_import hquote hmiddle hend hclause hne file
  simp only [ofSource, huncommented.withoutComments_eq, hscan]
  cases visibility <;> rfl

end oneImport

/-- A statement in single quotes is read as one import if its clause is not empty. -/
theorem ofSource_statement {inner specifier : Text} (hinner : inner ≠ [])
    (hchars : ∀ c ∈ inner, isClauseChar c = true) (hne : specifier ≠ [])
    (hend : ∀ c ∈ specifier, c ≠ '\'' ∧ c ≠ '"' ∧ c ≠ '\n') (hback : '\\' ∉ specifier)
    (visibility : Visibility) (file : Text) :
    ofSource visibility file
        ("import ".toList ++ inner ++ " from '".toList ++ specifier ++ ['\'']) =
      (.ok { file, imports := [{
        file
        text := "import ".toList ++ inner ++ " from '".toList ++ specifier ++ ['\'']
        specifier
        relative := Path.isRelative specifier }] }, []) := by
  have hmiddle : ∀ c ∈ ' ' :: inner ++ " from ".toList, isClauseChar c = true := by
    intro c hc
    rcases List.mem_append.1 hc with hc | hc
    · rcases List.mem_cons.1 hc with rfl | hc
      · decide
      · exact hchars c hc
    · exact isClauseChar_of_mem_word (by decide) hc
  have hlength : 2 ≤ (' ' :: inner).length := by
    have hpos := List.length_pos_of_ne_nil hinner
    rw [List.length_cons]
    omega
  have hstatement : "import ".toList ++ inner ++ " from '".toList ++ specifier ++ ['\''] =
      "import".toList ++ (' ' :: inner ++ " from ".toList) ++ '\'' :: specifier ++ ['\''] := by
    simp
  rw [hstatement]
  exact ofSource_import (.inl rfl) hmiddle hend (isClause_append hlength rfl) hne hback visibility
    file

end Document

/-! ### Bindings -/

namespace ImportBlock

/-- The names that an import binds before its braces. -/
def defaultNames (statement : Text) : List Text :=
  (clause? statement).elim [] fun clause => beforeBraces (withoutModifier clause)

/-- The names that an import binds in its braces. -/
def bracedNames (statement : Text) : List Text :=
  (clause? statement).elim [] fun clause => inBraces (withoutModifier clause)

example : defaultNames "import type, \x7b a, b as c \x7d from './a'".toList = ["type".toList] ∧
    bracedNames "import type, \x7b a, b as c \x7d from './a'".toList =
      ["a".toList, "c".toList] := by
  decide

end ImportBlock

namespace Site

open Declaration ImportBlock

variable {s : Site} {c : Contribution}

/-- A clause that binds a name is no empty text. -/
theorem intercalate_clauses_ne_nil (hnames : ∀ x ∈ c.names, Text.IsWord x)
    (hdefault : ∀ x ∈ c.defaultName, Text.IsWord x) (h : clauses c ≠ []) :
    ", ".toList.intercalate (clauses c) ≠ [] := by
  intro hempty
  obtain ⟨hbefore, hin⟩ := braces_clauses rfl hnames hdefault
  rw [hempty] at hbefore hin
  have hnamed : named c = [] := hin.symm
  have hnone : c.defaultName = none := Option.toList_eq_nil_iff.1 hbefore.symm
  rw [clauses_of_named_eq_nil hnamed, hnone] at h
  exact h rfl

/-- The import of a file's shapes is read back as one import: its text is the statement and its
specifier the one that reaches the file. Its clause binds the default name and nothing else before
the braces, and each other name once in them, in the order in which the names occur first. -/
theorem ofSource_entityImport {specifier : Text} (hne : c.names ≠ [])
    (hnames : ∀ x ∈ c.names, Text.IsWord x) (hdefault : ∀ x ∈ c.defaultName, Text.IsWord x)
    (hspecifier : s.specifier? c.file = .ok specifier) (hspecifierNe : specifier ≠ [])
    (hend : ∀ d ∈ specifier, d ≠ '\'' ∧ d ≠ '"' ∧ d ≠ '\n') :
    ∃ statement, s.entityImport c = .ok (some statement) ∧
      (∀ visibility file, Document.ofSource visibility file statement =
        (.ok { file, imports := [{
          file
          text := statement
          specifier
          relative := Path.isRelative specifier }] }, [])) ∧
      defaultNames statement = c.defaultName.toList ∧
      bracedNames statement = c.names.eraseDups.filter fun name => some name ≠ c.defaultName := by
  obtain ⟨name, hname⟩ := List.exists_mem_of_ne_nil _ hne
  have hclauses : clauses c ≠ [] := clauses_ne_nil hname (hnames name hname).ne_nil
  have hclause := clause?_import (quoteless_clauses hnames hdefault) specifier
  obtain ⟨hbefore, hin⟩ := braces_clauses rfl hnames hdefault
  refine ⟨_, entityImport_of_specifier? hclauses hspecifier, fun visibility file => ?_, ?_, ?_⟩
  · have hchars : ∀ d ∈ ", ".toList.intercalate (clauses c), isClauseChar d = true :=
      forall_mem_clauses (fun _ => Written.isClauseChar_of_isNameChar)
        (Text.forall_mem_of_all (by decide)) hnames hdefault
    have hback : '\\' ∉ specifier :=
      eq_of_specifier? hspecifier ▸ s.backslash_notMem_specifier c.file
    exact Document.ofSource_statement (intercalate_clauses_ne_nil hnames hdefault hclauses) hchars
      hspecifierNe hend hback visibility file
  · rw [defaultNames, hclause]
    exact hbefore
  · rw [bracedNames, hclause]
    exact hin

/-- Names that are the words of an import, one of them twice and one the default. -/
theorem ofSource_entityImport_keywords :
    let s : Site := { cwd := ['/'], output := "/out/mapper.ts".toList }
    let c : Contribution := {
      file := "/src/user.d.ts".toList
      names := ["from", "type", "import", "from", "as"].map String.toList
      defaultName := some "type".toList }
    let statement := "import type, \x7b from, import, as \x7d from '../src/user'".toList
    c.names ≠ [] ∧ (∀ x ∈ c.names, Text.IsWord x) ∧ (∀ x ∈ c.defaultName, Text.IsWord x) ∧
      s.specifier? c.file = .ok "../src/user".toList ∧ "../src/user".toList ≠ [] ∧
      (∀ d ∈ "../src/user".toList, d ≠ '\'' ∧ d ≠ '"' ∧ d ≠ '\n') ∧
      s.entityImport c = .ok (some statement) ∧
      (Document.ofSource .exportedOnly "mapper.ts".toList statement).1 = .ok {
        file := "mapper.ts".toList
        imports := [{
          file := "mapper.ts".toList
          text := statement
          specifier := "../src/user".toList
          relative := true }] } ∧
      defaultNames statement = ["type".toList] ∧
      bracedNames statement = ["from", "import", "as"].map String.toList := by
  intro s c statement
  have hne : c.names ≠ [] := List.cons_ne_nil _ _
  have hnames : ∀ x ∈ c.names, Text.IsWord x := by
    have hall : ∀ x ∈ c.names, x ≠ [] ∧ x.all Text.isNameChar = true := by decide
    exact fun x hx => ⟨(hall x hx).1, List.all_eq_true.1 (hall x hx).2⟩
  have hdefault : ∀ x ∈ c.defaultName, Text.IsWord x := by
    intro x hx
    obtain rfl : "type".toList = x := Option.some.inj hx
    exact hnames _ (by decide)
  have hspecifier : s.specifier? c.file = .ok "../src/user".toList := by decide +kernel
  have hend : ∀ d ∈ "../src/user".toList, d ≠ '\'' ∧ d ≠ '"' ∧ d ≠ '\n' :=
    Text.forall_mem_of_all (by decide)
  obtain ⟨t, himport, hread, hbinding, hbraced⟩ :=
    ofSource_entityImport hne hnames hdefault hspecifier (by decide) hend
  have ht : t = statement := by
    have hwritten : s.entityImport c = .ok (some statement) := by decide +kernel
    rw [hwritten] at himport
    exact (Option.some.inj (Except.ok.inj himport)).symm
  subst ht
  exact ⟨hne, hnames, hdefault, hspecifier, by decide, hend, himport,
    congrArg Prod.fst (hread .exportedOnly "mapper.ts".toList), hbinding, hbraced⟩

end Site

end ShapeMapper
