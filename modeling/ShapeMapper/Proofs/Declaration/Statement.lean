import ShapeMapper.Proofs.Declaration.Body
import ShapeMapper.Proofs.Declaration.Import
import ShapeMapper.Proofs.Keyed

/-!
# Reading statements

A written declaration is read as what follows its name declares (`statement?_append`), which is
an entity for a shape (`Shape.declared_body`) and nothing for a union; a written import is read
as a whole (`Import.import?_append`). Other names and marks begin no statement.
-/

namespace ShapeMapper.Written

open Source Declaration

/-! ### Heads of declarations -/

theorem optionalWord_append (word : Text) {t : Text} (h : ∀ c ∈ t.head?, Text.isBlank c = false) :
    optionalWord word (word ++ ' ' :: t) = (true, t) := by
  rw [optionalWord, afterWord?_append word h]

theorem optionalWord_of_none {word t : Text} (h : afterWord? word t = none) :
    optionalWord word t = (false, t) := by
  rw [optionalWord, h]

/-- The head of a declaration without the words for its export. -/
def plainHead (ambient : Bool) (form : Form) (t : Text) : Text :=
  (if ambient then "declare ".toList else []) ++ (formWord form ++ ' ' :: t)

theorem not_isBlank_head_plainHead (ambient : Bool) (form : Form) (t : Text) :
    ∀ c ∈ (plainHead ambient form t).head?, Text.isBlank c = false := by
  intro c hc
  have hhead : ∃ d, (plainHead ambient form t).head? = some d ∧ Text.isBlank d = false := by
    cases ambient <;> cases form <;> exact ⟨_, rfl, rfl⟩
  obtain ⟨d, hd, hblank⟩ := hhead
  rwa [← Option.some.inj (hd.symm.trans hc)]

theorem optionalWord_declare (ambient : Bool) (form : Form) (t : Text) :
    optionalWord "declare".toList (plainHead ambient form t) =
      (ambient, formWord form ++ ' ' :: t) := by
  cases ambient with
  | false => exact optionalWord_of_none (by cases form <;> rfl)
  | true => exact optionalWord_append _ (not_isBlank_head_plainHead false form t)

/-- The name of a declaration is read after the words for its export. -/
theorem header?_of_optionalWord {ambient exported isDefault : Bool} {form : Form} {n : Name}
    {t u v : Text} (hv : ∀ c ∈ v.head?, Text.isNameChar c = false)
    (hexport : optionalWord "export".toList t = (exported, u))
    (hdefault : (if exported then optionalWord "default".toList u else (false, u)) =
      (isDefault, plainHead ambient form (n.text ++ v))) :
    header? t = some (⟨exported, isDefault, form, n.text⟩, v) := by
  have hblank : ∀ c ∈ (n.text ++ v).head?, Text.isBlank c = false := n.not_isBlank_head v
  simp only [header?, hexport, hdefault, optionalWord_declare]
  cases form
  · have hread : afterWord? "interface".toList (formWord .interface ++ ' ' :: (n.text ++ v)) =
        some (n.text ++ v) := afterWord?_append (formWord .interface) hblank
    simp only [hread, Option.bind_some, n.name?_append hv, Option.map_some, Option.some_or]
  · have hinterface : afterWord? "interface".toList
        (formWord .alias ++ ' ' :: (n.text ++ v)) = none := rfl
    have hread : afterWord? "type".toList (formWord .alias ++ ' ' :: (n.text ++ v)) =
        some (n.text ++ v) := afterWord?_append (formWord .alias) hblank
    simp only [hinterface, hread, Option.bind_none, Option.bind_some, Option.none_or,
      n.name?_append hv, Option.map_some]

theorem header?_append (modifier : Export) (ambient : Bool) (form : Form) (n : Name) {t : Text}
    (ht : ∀ c ∈ t.head?, Text.isNameChar c = false) :
    header? (modifier.text ++ plainHead ambient form (n.text ++ t)) =
      some (⟨modifier ≠ .unexported, modifier = .default, form, n.text⟩, t) := by
  have hblank := not_isBlank_head_plainHead ambient form (n.text ++ t)
  cases modifier with
  | unexported =>
    have hexport : afterWord? "export".toList (plainHead ambient form (n.text ++ t)) = none := by
      cases ambient <;> cases form <;> rfl
    exact header?_of_optionalWord ht (optionalWord_of_none hexport) rfl
  | plain =>
    have hdefault : afterWord? "default".toList (plainHead ambient form (n.text ++ t)) = none := by
      cases ambient <;> cases form <;> rfl
    exact header?_of_optionalWord ht (optionalWord_append _ hblank)
      (optionalWord_of_none hdefault)
  | default =>
    exact header?_of_optionalWord ht (optionalWord_append _ (by simp; decide))
      (optionalWord_append "default".toList hblank)

theorem import?_head_eq_none (file : Text) (modifier : Export) (ambient : Bool) (form : Form)
    (t : Text) : import? file (modifier.text ++ plainHead ambient form t) = none := by
  have hafter : Text.after? "import".toList (modifier.text ++ plainHead ambient form t) = none := by
    cases modifier <;> cases ambient <;> cases form <;> rfl
  rw [import?, hafter]
  rfl

/-- A declaration is read as what follows its name declares. -/
theorem statement?_append (file : Text) (modifier : Export) (ambient : Bool) (form : Form)
    (n : Name) {t : Text} (ht : ∀ c ∈ t.head?, Text.isNameChar c = false) :
    statement? file (modifier.text ++ plainHead ambient form (n.text ++ t)) =
      (declared ⟨modifier ≠ .unexported, modifier = .default, form, n.text⟩ t).map some := by
  rw [statement?, import?_head_eq_none, header?_append modifier ambient form n ht]

/-! ### Bodies of declarations -/

/-- The entity that a shape declares, as long as no export list names it. -/
def Shape.entity (s : Shape) : Entity where
  name := s.name.text
  properties := s.declaredProperties
  exported := s.modifier ≠ .unexported
  isDefault := s.modifier = .default

theorem Shape.ofBody_eq (s : Shape) :
    Item.ofBody ⟨s.modifier ≠ .unexported, s.modifier = .default, s.form, s.name.text⟩
      (s.properties.map fun p => .property p.declared) = .entity s.entity [] := by
  have hproperties : (s.properties.map fun p => Member.property p.declared).filterMap
      Member.property? = s.properties.map Property.declared := by
    rw [List.filterMap_map]
    exact congrFun List.filterMap_eq_map s.properties
  have hunsupported : (s.properties.map fun p => Member.property p.declared).filterMap
      Member.unsupported? = [] := by
    rw [List.filterMap_map, List.filterMap_eq_nil_iff]
    exact fun _ _ => rfl
  have hexported : (decide (s.modifier ≠ .unexported) || decide (s.modifier = .default)) =
      decide (s.modifier ≠ .unexported) := by
    cases s.modifier <;> rfl
  rw [Item.ofBody, hproperties, hunsupported, Entity.ofMembers, Keyed.ofList_eq, hexported]
  rfl

/-- The brace at the head of a text opens a body. -/
theorem openBody_brace (t : Text) :
    openBody (Cut.ofText ('{' :: t)).torn 0 (Cut.ofText ('{' :: t)).pieces = .ok t := by
  rw [ofText_char (by decide) (by decide), Cut.pieces_cons, Cut.torn_cons, openBody]
  exact congrArg Except.ok (Cut.textOf_ofText t)

theorem Shape.declared_body (s : Shape) {t : Text} (ht : isComposite t = false) :
    Declaration.declared ⟨s.modifier ≠ .unexported, s.modifier = .default, s.form, s.name.text⟩
      (formOpening s.form ++ (s.body ++ '}' :: t)) = .ok (some (.entity s.entity []), t) := by
  have hbody := s.bracketed_body.enclosed_append t
  have hitem := s.ofBody_eq
  cases hform : s.form <;> rw [hform] at hitem
  · have hparameters : afterTypeParameters (formOpening .interface ++ (s.body ++ '}' :: t)) =
        .ok ('{' :: (s.body ++ '}' :: t)) := rfl
    simp only [Declaration.declared, hparameters, openBody_brace, hbody, s.members_body, bind,
      Except.bind, pure, Except.pure, hitem]
  · have hparameters : afterTypeParameters (formOpening .alias ++ (s.body ++ '}' :: t)) =
        .ok ('=' :: ' ' :: '{' :: (s.body ++ '}' :: t)) := rfl
    have hopen : openAlias ('=' :: ' ' :: '{' :: (s.body ++ '}' :: t)) = .ok (s.body ++ '}' :: t) :=
      rfl
    simp only [Declaration.declared, hparameters, hopen, hbody, ht, s.members_body, bind,
      Except.bind, pure, Except.pure, hitem, Bool.false_eq_true, if_false]

theorem Alternative.exists_head (a : Alternative) :
    ∃ c t, a.text = c :: t ∧ Text.isBlank c = false ∧ c ≠ '{' := by
  cases a with
  | literal l =>
    refine ⟨l.quote, l.rest, rfl, ?_⟩
    rcases isQuote_iff.1 l.isQuote_quote with h | h | h <;> rw [h] <;> decide
  | name n =>
    have hfirst := Text.isNameChar_of_isNameStart n.isNameStart_first
    exact ⟨n.first, n.rest, rfl, Text.not_isBlank_of_isNameChar hfirst,
      ne_of_isNameChar hfirst (by decide)⟩

/-- A union declares no shape, and is read on from its alternatives. -/
theorem Union.declared_alternatives (u : Union) (exported isDefault : Bool) (t : Text) :
    Declaration.declared ⟨exported, isDefault, .alias, u.name.text⟩
      (" = ".toList ++ (u.alternatives ++ t)) = .ok (none, u.alternatives ++ t) := by
  obtain ⟨c, r, hfirst, hblank, hbrace⟩ := u.first.exists_head
  have hparameters : afterTypeParameters (" = ".toList ++ (u.alternatives ++ t)) =
      .ok ('=' :: ' ' :: (u.alternatives ++ t)) := rfl
  have hopen : openAlias ('=' :: ' ' :: (u.alternatives ++ t)) = .error (u.alternatives ++ t) := by
    have htrim : Text.trimStart (' ' :: (u.alternatives ++ t)) = u.alternatives ++ t := by
      have hspace : ∀ c ∈ [' '], Text.isBlank c = true := Text.forall_mem_of_all (by decide)
      rw [Union.alternatives, hfirst]
      exact (Text.trimStart_append hspace _).trans
        (Text.trimStart_eq_self fun d hd => Option.some.inj hd ▸ hblank)
    have hequals : Text.trimStart ('=' :: ' ' :: (u.alternatives ++ t)) =
        '=' :: ' ' :: (u.alternatives ++ t) := rfl
    unfold openAlias
    rw [hequals]
    simp only [htrim]
    rw [Union.alternatives, hfirst]
    split
    · next heq => exact absurd (List.cons.inj heq).1 hbrace
    · rfl
  simp only [Declaration.declared, hparameters, hopen, bind, Except.bind, pure, Except.pure]

/-! ### Imports -/

theorem isClauseChar_of_isNameChar {c : Char} (h : Text.isNameChar c = true) :
    isClauseChar c = true := by
  simp [isClauseChar, h]

theorem isClauseChar_of_mem_word {c : Char} {t : Text} (ht : t.all isClauseChar = true)
    (h : c ∈ t) : isClauseChar c = true :=
  List.all_eq_true.1 ht c h

theorem isClauseChar_of_mem_braced {blanks : Nat} {bindings : List Binding} {c : Char}
    (h : c ∈ braced blanks bindings) : isClauseChar c = true := by
  have hblank (h : c ∈ List.replicate blanks ' ') : isClauseChar c = true := by
    rw [List.eq_of_mem_replicate h]
    decide
  simp only [braced, List.mem_append, List.mem_cons, List.not_mem_nil, or_false] at h
  rcases h with (rfl | (h | h) | h) | rfl
  · decide
  · exact hblank h
  · exact forall_mem_listed (fun _ => isClauseChar_of_isNameChar) (by decide) (by decide)
      bindings c h
  · exact hblank h
  · decide

theorem Clause.isClauseChar_of_mem {x : Clause} {c : Char} (h : c ∈ x.text) :
    isClauseChar c = true := by
  cases x with
  | whole name => exact isClauseChar_of_isNameChar (Name.isNameChar_of_mem h)
  | named blanks bindings => exact isClauseChar_of_mem_braced h
  | both name blanks bindings =>
    simp only [Clause.text, List.mem_append] at h
    rcases h with (h | h) | h
    · exact isClauseChar_of_isNameChar (Name.isNameChar_of_mem h)
    · exact isClauseChar_of_mem_word (by decide) h
    · exact isClauseChar_of_mem_braced h

theorem Clause.text_ne_nil (x : Clause) : x.text ≠ [] := by
  cases x <;> simp [Clause.text, Name.text, braced]

theorem Import.isClauseChar_of_mem_middle {i : Import} {c : Char} (h : c ∈ i.middle) :
    isClauseChar c = true := by
  simp only [Import.middle, List.mem_append, List.mem_cons] at h
  rcases h with (rfl | h | h) | h
  · decide
  · split at h
    · exact isClauseChar_of_mem_word (by decide) h
    · cases h
  · exact Clause.isClauseChar_of_mem h
  · exact isClauseChar_of_mem_word (by decide) h

/-- The word in front of the specifier is taken off a clause. -/
theorem isClause_append {t : Text} (hlength : 2 ≤ t.length) (hhead : t.head?.any Text.isBlank) :
    isClause (t ++ " from ".toList) = true := by
  have hreverse : (t ++ " from ".toList).reverse.dropWhile Text.isBlank =
      "morf".toList ++ ' ' :: t.reverse := by
    rw [List.reverse_append]
    rfl
  have hafter : Text.after? "morf".toList ("morf".toList ++ ' ' :: t.reverse) =
      some (' ' :: t.reverse) := Text.after?_eq_some_iff.2 rfl
  have hhead' : (t ++ " from ".toList).head?.any Text.isBlank = true := by
    cases t with
    | nil => simp at hlength
    | cons c t => exact hhead
  simp only [isClause, hreverse, hafter, hhead']
  simp only [List.length_append, List.length_cons, List.length_reverse, List.head?_cons,
    Bool.and_true, Bool.and_eq_true, decide_eq_true_eq]
  exact ⟨⟨by simp; omega, by omega⟩, rfl⟩

/-- An import is read if what stands before its specifier is a clause. -/
theorem import?_quoted {middle specifier : Text} {quote : Char}
    (hquote : quote = '\'' ∨ quote = '"') (hmiddle : ∀ c ∈ middle, isClauseChar c = true)
    (hclause : isClause middle = true) (hne : specifier ≠ [])
    (hend : ∀ c ∈ specifier, c ≠ '\'' ∧ c ≠ '"' ∧ c ≠ '\n') (file t : Text) :
    Declaration.import? file ("import".toList ++ middle ++ quote :: specifier ++ [quote] ++ t) =
      some (⟨file, "import".toList ++ middle ++ quote :: specifier ++ [quote], specifier,
        Path.isRelative specifier⟩, t) := by
  have hafter : Text.after? "import".toList
      ("import".toList ++ middle ++ quote :: specifier ++ [quote] ++ t) =
      some (middle ++ quote :: (specifier ++ quote :: t)) :=
    Text.after?_eq_some_iff.2 (by simp)
  have hopening : isClauseChar quote = false := by
    rcases hquote with h | h <;> rw [h] <;> decide
  have hclosing : (!(quote = '\'' || quote = '"' || quote = '\n')) = false := by
    rcases hquote with h | h <;> rw [h] <;> rfl
  have hspecifier : ∀ c ∈ specifier, (!(c = '\'' || c = '"' || c = '\n')) = true := by
    intro c hc
    obtain ⟨hsingle, hdouble, hline⟩ := hend c hc
    simp [hsingle, hdouble, hline]
  obtain ⟨htake, hdrop⟩ :=
    Text.takeWhile_append_cons hmiddle hopening (specifier ++ quote :: t)
  obtain ⟨htake', hdrop'⟩ := Text.takeWhile_append_cons hspecifier hclosing t
  simp only [import?, hafter, Option.bind_eq_bind, Option.bind_some, htake, hdrop, htake', hdrop']
  rw [if_pos ⟨hquote, hclause, hne, trivial⟩]

theorem Import.import?_append (i : Import) (file t : Text) : import? file (i.statement ++ t) =
    some (i.declared file, t) := by
  have hlength : 2 ≤ (' ' :: ((if i.typeOnly then "type ".toList else []) ++
      i.clause.text)).length := by
    have hclause := List.length_pos_of_ne_nil i.clause.text_ne_nil
    rw [List.length_cons, List.length_append]
    omega
  have hclause : isClause i.middle = true := isClause_append hlength rfl
  have hend : ∀ c ∈ i.specifier, c ≠ '\'' ∧ c ≠ '"' ∧ c ≠ '\n' := by
    intro c hc
    obtain ⟨hsingle, hdouble, -, hline⟩ := i.not_end_of_mem c hc
    exact ⟨hsingle, hdouble, hline⟩
  exact import?_quoted i.quote_eq (fun c => Import.isClauseChar_of_mem_middle) hclause
    i.specifier_ne_nil hend file t

/-! ### Texts that are no statement -/

theorem import?_eq_none {file t : Text}
    (h : ∀ u, Text.after? "import".toList t = some u → u.head?.any Text.isBlank = false) :
    Declaration.import? file t = none := by
  unfold import?
  cases hafter : Text.after? "import".toList t with
  | none => rfl
  | some u =>
    have hclause : isClause (u.takeWhile isClauseChar) = false := by
      have hhead : (u.takeWhile isClauseChar).head?.any Text.isBlank = false := by
        have hu := h u hafter
        cases u with
        | nil => rfl
        | cons c u =>
          rw [List.takeWhile_cons]
          split
          · exact hu
          · rfl
      unfold isClause
      simp only [hhead, Bool.and_false]
      split <;> rfl
    simp only [Option.bind_eq_bind, Option.bind_some, hclause]
    split
    · split
      · simp
      · rfl
    · rfl

/-- A text is no statement if it begins with none of the words for one. -/
theorem statement?_eq_none {file t : Text}
    (himport : ∀ u, Text.after? "import".toList t = some u → u.head?.any Text.isBlank = false)
    (hexport : afterWord? "export".toList t = none)
    (hdeclare : afterWord? "declare".toList t = none)
    (hinterface : afterWord? "interface".toList t = none)
    (htype : afterWord? "type".toList t = none) : statement? file t = .ok none := by
  have hheader : header? t = none := by
    simp only [header?, optionalWord_of_none hexport, optionalWord_of_none hdeclare,
      Bool.false_eq_true, if_false, hinterface, htype, Option.bind_none, Option.or_none]
  rw [statement?, import?_eq_none himport, hheader]

theorem statement?_word {n : Text} (hchars : ∀ c ∈ n, Text.isNameChar c = true)
    (hn : n ∉ statementWords) {t : Text} (ht : ∀ c ∈ t.head?, Text.isNameChar c = false)
    (file : Text) : statement? file (n ++ t) = .ok none := by
  have hne {word : Text} (hword : word ∈ statementWords) : n ≠ word :=
    fun h => hn (h ▸ hword)
  have hafter {word : Text} (hword : word ∈ statementWords)
      (hall : word.all Text.isNameChar = true) : afterWord? word (n ++ t) = none :=
    afterWord?_eq_none (Text.forall_mem_of_all (by simpa using hall)) hchars ht
      (.inl (hne hword))
  refine statement?_eq_none ?_ (hafter (by decide) (by decide)) (hafter (by decide) (by decide))
    (hafter (by decide) (by decide)) (hafter (by decide) (by decide))
  intro u hu
  rw [Text.after?_eq_some_iff] at hu
  cases u with
  | nil => rfl
  | cons c u =>
    by_contra hblank
    have hblank : Text.isBlank c = true := by simpa using hblank
    have hword := Text.append_inj_of_isNameChar hchars (Text.forall_mem_of_all (by decide)) ht
      (by simpa using Text.not_isNameChar_of_isBlank hblank) hu
    exact hne (by decide) hword.1

theorem Name.statement?_append (n : Name) (hn : n.text ∉ statementWords) {t : Text}
    (ht : ∀ c ∈ t.head?, Text.isNameChar c = false) (file : Text) :
    statement? file (n.text ++ t) = .ok none :=
  statement?_word (fun _ => Name.isNameChar_of_mem) hn ht file

/-- The word in front of an export list begins no other statement. -/
theorem statement?_exports (file t : Text) :
    statement? file ("export".toList ++ ' ' :: '{' :: t) = .ok none := by
  have himport : Declaration.import? file ("export".toList ++ ' ' :: '{' :: t) = none := by
    refine import?_eq_none fun u hu => ?_
    cases hu
  have hheader : header? ("export".toList ++ ' ' :: '{' :: t) = none := rfl
  rw [statement?, himport, hheader]

/-- Every statement begins with one of four letters. -/
theorem statement?_of_head {c : Char} (hc : c ∉ ['i', 'e', 'd', 't']) (file t : Text) :
    statement? file (c :: t) = .ok none := by
  simp only [List.mem_cons, List.not_mem_nil, or_false, not_or] at hc
  obtain ⟨hi, he, hd, ht⟩ := hc
  refine statement?_eq_none ?_ (afterWord?_cons_of_ne (Ne.symm he) _ _)
    (afterWord?_cons_of_ne (Ne.symm hd) _ _) (afterWord?_cons_of_ne (Ne.symm hi) _ _)
    (afterWord?_cons_of_ne (Ne.symm ht) _ _)
  intro u hu
  rw [Text.after?_eq_some_iff] at hu
  exact absurd (List.cons.inj hu).1 hi

end ShapeMapper.Written
