import ShapeMapper.ImportBlock
import ShapeMapper.Proofs.Declaration.Entity
import ShapeMapper.Proofs.Text.Name

/-!
# What an import binds

The local names that an import statement binds, read from its text (`ImportBlock.bound`): the
default name and the names in braces, under which `as` puts another. The import of a file's shapes
binds the names of its shapes and no others: `Site.bound_entityImport`.
-/

namespace ShapeMapper

namespace ImportBlock

/-- What stands between the bindings of an import. -/
def isListMark (c : Char) : Bool :=
  c = ',' || c = '{' || c = '}'

/-- What stands between the first word of an import and the word before its specifier. -/
def clause? (statement : Text) : Option Text := do
  let t ← Text.after? "import".toList statement
  let clause := Text.trimEnd (t.takeWhile fun c => !(c = '\'' || c = '"'))
  (Text.after? "morf".toList clause.reverse).map List.reverse

/-- A clause without the word `type` in front of it. Before a comma and at the end this word is a
name. -/
def withoutModifier (clause : Text) : Text :=
  match Text.after? "type".toList (Text.trimStart clause) with
  | none => clause
  | some t =>
    if t.head?.any Text.isNameChar then clause
    else
      match Text.trimStart t with
      | [] | ',' :: _ => clause
      | t => t

/-- The local names in a list of bindings: the last word of each. -/
def localNames (clause : Text) : List Text :=
  (clause.splitOnP isListMark).filterMap fun binding => (Text.words binding).getLast?

/-- The local names that an import binds. -/
def bound (statement : Text) : List Text :=
  match clause? statement with
  | some clause => localNames (withoutModifier clause)
  | none => []

/-- Every kind of binding at once. -/
example : bound "import type A, { b, c as d, type E } from './from'".toList =
    ["A", "b", "d", "E"].map String.toList := by decide

example : bound "import * as type from \"a\"".toList = ["type".toList] := by decide

theorem localNames_append (t u : Text) {c : Char} (hc : isListMark c = true) :
    localNames (t ++ c :: u) = localNames t ++ localNames u := by
  rw [localNames, List.splitOnP_append_cons t u hc, List.filterMap_append]
  rfl

theorem localNames_of_forall {t : Text} (h : ∀ c ∈ t, isListMark c = false) :
    localNames t = (Text.words t).getLast?.toList := by
  rw [localNames, List.splitOnP_eq_singleton h]
  cases hlast : (Text.words t).getLast? <;> simp [hlast]

theorem not_isListMark_of_isWord {t : Text} (h : Text.IsWord t) :
    ∀ c ∈ t, isListMark c = false := by
  intro c hc
  simp [isListMark, h.ne_of_mem hc (d := ',') (by decide),
    h.ne_of_mem hc (d := '{') (by decide), h.ne_of_mem hc (d := '}') (by decide)]

variable {name : Text} {names : List Text}

/-- A name with a blank before it, and a name with a blank on both sides. -/
theorem localNames_word (h : Text.IsWord name) :
    localNames (' ' :: name) = [name] ∧ localNames (' ' :: (name ++ [' '])) = [name] := by
  have hmark : ∀ c ∈ ' ' :: (name ++ [' ']), isListMark c = false := by
    have hblank : isListMark ' ' = false := by decide
    simpa [or_imp, forall_and, hblank] using not_isListMark_of_isWord h
  have hwords : Text.words name = [name] := Text.words_eq_singleton h.ne_nil h.not_isBlank
  constructor
  · rw [localNames_of_forall fun c hc => hmark c (List.mem_append_left [' '] hc),
      Text.words_blank_cons _ (by decide), hwords]
    rfl
  · rw [localNames_of_forall hmark, Text.words_blank_cons _ (by decide),
      Text.words_append_blank _ _ (by decide), hwords]
    rfl

/-- The names in braces are read back. -/
theorem localNames_intercalate (h : ∀ x ∈ names, Text.IsWord x) :
    localNames (' ' :: (", ".toList.intercalate names ++ [' '])) = names := by
  induction names with
  | nil => decide
  | cons x names ih =>
    cases names with
    | nil => simpa using (localNames_word (h x List.mem_cons_self)).2
    | cons y names =>
      have hrest := ih fun z hz => h z (List.mem_cons_of_mem x hz)
      have hsplit : ' ' :: (", ".toList.intercalate (x :: y :: names) ++ [' ']) =
          (' ' :: x) ++ ',' :: ' ' :: (", ".toList.intercalate (y :: names) ++ [' ']) := by
        simp [List.intercalate_cons_cons]
      rw [hsplit, localNames_append _ _ (by decide), hrest,
        (localNames_word (h x List.mem_cons_self)).1]
      rfl

/-- The word `type` is a name before a comma and at the end. -/
theorem withoutModifier_word (h : Text.IsWord name) {u : Text}
    (hu : u = [' '] ∨ ∃ v, u = ',' :: v) :
    withoutModifier (' ' :: (name ++ u)) = ' ' :: (name ++ u) := by
  have hstart : Text.trimStart (' ' :: (name ++ u)) = name ++ u := by
    obtain ⟨c, name, rfl⟩ := List.exists_cons_of_ne_nil h.ne_nil
    exact Text.trimStart_eq_self (t := c :: name ++ u) (by simpa using h.not_isBlank c (by simp))
  have hhead : ∀ c ∈ u.head?, Text.isNameChar c = false := by
    rcases hu with rfl | ⟨v, rfl⟩
    · simpa using (by decide : Text.isNameChar ' ' = false)
    · simpa using (by decide : Text.isNameChar ',' = false)
  unfold withoutModifier
  rw [hstart]
  split
  · rfl
  · next t ht =>
    split
    · rfl
    · next hname =>
      have ht : name ++ u = "type".toList ++ t := Text.after?_eq_some_iff.1 ht
      have hnext : ∀ c ∈ t.head?, Text.isNameChar c = false := by
        intro c hc
        rw [hc] at hname
        simpa using hname
      -- no character of a name follows `type`, so it is the whole word
      obtain ⟨-, rfl⟩ := Text.append_inj_of_isNameChar h.isNameChar
        (Text.forall_mem_of_all (by decide)) hhead hnext ht
      rcases hu with rfl | ⟨v, rfl⟩
      · rfl
      · rfl

/-- What stands before the specifier of an import without other quotes. -/
theorem clause?_import {inner : Text} (h : ∀ c ∈ inner, c ≠ '\'' ∧ c ≠ '"') (specifier : Text) :
    clause? ("import ".toList ++ inner ++ " from '".toList ++ specifier ++ ['\'']) =
      some (' ' :: (inner ++ [' '])) := by
  have hstatement : "import ".toList ++ inner ++ " from '".toList ++ specifier ++ ['\''] =
      "import".toList ++
        ((' ' :: (inner ++ " from ".toList)) ++ '\'' :: (specifier ++ ['\''])) := by
    simp
  have hclause : ∀ c ∈ ' ' :: (inner ++ " from ".toList), (!(c = '\'' || c = '"')) = true := by
    simpa [or_imp, forall_and] using ⟨fun c hc => (h c hc).1, fun c hc => (h c hc).2⟩
  have hwhile := (Text.takeWhile_append_cons hclause (c := '\'') (by decide)
    (specifier ++ ['\''])).1
  have hlast : ∀ c ∈ (' ' :: (inner ++ " from".toList)).getLast?, Text.isBlank c = false := by
    rw [← List.cons_append, List.getLast?_append]
    intro c hc
    cases hc
    decide
  have hend : Text.trimEnd (' ' :: (inner ++ " from ".toList)) =
      ' ' :: (inner ++ " from".toList) := by
    rw [show ' ' :: (inner ++ " from ".toList) = ' ' :: (inner ++ " from".toList) ++ [' '] by simp,
      Text.trimEnd_append Text.isBlank_of_mem_space, Text.trimEnd_eq_self hlast]
  have hfrom : Text.after? "morf".toList (' ' :: (inner ++ " from".toList)).reverse =
      some (' ' :: (inner ++ [' '])).reverse :=
    Text.after?_eq_some_iff.2 (by simp)
  unfold clause?
  simp only [hstatement, Text.after?_eq_some_iff.2 rfl, Option.bind_eq_bind, Option.bind_some,
    hwhile, hend, hfrom, Option.map_some, List.reverse_reverse]

/-- The names in braces, with a blank before and after the braces. -/
theorem localNames_braces (h : ∀ x ∈ names, Text.IsWord x) :
    localNames (' ' :: ("\x7b ".toList ++ ", ".toList.intercalate names ++
      " \x7d".toList ++ [' '])) = names := by
  have hsplit : ' ' :: ("\x7b ".toList ++ ", ".toList.intercalate names ++
      " \x7d".toList ++ [' ']) =
        [' '] ++ '{' :: ((' ' :: (", ".toList.intercalate names ++ [' '])) ++ '}' :: [' ']) := by
    simp
  rw [hsplit, localNames_append _ _ (by decide), localNames_append _ _ (by decide),
    localNames_intercalate h]
  exact List.append_nil names

/-- The names that a clause binds before its braces. -/
def beforeBraces (clause : Text) : List Text :=
  localNames (clause.takeWhile (· ≠ '\x7b'))

/-- The names that a clause binds in its braces. -/
def inBraces (clause : Text) : List Text :=
  localNames (clause.dropWhile (· ≠ '\x7b'))

theorem localNames_mark_cons (t : Text) {c : Char} (hc : isListMark c = true) :
    localNames (c :: t) = localNames t :=
  localNames_append [] t hc

theorem braces_of_notMem {t : Text} (h : '\x7b' ∉ t) :
    beforeBraces t = localNames t ∧ inBraces t = [] := by
  have hbefore : ∀ d ∈ t, decide (d ≠ '\x7b') = true := fun d hd =>
    decide_eq_true fun heq => h (heq ▸ hd)
  rw [beforeBraces, inBraces, List.takeWhile_eq_self_iff.2 hbefore,
    List.dropWhile_eq_nil_iff.2 hbefore]
  exact ⟨rfl, rfl⟩

theorem braces_of_cons {t : Text} (h : '\x7b' ∉ t) (u : Text) :
    beforeBraces (t ++ '\x7b' :: u) = localNames t ∧
      inBraces (t ++ '\x7b' :: u) = localNames u := by
  have hbefore : ∀ d ∈ t, decide (d ≠ '\x7b') = true := fun d hd =>
    decide_eq_true fun heq => h (heq ▸ hd)
  obtain ⟨htake, hdrop⟩ := Text.takeWhile_append_cons hbefore (c := '\x7b') (by decide) u
  rw [beforeBraces, inBraces, htake, hdrop, localNames_mark_cons _ (by decide)]
  exact ⟨rfl, rfl⟩

/-- The names of a clause are those before its braces and those in them. -/
theorem localNames_eq_append (clause : Text) :
    localNames clause = beforeBraces clause ++ inBraces clause := by
  by_cases h : '\x7b' ∈ clause
  · obtain ⟨t, u, rfl, ht⟩ := List.eq_append_cons_of_mem h
    rw [(braces_of_cons ht u).1, (braces_of_cons ht u).2, localNames_append t u (by decide)]
  · rw [(braces_of_notMem h).1, (braces_of_notMem h).2, List.append_nil]

/-- The names in braces are read apart from what stands before them. -/
theorem braces_of_append {t : Text} (h : '\x7b' ∉ t) (hnames : ∀ x ∈ names, Text.IsWord x) :
    let clause := t ++ ("\x7b ".toList ++ ", ".toList.intercalate names ++ " \x7d".toList ++ [' '])
    beforeBraces clause = localNames t ∧ inBraces clause = names := by
  intro clause
  obtain ⟨inner, hinner⟩ : ∃ inner, inner =
      ' ' :: (", ".toList.intercalate names ++ " \x7d".toList ++ [' ']) := ⟨_, rfl⟩
  have hclause : clause = t ++ '\x7b' :: inner := by
    rw [hinner]
    rfl
  obtain ⟨hbefore, hin⟩ := braces_of_cons h inner
  -- neither the brace nor the blank before it holds a name
  have hbrace : localNames (' ' :: '\x7b' :: inner) = localNames inner :=
    localNames_append [' '] inner (by decide)
  rw [hclause, hbefore, hin, ← hbrace, hinner]
  exact ⟨rfl, localNames_braces hnames⟩

end ImportBlock

namespace Site

open ImportBlock

variable {s : Site} {c : Contribution} {t : Text}

theorem eq_of_specifier? {file specifier : Text} (h : s.specifier? file = .ok specifier) :
    specifier = s.specifier file := by
  unfold specifier? at h
  split at h
  · cases h
  · exact (Except.ok.inj h).symm

theorem eq_of_entityImport (h : s.entityImport c = .ok (some t)) :
    t = "import ".toList ++ ", ".toList.intercalate (clauses c) ++ " from '".toList ++
      s.specifier c.file ++ ['\''] := by
  unfold entityImport at h
  split at h
  · cases h
  · obtain ⟨specifier, hspecifier, h⟩ := exists_ok_of_bind h
    cases h
    rw [eq_of_specifier? hspecifier]

theorem entityImport_of_specifier? {specifier : Text} (hclauses : clauses c ≠ [])
    (h : s.specifier? c.file = .ok specifier) :
    s.entityImport c = .ok (some ("import ".toList ++ ", ".toList.intercalate (clauses c) ++
      " from '".toList ++ specifier ++ ['\''])) := by
  unfold entityImport
  split
  · next hnil => exact absurd hnil hclauses
  · rw [h]
    rfl

/-- A file with a shape has something to import. -/
theorem clauses_ne_nil {name : Text} (hname : name ∈ c.names) (hne : name ≠ []) :
    clauses c ≠ [] := by
  unfold clauses
  by_cases hdefault : c.defaultName = some name
  · simp [hdefault, hne, Option.filter]
  · have hnamed : name ∈ c.names.eraseDups.filter fun x => some x ≠ c.defaultName := by
      rw [List.mem_filter, List.mem_eraseDups]
      exact ⟨hname, decide_eq_true fun h => hdefault h.symm⟩
    simp only [if_neg (List.ne_nil_of_mem hnamed)]
    simp

/-- Whatever holds of names, blanks, commas and braces holds of the bindings of an import. -/
theorem forall_mem_clauses {P : Char → Prop} (hname : ∀ d, Text.isNameChar d = true → P d)
    (hmark : ∀ d ∈ [' ', ',', '\x7b', '\x7d'], P d) (hnames : ∀ x ∈ c.names, Text.IsWord x)
    (hdefault : ∀ x ∈ c.defaultName, Text.IsWord x) :
    ∀ d ∈ ", ".toList.intercalate (clauses c), P d := by
  have hcomma : ∀ d ∈ ", ".toList, P d := by
    simpa using ⟨hmark ',' (by simp), hmark ' ' (by simp)⟩
  refine Text.forall_mem_intercalate hcomma fun clause hclause => ?_
  unfold clauses at hclause
  rcases List.mem_append.1 hclause with h | h
  · have hclause : c.defaultName = some clause ∧ clause ≠ [] := by simpa using h
    exact fun d hd => hname d ((hdefault clause hclause.1).isNameChar d hd)
  · split at h
    · cases h
    · obtain rfl := List.mem_singleton.1 h
      have hnamed : ∀ d ∈ ", ".toList.intercalate (c.names.eraseDups.filter fun name =>
          some name ≠ c.defaultName), P d :=
        Text.forall_mem_intercalate hcomma fun x hx d hd => hname d
          ((hnames x (List.mem_eraseDups.1 (List.mem_filter.1 hx).1)).isNameChar d hd)
      simpa [or_imp, forall_and, hmark] using hnamed

theorem quoteless_clauses (hnames : ∀ x ∈ c.names, Text.IsWord x)
    (hdefault : ∀ x ∈ c.defaultName, Text.IsWord x) :
    ∀ d ∈ ", ".toList.intercalate (clauses c), d ≠ '\'' ∧ d ≠ '"' := by
  refine forall_mem_clauses (fun d hd => ?_) (Text.forall_mem_of_all (by decide)) hnames hdefault
  constructor <;> rintro rfl <;> exact absurd hd (by decide)

/-- The names that the import of a file's shapes has in its braces. -/
def named (c : Contribution) : List Text :=
  c.names.eraseDups.filter fun name => some name ≠ c.defaultName

theorem clauses_of_named (hnamed : named c ≠ []) : clauses c =
    (c.defaultName.filter (· ≠ [])).toList ++
      ["\x7b ".toList ++ ", ".toList.intercalate (named c) ++ " \x7d".toList] := by
  unfold clauses
  exact congrArg (_ ++ ·) (if_neg hnamed)

theorem clauses_of_named_eq_nil (hnamed : named c = []) :
    clauses c = (c.defaultName.filter (· ≠ [])).toList := by
  unfold clauses
  exact (congrArg (_ ++ ·) (if_pos hnamed)).trans (List.append_nil _)

section braces

variable {clause : Text}
  (hclause : clause = withoutModifier (' ' :: (", ".toList.intercalate (clauses c) ++ [' '])))
include hclause

theorem braces_clauses_of_none (hdefault : c.defaultName = none)
    (hnamed : ∀ x ∈ named c, Text.IsWord x) :
    beforeBraces clause = [] ∧ inBraces clause = named c := by
  by_cases hnil : named c = []
  · rw [hclause, clauses_of_named_eq_nil hnil, hdefault, hnil]
    exact ⟨rfl, rfl⟩
  · obtain ⟨hbefore, hin⟩ := braces_of_append (t := [' ']) (by decide) hnamed
    have htext : clause = [' '] ++ ("\x7b ".toList ++ ", ".toList.intercalate (named c) ++
        " \x7d".toList ++ [' ']) := by
      have hbrace (u : Text) : withoutModifier (' ' :: '\x7b' :: u) = ' ' :: '\x7b' :: u := rfl
      rw [hclause, clauses_of_named hnil, hdefault, Option.filter_none, Option.toList_none,
        List.nil_append, List.intercalate_singleton]
      exact hbrace _
    rw [htext, hbefore]
    exact ⟨rfl, hin⟩

theorem braces_clauses_of_some {name : Text} (hdefault : c.defaultName = some name)
    (hword : Text.IsWord name) (hnamed : ∀ x ∈ named c, Text.IsWord x) :
    beforeBraces clause = [name] ∧ inBraces clause = named c := by
  have hbrace : '\x7b' ∉ name := fun h => hword.ne_of_mem h (by decide) rfl
  have hfilter : ((some name).filter (· ≠ [])).toList = [name] := by
    simp [Option.filter, hword.ne_nil]
  by_cases hnil : named c = []
  · obtain ⟨hbefore, hin⟩ := braces_of_notMem (t := ' ' :: (name ++ [' '])) (by simp [hbrace])
    have htext : clause = ' ' :: (name ++ [' ']) := by
      rw [hclause, clauses_of_named_eq_nil hnil, hdefault, hfilter, List.intercalate_singleton,
        withoutModifier_word hword (.inl rfl)]
    rw [htext, hbefore, (localNames_word hword).2, hin, hnil]
    exact ⟨rfl, rfl⟩
  · obtain ⟨hbefore, hin⟩ := braces_of_append (t := ' ' :: (name ++ ", ".toList))
      (by simp [hbrace]) hnamed
    have htext : clause = ' ' :: (name ++ ", ".toList) ++ ("\x7b ".toList ++
        ", ".toList.intercalate (named c) ++ " \x7d".toList ++ [' ']) := by
      have hseparator : ", ".toList = [',', ' '] := rfl
      have hkept := withoutModifier_word hword (.inr ⟨' ' :: ("\x7b ".toList ++
        ", ".toList.intercalate (named c) ++ " \x7d".toList ++ [' ']), rfl⟩)
      rw [hclause, clauses_of_named hnil, hdefault, hfilter, List.singleton_append,
        List.intercalate_cons_cons, List.intercalate_singleton, hseparator]
      simpa only [List.append_assoc, List.cons_append, List.nil_append, hseparator] using hkept
    have hname : localNames (' ' :: (name ++ ", ".toList)) = [name] := by
      have hcut := localNames_append (' ' :: name) [' '] (c := ',') (by decide)
      rw [(localNames_word hword).1] at hcut
      exact hcut
    rw [htext, hbefore, hname]
    exact ⟨rfl, hin⟩

/-- The clause of an import binds the default name before its braces, and the others inside. -/
theorem braces_clauses (hnames : ∀ x ∈ c.names, Text.IsWord x)
    (hdefault : ∀ x ∈ c.defaultName, Text.IsWord x) :
    beforeBraces clause = c.defaultName.toList ∧ inBraces clause = named c := by
  have hnamed : ∀ x ∈ named c, Text.IsWord x := fun x hx =>
    hnames x (List.mem_eraseDups.1 (List.mem_filter.1 hx).1)
  cases hd : c.defaultName with
  | none => exact braces_clauses_of_none hclause hd hnamed
  | some name => exact braces_clauses_of_some hclause hd (hdefault name hd) hnamed

end braces

/-- The import of a file's shapes binds the default name and the other names, each once. -/
theorem bound_entityImport (hnames : ∀ x ∈ c.names, Text.IsWord x)
    (hdefault : ∀ x ∈ c.defaultName, Text.IsWord x) (h : s.entityImport c = .ok (some t)) :
    bound t = c.defaultName.toList ++
      c.names.eraseDups.filter fun name => some name ≠ c.defaultName := by
  obtain ⟨hbefore, hin⟩ := braces_clauses rfl hnames hdefault
  rw [eq_of_entityImport h, bound, clause?_import (quoteless_clauses hnames hdefault)]
  show localNames _ = _
  rw [localNames_eq_append, hbefore, hin, named]

end Site

end ShapeMapper
