import ShapeMapper.Proofs.Declaration.RoundTrip
import ShapeMapper.Proofs.Declaration.TemplateLiteral

/-!
# Type parameters

What may stand in the angle brackets behind the name of a declaration (`TypeParameters`), and that
none of it is taken for the bracket that closes them, so that reading goes on behind that bracket
(`TypeParameters.afterTypeParameters_angles`). A shape is what its body makes it, so a declaration
gives the same document with type parameters and the types it extends as without them:
`Document.ofSource_clauses`.
-/

namespace ShapeMapper

open Source Declaration Written

/-! ### Type parameters -/

namespace Source

/-- An equals sign is a piece of its own unless it begins an arrow. -/
theorem ofText_equals_of_head? {t : Text} (ht : t.head? ≠ some '>') :
    Cut.ofText ('=' :: t) = Cut.cons (.char '=') (Cut.ofText t) :=
  ofText_cons_of_read? (by simp [Piece.read?, isQuote, ht])

end Source

namespace Declaration

/-- A text in which every angle bracket has its partner, as type parameters are. Only the brackets
of this kind are paired. -/
inductive TypeParameters : Text → Prop
  | nil : TypeParameters []
  | char {c : Char} {t : Text} (hquote : isQuote c = false)
      (hc : c ∉ ['=', '<', '>', '/']) (h : TypeParameters t) : TypeParameters (c :: t)
  /-- The equals sign of a default. -/
  | equals {t : Text} (ht : t.head? ≠ some '>') (h : TypeParameters t) : TypeParameters ('=' :: t)
  | arrow {t : Text} (h : TypeParameters t) : TypeParameters ('=' :: '>' :: t)
  | literal {t : Text} (l : Literal) (h : TypeParameters t) : TypeParameters (l.text ++ t)
  | angles {body t : Text} (hbody : TypeParameters body) (hlast : body.getLast? ≠ some '=')
      (h : TypeParameters t) : TypeParameters ('<' :: body ++ '>' :: t)

/-- The text behind the bracket that closes a type parameter list in the midst of a text. -/
def closeAngle (depth : Nat) (t : Text) : Except Stuck Text :=
  closeTypeParameters (Cut.ofText t).torn depth (Cut.ofText t).pieces

section closeAngle

variable (depth : Nat) (t : Text)

theorem closeAngle_of_piece {piece : Piece} {u : Text}
    (h : Cut.ofText u = Cut.cons piece (Cut.ofText t)) (hopen : piece ≠ .char '<')
    (hclose : piece ≠ .char '>') : closeAngle depth u = closeAngle depth t := by
  rw [closeAngle, h]
  exact Bracketed.closeTypeParameters_cons hopen hclose depth _

theorem closeAngle_open : closeAngle depth ('<' :: t) = closeAngle (depth + 1) t := by
  rw [closeAngle, ofText_char (by decide) (by decide)]
  show closeTypeParameters _ depth (.char '<' :: _) = _
  rw [closeTypeParameters, if_pos rfl]
  · rfl
  · decide

theorem closeAngle_close : closeAngle (depth + 1) ('>' :: t) = closeAngle depth t := by
  rw [closeAngle, ofText_char (by decide) (by decide)]
  rfl

theorem closeAngle_last : closeAngle 0 ('>' :: t) = .ok t := by
  rw [closeAngle, ofText_char (by decide) (by decide)]
  exact congrArg Except.ok (Cut.textOf_ofText t)

end closeAngle

namespace TypeParameters

variable {t u : Text}

/-- Whether a text makes no arrow with the one behind it. -/
def MakesNoArrow (t u : Text) : Prop :=
  t.getLast? = some '=' → u.head? ≠ some '>'

theorem makesNoArrow_of_append {v : Text} (h : MakesNoArrow (v ++ t) u) : MakesNoArrow t u :=
  fun hlast => h (by rw [List.getLast?_append, hlast]; rfl)

/-- Type parameters close no list that is open before them. -/
theorem closeAngle_append (h : TypeParameters t) (hu : MakesNoArrow t u) (depth : Nat) :
    closeAngle depth (t ++ u) = closeAngle depth u := by
  induction h generalizing u depth with
  | nil => rfl
  | @char c t hquote hc _ ih =>
    simp only [List.mem_cons, List.not_mem_nil, or_false, not_or] at hc
    obtain ⟨hequals, hopen, hclose, -⟩ := hc
    rw [List.cons_append, closeAngle_of_piece depth _ (ofText_char hquote hequals _)
      (by simpa using hopen) (by simpa using hclose)]
    exact ih (makesNoArrow_of_append (v := [c]) hu) depth
  | @equals t ht _ ih =>
    have hhead : (t ++ u).head? ≠ some '>' := by
      cases t with
      | nil => exact hu rfl
      | cons c t => exact ht
    rw [List.cons_append, closeAngle_of_piece depth _ (ofText_equals_of_head? hhead)
      (by decide) (by decide)]
    exact ih (makesNoArrow_of_append (v := ['=']) hu) depth
  | arrow _ ih =>
    rw [List.cons_append, List.cons_append, closeAngle_of_piece depth _ (ofText_arrow _)
      (by simp) (by simp)]
    exact ih (makesNoArrow_of_append (v := ['=', '>']) hu) depth
  | literal l _ ih =>
    rw [List.append_assoc, closeAngle_of_piece depth _ (ofText_literal l _) (by simp) (by simp)]
    exact ih (makesNoArrow_of_append hu) depth
  | angles _ hlast _ ihbody ih =>
    rw [List.append_cons] at hu
    rw [List.cons_append, List.cons_append, List.append_assoc, closeAngle_open,
      ihbody fun h => absurd h hlast, List.cons_append, closeAngle_close]
    exact ih (makesNoArrow_of_append hu) depth

/-- Reading goes on behind the type parameters. -/
theorem afterTypeParameters_angles (h : TypeParameters t) (hlast : t.getLast? ≠ some '=')
    (u : Text) : afterTypeParameters ('<' :: t ++ '>' :: u) = .ok u := by
  show closeAngle 0 (t ++ '>' :: u) = .ok u
  rw [h.closeAngle_append fun h => absurd h hlast, closeAngle_last]

theorem chars_append {s : Text} (h : TypeParameters t)
    (hs : s.all fun c => isQuote c = false ∧ c ∉ ['=', '<', '>', '/']) :
    TypeParameters (s ++ t) := by
  have hmem : ∀ c ∈ s, isQuote c = false ∧ c ∉ ['=', '<', '>', '/'] := Text.forall_mem_of_all hs
  clear hs
  induction s with
  | nil => exact h
  | cons c s ih =>
    have hc := hmem c List.mem_cons_self
    exact .char hc.1 hc.2 (ih fun d hd => hmem d (List.mem_cons_of_mem c hd))

theorem uncommented (h : TypeParameters t) : Uncommented t := by
  induction h with
  | nil => exact .nil
  | char hquote hc _ ih => exact .char hquote (fun h => hc (by simp [h])) ih
  | equals _ _ ih => exact .char (by decide) (by decide) ih
  | arrow _ ih => exact .char (by decide) (by decide) (.char (by decide) (by decide) ih)
  | literal l _ ih => exact .literal l ih
  | angles _ _ _ ihbody ih =>
    have hclose : Uncommented ('>' :: _) := .char (by decide) (by decide) ih
    exact .char (by decide) (by decide) (ihbody.append hclose)

theorem uncommented_angles (h : TypeParameters t) (hu : Uncommented u) :
    Uncommented ('<' :: t ++ '>' :: u) :=
  .char (by decide) (by decide) (h.uncommented.append (.char (by decide) (by decide) hu))

end TypeParameters

end Declaration

/-! ### Names in export lists -/

namespace Declaration

variable {t names : Text} {x : ExportEntry}

/-- An export list is read from its first words up to a closing brace. -/
theorem exists_of_exportList? (h : exportList? t = some names) :
    ∃ head rest, ListHead head ∧ t = head ++ (names ++ '}' :: rest) := by
  unfold exportList? at h
  obtain ⟨u, hu, h⟩ := Option.bind_eq_some_iff.1 h
  dsimp only at h
  obtain ⟨v, hv, h⟩ := Option.bind_eq_some_iff.1 h
  split at h
  · next rest hdrop =>
    have hnames : v.takeWhile (fun c => !(c = '{' || c = '}')) = names := by
      split at h
      · cases h
      · exact Option.some.inj h
    have hv' : v = names ++ '}' :: rest := by
      rw [← hnames, ← hdrop, List.takeWhile_append_dropWhile]
    rw [Text.after?_eq_some_iff] at hv
    obtain ⟨gap, hgap, rfl⟩ := exists_gap_of_afterWord? hu
    cases htype : afterWord? "type".toList u with
    | none =>
      rw [optionalWord_of_none htype] at hv
      obtain rfl : u = '{' :: v := hv
      exact ⟨_, rest, .plain hgap, by simp [hv']⟩
    | some w =>
      obtain ⟨gap', hgap', rfl⟩ := exists_gap_of_afterWord? htype
      rw [optionalWord, htype] at hv
      obtain rfl : w = '{' :: v := hv
      exact ⟨_, rest, .typeOnly hgap hgap', by simp [hv']⟩
  · cases h

theorem name_infix_of_ofText? (h : ExportEntry.ofText? t = some x) : x.name <:+: t := by
  have hlocal : ((Text.cut? " as ".toList t).getD (t, [])).1 <:+: t := by
    cases hcut : Text.cut? " as ".toList t with
    | none => exact List.infix_rfl
    | some parts =>
      rw [Text.eq_append_of_cut? hcut, List.append_assoc]
      exact (List.prefix_append _ _).isInfix
  refine List.IsInfix.trans ?_ ((Text.strip_isInfix _).trans hlocal)
  unfold ExportEntry.ofText? at h
  dsimp only at h
  split at h
  · cases h
  · cases h
    dsimp only
    cases htype : Text.after? "type ".toList
      (Text.strip ((Text.cut? " as ".toList t).getD (t, [])).1) with
    | none => exact List.infix_rfl
    | some rest =>
      rw [Text.after?_eq_some_iff.1 htype]
      exact (Text.strip_isInfix rest).trans (List.suffix_append _ _).isInfix

/-- The name of an entry stands in a list. -/
theorem exists_of_mem_exportEntries (h : x ∈ exportEntries t) :
    ∃ before u names, t = before ++ u ∧ exportList? u = some names ∧ x.name <:+: names := by
  induction t with
  | nil => cases h
  | cons c t ih =>
    rw [exportEntries_cons] at h
    rcases List.mem_append.1 h with h | h
    · cases hlist : exportList? (c :: t) with
      | none =>
        rw [hlist] at h
        cases h
      | some names =>
        rw [hlist] at h
        obtain ⟨part, hpart, hx⟩ := List.mem_filterMap.1 h
        have hnames : part <:+: [','].intercalate (names.splitOn ',') :=
          Text.infix_intercalate hpart
        rw [List.intercalate_splitOn] at hnames
        exact ⟨[], c :: t, names, rfl, hlist, (name_infix_of_ofText? hx).trans hnames⟩
    · obtain ⟨before, u, names, rfl, hlist⟩ := ih h
      exact ⟨c :: before, u, names, rfl, hlist⟩

/-- A name in front of a text without the word `export` is not exported by a list. A list would
have to begin in the name, but what it lists stands behind the name. -/
theorem name_ne_of_mem_exportEntries {form : Form} {n : Name}
    (ht : ∃ c u, t = c :: u ∧ Text.isNameChar c = false) (hexport : ¬"export".toList <:+: t)
    (hx : x ∈ exportEntries (Export.plain.text ++ plainHead false form (n.text ++ t))) :
    x.name ≠ n.text := by
  intro hname
  obtain ⟨before, u, names, htext, hlist, hinfix⟩ := exists_of_mem_exportEntries hx
  obtain ⟨head, rest, hhead, rfl⟩ := exists_of_exportList? hlist
  have hword : "export".toList <+: head := by
    cases hhead <;> exact List.prefix_append _ _
  have hn : ¬"export".toList <:+: n.text := by
    obtain ⟨m, rfl, -, -, -⟩ := InterfaceFile.exists_of_listHead hhead
    have hwords : '{' ∉ "export ".toList ++ (formWord form ++ [' ']) := by cases form <;> decide
    have hbrace : '{' ∉ "export ".toList ++ (formWord form ++ [' ']) ++ n.text :=
      List.not_mem_append hwords fun hmem =>
        ne_of_isNameChar (Name.isNameChar_of_mem hmem) (by decide) rfl
    have hsplit : "export ".toList ++ (formWord form ++ [' ']) ++ n.text ++ t =
        before ++ m ++ '{' :: (names ++ '}' :: rest) := by
      have hplain : "export ".toList ++ (formWord form ++ ' ' :: (n.text ++ t)) =
          before ++ (m ++ ['{'] ++ (names ++ '}' :: rest)) := htext
      simpa only [List.append_assoc, List.cons_append, List.nil_append] using hplain
    obtain ⟨v, rfl⟩ := Text.exists_append_of_notMem hbrace hsplit
    have hlisted : names <:+: v ++ '{' :: (names ++ '}' :: rest) :=
      ⟨v ++ ['{'], '}' :: rest, by simp⟩
    exact fun h => hexport (h.trans (hname ▸ hinfix.trans hlisted))
  cases before with
  | nil =>
    rw [List.nil_append] at htext
    rw [← htext, exportList?_plainHead .plain] at hlist
    cases hlist
  | cons c before =>
    -- behind the first character the word stands neither in front of the name nor in it
    have hlater : "export".toList <:+: "xport".toList ++ ' ' :: (formWord form ++ ' ' ::
        (n.text ++ t)) := by
      have htail := (List.cons.inj htext).2
      have hsuffix : head ++ (names ++ '}' :: rest) <:+ "xport".toList ++ ' ' :: (formWord form ++
          ' ' :: (n.text ++ t)) := ⟨before, htail.symm⟩
      exact (hword.trans (List.prefix_append _ _)).isInfix.trans hsuffix.isInfix
    obtain ⟨d, v, rfl, hd⟩ := ht
    have hmark : d ∉ "export".toList := fun hmem => by
      have hchars : ∀ c ∈ "export".toList, Text.isNameChar c = true :=
        Text.forall_mem_of_all (by decide)
      rw [hchars d hmem] at hd
      cases hd
    rcases Text.infix_append_cons (by decide) hlater with h | h
    · exact absurd h (by decide)
    rcases Text.infix_append_cons (by decide) h with h | h
    · exact absurd h (by cases form <;> decide)
    rcases Text.infix_append_cons hmark h with h | h
    · exact hn h
    · exact hexport (h.trans (List.suffix_cons d v).isInfix)

end Declaration

/-! ### Documents -/

/-- Entries for other names leave a shape as it is. -/
theorem Document.exportedBy_eq_self {entries : List ExportEntry} {e : Entity}
    (h : ∀ x ∈ entries, x.name ≠ e.name) : exportedBy entries e = e := by
  have hlast : ((entries.filter (·.asDefault)).getLast?).any (·.name = e.name) = false := by
    rw [Option.any_eq_false]
    intro x hx
    simpa using h x (List.mem_of_mem_filter (List.mem_of_getLast? hx))
  have hany : entries.any (fun x => !x.asDefault && x.name = e.name) = false := by
    rw [List.any_eq_false]
    intro x hx
    simp [h x hx]
  unfold exportedBy
  simp only [hlast, hany]
  rfl

/-- An exported shape that no entry names is the whole document. -/
theorem Document.ofItems_exported {entries : List ExportEntry} {e : Entity}
    (hexported : e.exported = true) (h : ∀ x ∈ entries, x.name ≠ e.name)
    (visibility : Visibility) (file : Text) (unsupported : List Text) :
    ofItems visibility file [.entity e unsupported] entries = { file, entities := [e] } := by
  cases visibility <;> simp [ofItems, exportedBy_eq_self h, hexported]

/-- An exported declaration, with what stands between its name and its body. -/
def declarationText (form : Form) (n : Name) (clauses body : Text) : Text :=
  "export ".toList ++ (formWord form ++ ' ' :: (n.text ++ (clauses ++
    (formOpening form ++ (body ++ ['}'])))))

section Declaration

variable {form : Form} {clauses body : Text}

theorem declarationText_eq (form : Form) (n : Name) (clauses body : Text) :
    declarationText form n clauses body = Export.plain.text ++ plainHead false form
      (n.text ++ (clauses ++ (formOpening form ++ (body ++ ['}'])))) :=
  rfl

theorem not_export_append_cons {t u : Text} {c : Char} (hc : c ∉ "export".toList)
    (ht : ¬"export".toList <:+: t) (hu : ¬"export".toList <:+: u) :
    ¬"export".toList <:+: t ++ c :: u :=
  fun h => (Text.infix_append_cons hc h).elim ht hu

theorem not_export_clauses (hclauses : ¬"export".toList <:+: clauses)
    (hbody : ¬"export".toList <:+: body) :
    ¬"export".toList <:+: clauses ++ (formOpening form ++ (body ++ ['}'])) := by
  have hclose : ¬"export".toList <:+: body ++ ['}'] :=
    not_export_append_cons (by decide) hbody (by decide)
  have hopen : ¬"export".toList <:+: '{' :: (body ++ ['}']) :=
    not_export_append_cons (t := []) (by decide) (by decide) hclose
  cases form
  · have hopening : formOpening .interface ++ (body ++ ['}']) = ' ' :: '{' :: (body ++ ['}']) := rfl
    rw [hopening]
    exact not_export_append_cons (by decide) hclauses hopen
  · have hopening : formOpening .alias ++ (body ++ ['}']) =
        ' ' :: (['='] ++ ' ' :: '{' :: (body ++ ['}'])) := rfl
    rw [hopening]
    exact not_export_append_cons (by decide) hclauses
      (not_export_append_cons (by decide) (by decide) hopen)

/-- A declaration is the only shape of its document if it is read up to its end, whatever stands
between its name and its body. -/
theorem Document.ofSource_declarationText {n : Name} {ms : List Member}
    (hclauses : Uncommented clauses) (hhead : ∀ c ∈ clauses.head?, Text.isNameChar c = false)
    (hbody : Uncommented body) (hexport : ¬"export".toList <:+: clauses)
    (hexport' : ¬"export".toList <:+: body)
    (hdeclared : declared ⟨true, false, form, n.text⟩
        (clauses ++ (formOpening form ++ (body ++ ['}']))) =
      .ok (some (Item.ofBody ⟨true, false, form, n.text⟩ ms), []))
    (visibility : Visibility) (file : Text) :
    ofSource visibility file (declarationText form n clauses body) =
      (.ok {
          file
          entities := [Entity.ofMembers n.text (ms.filterMap Member.property?) true false] },
        (ms.filterMap Member.unsupported?).map (.unsupportedMember file ·)) := by
  have hbehind : ∃ c u, clauses ++ (formOpening form ++ (body ++ ['}'])) = c :: u ∧
      Text.isNameChar c = false := by
    cases hcases : clauses with
    | nil => cases form <;> exact ⟨' ', _, rfl, by decide⟩
    | cons c u => exact ⟨c, _, rfl, hhead c (by simp [hcases])⟩
  have hread : withoutComments (declarationText form n clauses body) =
      .ok (declarationText form n clauses body) := by
    have hopening : Uncommented (formOpening form) := by
      cases form <;> exact uncommented_of_all (by decide)
    have hclose : Uncommented ['}'] := .char (by decide) (by decide) .nil
    exact (plainHead_uncommented .plain false form (n.uncommented.append (hclauses.append
      (hopening.append (hbody.append hclose))))).withoutComments_eq
  have hstatement : statement? file (declarationText form n clauses body ++ []) =
      .ok (some (some (Item.ofBody ⟨true, false, form, n.text⟩ ms), [])) := by
    obtain ⟨c, u, hcons, hc⟩ := hbehind
    rw [List.append_nil, declarationText_eq, statement?_append file .plain false form n
      (by rw [hcons]; exact fun d hd => Option.some.inj hd ▸ hc)]
    exact congrArg (Except.map some) hdeclared
  have hscan : scan file [] 0 (declarationText form n clauses body) =
      { items := [Item.ofBody ⟨true, false, form, n.text⟩ ms] } := by
    have hhead : ∃ c r, declarationText form n clauses body = c :: r ∧ IsOrdinary c :=
      ⟨'e', _, rfl, by decide⟩
    have hbefore : ([] : Text).head?.any Text.isNameChar = false := rfl
    have hfound := scan_statement hhead hbefore hstatement
    rw [List.append_nil, scan] at hfound
    exact hfound
  have hnames : ∀ x ∈ exportEntries (declarationText form n clauses body), x.name ≠ n.text :=
    fun x hx => name_ne_of_mem_exportEntries hbehind (not_export_clauses hexport hexport') hx
  rw [ofSource, hread]
  dsimp only
  rw [hscan, Item.ofBody, ofItems_exported rfl hnames]
  simp [events]

/-- An alias declares what the members of its body are, whatever stands in front of it. -/
theorem declared_alias (header : Header) (hform : header.form = .alias) {t v : Text}
    (hparameters : afterTypeParameters t = .ok v) (hopen : openAlias v = .ok (body ++ ['}']))
    (hbody : Bracketed isInner isInner body) {ms : List Member} (hmembers : members body = .ok ms) :
    declared header t = .ok (some (Item.ofBody header ms), []) := by
  have hcomposite : isComposite [] = false := rfl
  simp only [declared, hparameters, hform, hopen, hbody.enclosed_append, hcomposite, hmembers, bind,
    Except.bind, pure, Except.pure, Bool.false_eq_true, if_false]

theorem exists_members (hbody : Bracketed isInner isInner body) : ∃ ms, members body = .ok ms := by
  refine ⟨(splitMembers (Cut.ofText body).pieces).map Member.ofText, ?_⟩
  rw [members, if_pos hbody.torn_ofText]

theorem heritage_extends {heritage : Text} (h : Heritage heritage) :
    Heritage (" extends ".toList ++ (heritage ++ [' '])) := by
  have hword : Heritage " extends ".toList := .of_forall (Text.forall_mem_of_all (by decide))
  exact hword.append (h.append InterfaceFile.heritage_space)

/-- A body directly behind the name. -/
theorem declared_body (n : Name) (hbody : Bracketed isInner isInner body) {ms : List Member}
    (hmembers : members body = .ok ms) :
    declared ⟨true, false, form, n.text⟩ ([] ++ (formOpening form ++ (body ++ ['}']))) =
      .ok (some (Item.ofBody ⟨true, false, form, n.text⟩ ms), []) := by
  cases form
  · exact InterfaceFile.heritage_space.declared_interface _ rfl hbody hmembers []
  · exact declared_alias _ rfl rfl rfl hbody hmembers

variable {parameters heritage : Text}

/-- A body behind type parameters and the types that an interface extends. -/
theorem declared_interface_clauses (n : Name) (hparameters : TypeParameters parameters)
    (hlast : parameters.getLast? ≠ some '=') (hheritage : Heritage heritage)
    (hbody : Bracketed isInner isInner body) {ms : List Member} (hmembers : members body = .ok ms) :
    declared ⟨true, false, .interface, n.text⟩
        ('<' :: parameters ++ '>' :: (" extends ".toList ++ heritage) ++
          (formOpening .interface ++ (body ++ ['}']))) =
      .ok (some (Item.ofBody ⟨true, false, .interface, n.text⟩ ms), []) := by
  refine (heritage_extends hheritage).declared_of_afterTypeParameters _ rfl ?_ hbody hmembers
  have htext : '<' :: parameters ++ '>' :: (" extends ".toList ++ heritage) ++
      (formOpening .interface ++ (body ++ ['}'])) = '<' :: parameters ++ '>' ::
        (" extends ".toList ++ (heritage ++ [' ']) ++ '{' :: (body ++ ['}'])) := by
    simp only [List.append_assoc, List.cons_append]
    rfl
  rw [htext]
  exact hparameters.afterTypeParameters_angles hlast _

theorem declared_alias_clauses (n : Name) (hparameters : TypeParameters parameters)
    (hlast : parameters.getLast? ≠ some '=')
    (hbody : Bracketed isInner isInner body) {ms : List Member} (hmembers : members body = .ok ms) :
    declared ⟨true, false, .alias, n.text⟩
        ('<' :: parameters ++ ['>'] ++ (formOpening .alias ++ (body ++ ['}']))) =
      .ok (some (Item.ofBody ⟨true, false, .alias, n.text⟩ ms), []) := by
  have hopen : openAlias (" = \x7b".toList ++ (body ++ ['}'])) = .ok (body ++ ['}']) := rfl
  refine declared_alias _ rfl ?_ hopen hbody hmembers
  rw [List.append_assoc]
  exact hparameters.afterTypeParameters_angles hlast _

end Declaration

/-- Type parameters and the types that an interface extends make no difference to a shape: with them
or without, the document of a declaration is the same. -/
theorem Document.ofSource_clauses {n : Name} {parameters heritage body : Text}
    (hparameters : TypeParameters parameters) (hlast : parameters.getLast? ≠ some '=')
    (hheritage : Heritage heritage) (hbody : Bracketed isInner isInner body)
    (hexport : ∀ t ∈ [parameters, heritage, body], ¬"export".toList <:+: t)
    (visibility : Visibility) (file : Text) :
    (∃ document events,
      ofSource visibility file (declarationText .interface n [] body) = (.ok document, events) ∧
      ofSource visibility file (declarationText .interface n
        ('<' :: parameters ++ '>' :: (" extends ".toList ++ heritage)) body) =
          (.ok document, events) ∧
      document.names = [n.text]) ∧
    ∃ document events,
      ofSource visibility file (declarationText .alias n [] body) = (.ok document, events) ∧
      ofSource visibility file (declarationText .alias n ('<' :: parameters ++ ['>']) body) =
        (.ok document, events) ∧
      document.names = [n.text] := by
  obtain ⟨ms, hmembers⟩ := exists_members hbody
  have hread : Uncommented body := hbody.uncommented (fun _ hc => hc) fun _ hc => hc
  have hbodyExport := hexport body (by simp)
  have hnone : ¬"export".toList <:+: [] := by decide
  have hangles {u : Text} (hu : ¬"export".toList <:+: u) :
      ¬"export".toList <:+: '<' :: parameters ++ '>' :: u :=
    not_export_append_cons (t := []) (by decide) hnone
      (not_export_append_cons (by decide) (hexport parameters (by simp)) hu)
  constructor
  · have hheritageExport : ¬"export".toList <:+: " extends".toList ++ ' ' :: heritage :=
      not_export_append_cons (by decide) (by decide) (hexport heritage (by simp))
    have hclauses : Uncommented ('<' :: parameters ++ '>' :: (" extends ".toList ++ heritage)) :=
      hparameters.uncommented_angles ((uncommented_of_all (by decide)).append
        (hheritage.bracketed.uncommented (fun _ hc => hc) fun _ hc => hc))
    exact ⟨_, _, ofSource_declarationText .nil nofun hread hnone hbodyExport
        (declared_body n hbody hmembers) visibility file,
      ofSource_declarationText hclauses (fun c hc => Option.some.inj hc ▸ by decide) hread
        (hangles hheritageExport) hbodyExport
        (declared_interface_clauses n hparameters hlast hheritage hbody hmembers) visibility file,
      rfl⟩
  · have hclauses : Uncommented ('<' :: parameters ++ ['>']) := hparameters.uncommented_angles .nil
    exact ⟨_, _, ofSource_declarationText .nil nofun hread hnone hbodyExport
        (declared_body n hbody hmembers) visibility file,
      ofSource_declarationText hclauses (fun c hc => Option.some.inj hc ▸ by decide) hread
        (hangles hnone) hbodyExport
        (declared_alias_clauses n hparameters hlast hbody hmembers) visibility file, rfl⟩

/-! #### Brackets of all kinds -/

/-- A literal with a closing bracket of either kind in it. -/
def bracketLiteral : Literal where
  quote := '"'
  rest := ">\x7d\"".toList
  isQuote_quote := isQuote_doubleQuote
  closed := .char (by decide) (by decide) (by decide)
    (.char (by decide) (by decide) (by decide) .close)

/-- Type parameters with defaults: a literal, and a function that gives a type with braces. -/
def defaultedParameters : Text :=
  "K extends string ".toList ++ '=' :: ([' '] ++ (bracketLiteral.text ++ (", V ".toList ++
    '=' :: (" (x: K) ".toList ++ '=' :: '>' :: (" Map".toList ++
      ('<' :: "K, \x7b a: 1 \x7d".toList ++ ['>']))))))

theorem typeParameters_defaulted : TypeParameters defaultedParameters := by
  have hmap : TypeParameters ('<' :: "K, \x7b a: 1 \x7d".toList ++ ['>']) := by
    refine .angles ?_ (by decide) .nil
    rw [← List.append_nil "K, \x7b a: 1 \x7d".toList]
    exact TypeParameters.nil.chars_append (by decide)
  have hfunction : TypeParameters ('=' :: '>' :: (" Map".toList ++
      ('<' :: "K, \x7b a: 1 \x7d".toList ++ ['>']))) := .arrow (hmap.chars_append (by decide))
  have hdefault : TypeParameters ('=' :: (" (x: K) ".toList ++ _)) :=
    .equals (by simp) (hfunction.chars_append (by decide))
  have hliteral : TypeParameters (bracketLiteral.text ++ (", V ".toList ++ _)) :=
    .literal bracketLiteral (hdefault.chars_append (by decide))
  have hequals : TypeParameters ('=' :: ([' '] ++ _)) :=
    .equals (by simp) (hliteral.chars_append (by decide))
  exact hequals.chars_append (by decide)

/-- Two types, the first with a type in braces and a function among its arguments. -/
def genericHeritage : Text :=
  "Base".toList ++ ('<' :: ('\x7b' :: (" a: ".toList ++ (bracketLiteral.text ++ [' '])) ++
    '\x7d' :: (", ".toList ++ ('(' :: "x: K".toList ++ ')' :: ' ' :: '=' :: '>' :: " V".toList))) ++
      '>' :: ", Other".toList)

theorem heritage_generic : Heritage genericHeritage := by
  have hplain {t : Text} (ht : t.all fun c => IsPlain c ∧ isInner c) :
      Bracketed isInner isInner t := .of_all ht
  have hround : ('(', ')') ∈ brackets := by decide
  have hcurly : ('{', '}') ∈ brackets := by decide
  have hfunction : Bracketed isInner isInner
      ('(' :: "x: K".toList ++ ')' :: ' ' :: '=' :: '>' :: " V".toList) :=
    .group hround (hplain (by decide))
      (.char (by decide) (by decide) (.arrow (hplain (by decide))))
  have hbraces : Bracketed isInner isInner ('\x7b' :: (" a: ".toList ++ (bracketLiteral.text ++
      [' '])) ++ '\x7d' :: (", ".toList ++ _)) :=
    .group hcurly ((hplain (by decide)).append (.literal bracketLiteral (hplain (by decide))))
      ((hplain (by decide)).append hfunction)
  have hother : Heritage ", Other".toList := .of_forall (Text.forall_mem_of_all (by decide))
  exact (Heritage.of_forall (Text.forall_mem_of_all (by decide))).append (.angles hbraces hother)

/-- A member whose type has members. -/
def bracedBody : Text :=
  " a: ".toList ++ ('\x7b' :: " b: string ".toList ++ '\x7d' :: [' '])

theorem bracketed_braced : Bracketed isInner isInner bracedBody := by
  have hpair : ('{', '}') ∈ brackets := by decide
  have hbraces : Bracketed isInner isInner ('\x7b' :: " b: string ".toList ++ '\x7d' :: [' ']) :=
    .group hpair (.of_all (by decide)) (.of_all (by decide))
  exact (Bracketed.of_all (by decide)).append hbraces

/-- None of these brackets is taken for the one behind the type parameters or before the body. -/
theorem Document.ofSource_clauses_brackets :
    TypeParameters defaultedParameters ∧ defaultedParameters.getLast? ≠ some '=' ∧
      Heritage genericHeritage ∧ Bracketed isInner isInner bracedBody ∧
      (∀ t ∈ [defaultedParameters, genericHeritage, bracedBody], ¬"export".toList <:+: t) ∧
      declarationText .interface exportedInterface.name
          ('<' :: defaultedParameters ++ '>' :: (" extends ".toList ++ genericHeritage))
            bracedBody =
        "export interface N<K extends string = \">\x7d\",".toList ++
          " V = (x: K) => Map<K, \x7b a: 1 \x7d>>".toList ++
          " extends Base<\x7b a: \">\x7d\" \x7d, (x: K) => V>, Other".toList ++
          " \x7b a: \x7b b: string \x7d \x7d".toList ∧
      ∀ visibility file,
        (∃ document events,
          ofSource visibility file
            (declarationText .interface exportedInterface.name [] bracedBody) =
              (.ok document, events) ∧
          ofSource visibility file (declarationText .interface exportedInterface.name
            ('<' :: defaultedParameters ++ '>' :: (" extends ".toList ++ genericHeritage))
              bracedBody) = (.ok document, events) ∧
          document.names = ["N".toList]) ∧
        ∃ document events,
          ofSource visibility file
            (declarationText .alias exportedInterface.name [] bracedBody) =
              (.ok document, events) ∧
          ofSource visibility file (declarationText .alias exportedInterface.name
            ('<' :: defaultedParameters ++ ['>']) bracedBody) = (.ok document, events) ∧
          document.names = ["N".toList] := by
  have hlast : defaultedParameters.getLast? ≠ some '=' := by decide
  have hexport : ∀ t ∈ [defaultedParameters, genericHeritage, bracedBody],
      ¬"export".toList <:+: t := by decide
  refine ⟨typeParameters_defaulted, hlast, heritage_generic, bracketed_braced, hexport, ?text, ?_⟩
  case text => decide +kernel
  exact ofSource_clauses typeParameters_defaulted hlast heritage_generic bracketed_braced hexport

end ShapeMapper
