import ShapeMapper.Proofs.Declaration.Entity
import ShapeMapper.Proofs.Declaration.Exported
import ShapeMapper.Proofs.Declaration.Passage
import ShapeMapper.Proofs.Text.Infix

/-!
# Template literals

Template literals with their expressions, in which other literals stand, template literals among
them (`TemplateLiteral`). A literal is read up to the next backtick, so an inner template literal
ends the outer one, and its text is read as code. Where that does no harm (`Hidden`) the literal is
passed over all the same, and the document of a declaration behind it is the one of the declaration:
`Document.ofSource_constant`.
-/

namespace ShapeMapper

open Source Declaration Written

/-! ### Template literals -/

/-- What may stand in a template literal outside of its expressions: a backtick is escaped, and so
is a dollar sign in front of a brace, or else the brace. -/
inductive IsTemplateText : Text → Prop
  | nil : IsTemplateText []
  | char {c : Char} {t : Text} (hclose : c ≠ '`') (hescape : c ≠ '\\')
      (hdollar : c = '$' → t.head? ≠ some '{') (h : IsTemplateText t) : IsTemplateText (c :: t)
  | escape {c : Char} {t : Text} (h : IsTemplateText t) : IsTemplateText ('\\' :: c :: t)

mutual

/-- A template literal behind the backtick that opens it: some text up to the backtick that closes
it, or up to an expression in it. -/
inductive TemplateLiteral
  | close (t : Text) (ht : IsTemplateText t)
  | substitution (t : Text) (ht : IsTemplateText t) (e : Expression) (later : TemplateLiteral)

/-- An expression in a template literal. No operator in it is a slash. -/
inductive Expression
  | nil
  | char (c : Char) (hc : IsOrdinary c) (hescape : c ≠ '\\') (later : Expression)
  /-- An escape in a name. -/
  | escape (later : Expression)
  | literal (l : Literal) (hl : l.quote ≠ '`') (later : Expression)
  | braces (body later : Expression)
  | template (t : TemplateLiteral) (later : Expression)

end

mutual

/-- A template literal as it is written behind its first backtick. -/
def TemplateLiteral.rest : TemplateLiteral → Text
  | .close t _ => t ++ ['`']
  | .substitution t _ e later => t ++ '$' :: '\x7b' :: (e.text ++ '\x7d' :: later.rest)

def Expression.text : Expression → Text
  | .nil => []
  | .char c _ _ later => c :: later.text
  | .escape later => '\\' :: 'u' :: later.text
  | .literal l _ later => l.text ++ later.text
  | .braces body later => '\x7b' :: body.text ++ '\x7d' :: later.text
  | .template t later => '`' :: (t.rest ++ later.text)

end

/-- A template literal as it is written. -/
def TemplateLiteral.text (t : TemplateLiteral) : Text :=
  '`' :: t.rest

/-! ### Readers that do not nest

A reader for whom the next backtick closes a template literal takes the first backtick of a literal
in it for that one. It reads the text of the inner literal as code, and the literals in its
expressions as what they are. -/

mutual

/-- Whether such a reader passes over a template literal whose first backtick opens one for it. Some
braces are open around the literal. -/
def TemplateLiteral.Hidden (depth : Nat) : TemplateLiteral → Prop
  | .close _ _ => True
  | .substitution _ _ e later => e.Hidden depth ∧ later.Hidden depth

/-- The same of an expression that is read as a part of a literal. -/
def Expression.Hidden (depth : Nat) : Expression → Prop
  | .nil => True
  | .char _ _ _ later | .escape later => later.Hidden depth
  | .literal l _ later => LiteralEnd '`' (l.text ++ ['`']) ∧ later.Hidden depth
  | .braces body later => body.Hidden depth ∧ later.Hidden depth
  | .template t later => t.Exposed depth depth ∧ later.Hidden depth

/-- The same of a template literal whose first backtick closes one, so that its text is read as
code. Some braces are open around the literal, and as many again have to be at its end, but where
its text goes on there may be others. -/
def TemplateLiteral.Exposed (outer depth : Nat) : TemplateLiteral → Prop
  | .close t _ => Passed depth outer t
  | .substitution t _ e later =>
    ∃ inner, Passed depth inner (t ++ ['$']) ∧ e.Exposed (inner + 1) ∧ later.Exposed outer inner

/-- The same of an expression that is read as code. The literals in it are read as literals. -/
def Expression.Exposed (depth : Nat) : Expression → Prop
  | .nil => True
  | .char _ _ _ later | .escape later | .literal _ _ later => later.Exposed depth
  | .braces body later => body.Exposed (depth + 1) ∧ later.Exposed depth
  | .template t later => t.Hidden depth ∧ later.Exposed depth

end

/-- A text that a quote behind it closes leaves a literal open. -/
theorem Source.LiteralEnd.append {quote : Char} {t u : Text} (ht : LiteralEnd quote (t ++ [quote]))
    (hu : LiteralEnd quote u) : LiteralEnd quote (t ++ u) := by
  generalize hclosed : t ++ [quote] = s at ht
  induction ht generalizing t with
  | close =>
    obtain rfl : t = [] := by simpa using hclosed
    exact hu
  | char hquote hescape hline _ ih =>
    cases t with
    | nil => exact absurd (List.cons.inj hclosed).1.symm hquote
    | cons d t =>
      obtain ⟨rfl, hlater⟩ := List.cons.inj hclosed
      exact .char hquote hescape hline (ih hlater)
  | escape h ih =>
    rcases t with - | ⟨d, - | ⟨e, t⟩⟩
    -- without a character behind the backslash nothing is left to close the literal
    · cases (List.cons.inj hclosed).2
    · cases (List.cons.inj (List.cons.inj hclosed).2).2
      cases h
    · obtain ⟨rfl, hlater⟩ := List.cons.inj hclosed
      exact .escape (ih (List.cons.inj hlater).2)

theorem IsTemplateText.append {t u : Text} (ht : IsTemplateText t) (hu : LiteralEnd '`' u) :
    LiteralEnd '`' (t ++ u) := by
  induction ht with
  | nil => exact hu
  | char hclose hescape _ _ ih => exact .char hclose hescape (fun _ => rfl) ih
  | escape _ ih => exact .escape ih

/-- Whether a text is passed over from inside of a template literal on. -/
def Resumes (depth depth' : Nat) (t : Text) : Prop :=
  ∃ body rest, t = body ++ rest ∧ LiteralEnd '`' body ∧ Passed depth depth' rest

namespace Resumes

variable {depth depth' : Nat} {t u : Text}

theorem close (h : Passed depth depth' t) : Resumes depth depth' ('`' :: t) :=
  ⟨['`'], t, rfl, .close, h⟩

theorem append (ht : ∀ v, LiteralEnd '`' v → LiteralEnd '`' (t ++ v))
    (hu : Resumes depth depth' u) : Resumes depth depth' (t ++ u) := by
  obtain ⟨body, rest, rfl, hbody, hrest⟩ := hu
  exact ⟨t ++ body, rest, (List.append_assoc _ _ _).symm, ht body hbody, hrest⟩

theorem cons {c : Char} (hclose : c ≠ '`') (hescape : c ≠ '\\') (h : Resumes depth depth' t) :
    Resumes depth depth' (c :: t) :=
  h.append (t := [c]) fun _ => .char hclose hescape fun _ => rfl

/-- A backtick in front of such a text opens the literal. -/
theorem passed (h : Resumes depth depth' t) : Passed depth depth' ('`' :: t) := by
  obtain ⟨body, rest, rfl, hbody, hrest⟩ := h
  exact .literal ⟨'`', body, rfl, hbody⟩ hrest

end Resumes

/-! The four lemmas go through a literal from its end: what is behind it is passed over, from
there on the expression or the text in front of that, and so on. At a backtick a text that goes on
in a literal becomes one that goes on in code, or the other way round. -/

mutual

/-- From its first backtick on such a template literal is passed over. -/
theorem TemplateLiteral.resumes {depth depth' : Nat} {u : Text} (hu : Passed depth depth' u) :
    ∀ t : TemplateLiteral, t.Hidden depth → Resumes depth depth' (t.rest ++ u)
  | .close t ht, _ => by
    rw [TemplateLiteral.rest, List.append_assoc]
    exact (Resumes.close hu).append fun _ => ht.append
  | .substitution t ht e later, h => by
    obtain ⟨he, hlater⟩ := h
    have hclose : Resumes depth depth' ('\x7d' :: (later.rest ++ u)) :=
      (later.resumes hu hlater).cons (by decide) (by decide)
    have hopen : Resumes depth depth' ('$' :: '\x7b' :: (e.text ++ '\x7d' :: (later.rest ++ u))) :=
      ((e.resumes hclose he).cons (by decide) (by decide)).cons (by decide) (by decide)
    have htext := hopen.append fun _ => ht.append
    rw [TemplateLiteral.rest]
    simpa using htext

theorem Expression.resumes {depth depth' : Nat} {u : Text} (hu : Resumes depth depth' u) :
    ∀ e : Expression, e.Hidden depth → Resumes depth depth' (e.text ++ u)
  | .nil, _ => hu
  | .char c hc hescape later, h => by
    have hclose : c ≠ '`' := by
      rintro rfl
      exact absurd hc.isQuote_eq (by decide)
    exact (later.resumes hu h).cons hclose hescape
  | .escape later, h => (later.resumes hu h).append (t := ['\\', 'u']) fun _ => .escape
  | .literal l hl later, h => by
    obtain ⟨hliteral, hlater⟩ := h
    rw [Expression.text, List.append_assoc]
    exact (later.resumes hu hlater).append fun _ => hliteral.append
  | .braces body later, h => by
    obtain ⟨hbody, hlater⟩ := h
    have hclose : Resumes depth depth' ('\x7d' :: (later.text ++ u)) :=
      (later.resumes hu hlater).cons (by decide) (by decide)
    rw [Expression.text, List.append_assoc]
    exact (body.resumes hclose hbody).cons (by decide) (by decide)
  | .template t later, h => by
    obtain ⟨ht, hlater⟩ := h
    have hcode := t.passed (later.resumes hu hlater) ht
    rw [Expression.text, List.cons_append, List.append_assoc]
    exact .close hcode

theorem TemplateLiteral.passed {outer depth depth' : Nat} {u : Text}
    (hu : Resumes outer depth' u) :
    ∀ t : TemplateLiteral, t.Exposed outer depth → Passed depth depth' (t.rest ++ u)
  | .close t ht, h => by
    have htext : Passed depth outer t := h
    rw [TemplateLiteral.rest, List.append_assoc]
    exact htext.append hu.passed fun c hc => Option.some.inj hc ▸ by decide
  | .substitution t ht e later, h => by
    obtain ⟨inner, hcode, he, hlater⟩ := h
    have hclose : Passed (inner + 1) depth' ('\x7d' :: (later.rest ++ u)) :=
      .closing (later.passed hu hlater)
    have hopen : Passed inner depth' ('\x7b' :: (e.text ++ '\x7d' :: (later.rest ++ u))) :=
      .opening (e.passed hclose he)
    have htext := hcode.append hopen fun c hc => Option.some.inj hc ▸ by decide
    rw [TemplateLiteral.rest]
    simpa using htext

theorem Expression.passed {depth depth' : Nat} {u : Text} (hu : Passed (depth + 1) depth' u) :
    ∀ e : Expression, e.Exposed (depth + 1) → Passed (depth + 1) depth' (e.text ++ u)
  | .nil, _ => hu
  | .char c hc hescape later, h => .char hc (.inl (by omega)) (later.passed hu h)
  | .escape later, h =>
    .char (by decide) (.inl (by omega)) (.char (by decide) (.inl (by omega)) (later.passed hu h))
  | .literal l hl later, h => by
    rw [Expression.text, List.append_assoc]
    exact .literal l (later.passed hu h)
  | .braces body later, h => by
    obtain ⟨hbody, hlater⟩ := h
    have hclose : Passed (depth + 1 + 1) depth' ('\x7d' :: (later.text ++ u)) :=
      .closing (later.passed hu hlater)
    rw [Expression.text, List.append_assoc]
    exact .opening (body.passed hclose hbody)
  | .template t later, h => by
    obtain ⟨ht, hlater⟩ := h
    rw [Expression.text, List.cons_append, List.append_assoc]
    exact (t.resumes (later.passed hu hlater) ht).passed

end

/-- A template literal is passed over as a whole. -/
theorem TemplateLiteral.passed_text {t : TemplateLiteral} (h : t.Hidden 0) : Passed 0 0 t.text := by
  have hpassed := (t.resumes .nil h).passed
  rwa [List.append_nil] at hpassed

/-! ### A constant in front of a declaration -/

/-- A constant whose value is a template literal. -/
def TemplateLiteral.constant (t : TemplateLiteral) : Text :=
  "const t = ".toList ++ t.text

theorem TemplateLiteral.passed_constant {t : TemplateLiteral} (h : t.Hidden 0) :
    Passed 0 0 t.constant := by
  have hequals : Passed 0 0 (" = ".toList ++ t.text) :=
    .char (by decide) (.inr (by decide)) (.char (by decide) (.inr (by decide))
      (.char (by decide) (.inr (by decide)) (passed_text h)))
  have hname : Passed 0 0 (" t".toList ++ (" = ".toList ++ t.text)) :=
    .char (by decide) (.inr (by decide)) (.word (w := ['t']) (Text.forall_mem_of_all (by decide))
      (by decide) (fun c hc => Option.some.inj hc ▸ by decide) hequals)
  exact .word (w := "const".toList) (Text.forall_mem_of_all (by decide)) (by decide)
    (fun c hc => Option.some.inj hc ▸ by decide) hname

/-- A line without the word for it exports nothing. -/
theorem exportEntries_line {x : Text} (h : ¬"export".toList <:+: x) (u : Text) :
    exportEntries (x ++ '\n' :: u) = exportEntries u := by
  have hhead (c : Char) (q : Text) (hq : c :: q <:+ x ++ ['\n']) :
      exportList? (c :: q ++ u) = none := by
    obtain hnil | ⟨z, hz, hx⟩ := List.suffix_concat_iff.1 hq
    · cases hnil
    refine exportList?_eq_none fun head hhead hprefix => h ?_
    have hword : "export".toList <+: head := by
      cases hhead <;> exact List.prefix_append _ _
    have hline := hword.trans hprefix
    rw [hz, List.append_assoc, List.singleton_append] at hline
    exact (Text.prefix_of_append_cons (by decide) hline).isInfix.trans hx.isInfix
  rw [List.append_cons, exportEntries_append hhead]

theorem TemplateLiteral.not_export_infix_constant {t : TemplateLiteral}
    (h : ¬"export".toList <:+: t.text) : ¬"export".toList <:+: t.constant := by
  intro hinfix
  rcases Text.infix_append_cons (by decide) hinfix with hconst | hrest
  · exact absurd hconst (by decide)
  · exact h (hrest.trans (List.suffix_cons _ _).isInfix)

/-- A shape that is exported where it is declared is one of its document, whatever else is
exported. -/
theorem Document.names_ofItems_exported {e : Entity} (h : e.exported = true)
    (visibility : Visibility) (file : Text) (unsupported : List Text)
    (entries : List ExportEntry) :
    (ofItems visibility file [.entity e unsupported] entries).names = [e.name] := by
  have hexported : (exportedBy entries e).exported = true := by
    unfold exportedBy
    dsimp only
    split
    · rfl
    · exact h
  cases visibility <;> simp [names, ofItems, hexported]

/-- A template literal in front of an exported interface takes nothing from it. Both are read
as they are, and the document is the one of the interface. -/
theorem Document.ofSource_constant {t : TemplateLiteral} {i : InterfaceFile.Interface} {gap : Text}
    {hgap : IsGap gap} (ht : t.Hidden 0) (hexport : ¬"export".toList <:+: t.text)
    (hmodifier : i.modifier = .exported gap hgap) :
    withoutComments (t.constant ++ '\n' :: i.text) = .ok (t.constant ++ '\n' :: i.text) ∧
      ∀ visibility file, ∃ document events,
        ofSource visibility file i.text = (.ok document, events) ∧
        ofSource visibility file (t.constant ++ '\n' :: i.text) = (.ok document, events) ∧
        document.names = [i.name.text] := by
  have hread : withoutComments (t.constant ++ '\n' :: i.text) =
      .ok (t.constant ++ '\n' :: i.text) := by
    refine ((TemplateLiteral.passed_constant ht).uncommented.append ?_).withoutComments_eq
    exact .char (by decide) (by decide) i.uncommented
  refine ⟨hread, fun visibility file => ?_⟩
  have htext : InterfaceFile.text [.interface i] = i.text := List.flatMap_singleton _ _
  have hscan (before : Text) (hbefore : before.head?.any Text.isNameChar = false) :
      scan file before 0 i.text = { items := [i.found] } := by
    rw [← htext]
    exact InterfaceFile.scan_text [.interface i] hbefore
  have hlonger : scan file [] 0 (t.constant ++ '\n' :: i.text) = { items := [i.found] } := by
    have hhead : ∀ c ∈ ('\n' :: i.text).head?, Text.isNameChar c = false :=
      fun c hc => Option.some.inj hc ▸ by decide
    rw [(TemplateLiteral.passed_constant ht).scan_append hhead,
      scan_mark (by decide) (by decide), hscan _ rfl]
  have hentries := exportEntries_line (TemplateLiteral.not_export_infix_constant hexport) i.text
  refine ⟨ofItems visibility file [i.found] (exportEntries i.text), [i.found].flatMap (events file),
    ?_, ?_, ?_⟩
  · rw [ofSource, i.uncommented.withoutComments_eq]
    dsimp only
    rw [hscan [] rfl]
  · rw [ofSource, hread]
    dsimp only
    rw [hlonger, hentries]
  · refine names_ofItems_exported ?_ visibility file _ _
    rw [hmodifier]
    rfl

/-! #### Literals in literals -/

theorem InterfaceFile.not_isNameChar_head_space :
    ∀ c ∈ [' '].head?, Text.isNameChar c = false :=
  fun c hc => Option.some.inj hc ▸ by decide

theorem InterfaceFile.heritage_space : Heritage [' '] :=
  .char (by decide) (by decide) .nil

/-- One exported interface. -/
def exportedInterface : InterfaceFile.Interface where
  modifier := .exported [' '] InterfaceFile.isGap_space
  gap := [' ']
  name := ⟨'N', [], .refl true, Text.isNameChar_of_mem_nil⟩
  heritage := [' ']
  body := " a: string ".toList
  isGap_gap := InterfaceFile.isGap_space
  not_isNameChar_heritage := InterfaceFile.not_isNameChar_head_space
  isHeritage := InterfaceFile.heritage_space
  bracketed_body := .of_all (by decide)

theorem IsTemplateText.single {c : Char} (hclose : c ≠ '`') (hescape : c ≠ '\\') :
    IsTemplateText [c] :=
  .char hclose hescape (fun _ => nofun) .nil

/-- A literal with a backtick in it. -/
def backtickLiteral : Literal where
  quote := '"'
  rest := "`\"".toList
  isQuote_quote := isQuote_doubleQuote
  closed := .char (by decide) (by decide) (by decide) .close

/-- A template literal in a template literal in a template literal, with quotes, braces and a slash
in their texts. -/
def nestedTemplate : TemplateLiteral :=
  let innermost : TemplateLiteral := .substitution ['"'] (.single (by decide) (by decide))
    (.char 'e' (by decide) (by decide) .nil) (.close [] .nil)
  let inner : TemplateLiteral := .substitution ['\x7b'] (.single (by decide) (by decide))
    (.literal backtickLiteral (by decide)
      (.char '+' (by decide) (by decide) (.template innermost .nil)))
    (.close ['\x7d'] (.single (by decide) (by decide)))
  .substitution ['\''] (.single (by decide) (by decide)) (.template inner .nil)
    (.close ['/'] (.single (by decide) (by decide)))

theorem hidden_nestedTemplate : nestedTemplate.Hidden 0 := by
  have hbraces : Passed 0 1 ("\x7b$".toList) := .opening (.char (by decide) (.inl (by decide)) .nil)
  have hclose : Passed 1 0 ['\x7d'] := .closing .nil
  exact ⟨⟨⟨1, hbraces, ⟨⟨trivial, trivial⟩, trivial⟩, hclose⟩, trivial⟩, trivial⟩

/-- It takes nothing from an interface behind it. -/
theorem Document.ofSource_constant_nestedTemplate :
    nestedTemplate.Hidden 0 ∧ ¬"export".toList <:+: nestedTemplate.text ∧
      exportedInterface.modifier = .exported [' '] InterfaceFile.isGap_space ∧
      nestedTemplate.text = "`'$\x7b`\x7b$\x7b\"`\"+`\"$\x7be\x7d`\x7d\x7d`\x7d/`".toList ∧
      withoutComments (nestedTemplate.constant ++ '\n' :: exportedInterface.text) =
        .ok (nestedTemplate.constant ++ '\n' :: exportedInterface.text) ∧
      ∀ visibility file, ∃ document events,
        ofSource visibility file exportedInterface.text = (.ok document, events) ∧
        ofSource visibility file (nestedTemplate.constant ++ '\n' :: exportedInterface.text) =
          (.ok document, events) ∧
        document.names = ["N".toList] := by
  have hexport : ¬"export".toList <:+: nestedTemplate.text := by decide
  exact ⟨hidden_nestedTemplate, hexport, rfl, by decide,
    ofSource_constant hidden_nestedTemplate hexport rfl⟩

/-- A quote in a template literal in a template literal. -/
def quoteTemplate : TemplateLiteral :=
  .substitution [] .nil (.template (.close ['\''] (.single (by decide) (by decide))) .nil)
    (.close [] .nil)

/-- It opens a string literal, which the line does not close, so that an interface behind it is not
read. -/
theorem Document.not_ofSource_constant_quoteTemplate :
    quoteTemplate.text = "`$\x7b`'`\x7d`".toList ∧ ¬"export".toList <:+: quoteTemplate.text ∧
      exportedInterface.text = "export interface N \x7b a: string \x7d".toList ∧
      withoutComments (quoteTemplate.constant ++ '\n' :: exportedInterface.text) =
        .error ⟨.unclosedString, "'`\x7d`\nexport interface N \x7b a: string \x7d".toList⟩ ∧
      (ofSource .exportedOnly "/a.ts".toList
        (quoteTemplate.constant ++ '\n' :: exportedInterface.text)).1.toOption = none ∧
      (ofSource .exportedOnly "/a.ts".toList exportedInterface.text).1.toOption.map names =
        some ["N".toList] :=
  ⟨by decide, by decide, by decide, by decide +kernel, by decide +kernel, by decide +kernel⟩

end ShapeMapper
