import ShapeMapper.Proofs.Declaration.ExportList
import ShapeMapper.Proofs.Declaration.Heritage
import ShapeMapper.Proofs.Source.Comment

/-!
# Files of interfaces and export lists

Declaration files made of interfaces and export lists, laid out in any way (`InterfaceFile.text`),
and the names that such a file exports (`ExportsAs`, `ExportsDefault`). A scan finds the interfaces
with the words in front of them: `scan_text`.
-/

namespace ShapeMapper.InterfaceFile

open Source Declaration Written

/-! ### The files -/

/-- The words in front of an interface. -/
inductive Modifier
  | unexported
  | exported (gap : Text) (h : IsGap gap)
  | default (gap gap' : Text) (h : IsGap gap) (h' : IsGap gap')

def Modifier.text : Modifier → Text
  | unexported => []
  | exported gap _ => "export".toList ++ gap
  | default gap gap' _ _ => "export".toList ++ (gap ++ ("default".toList ++ gap'))

/-- An interface, with what stands between its name and its body. -/
structure Interface where
  modifier : Modifier
  gap : Text
  name : Name
  heritage : Text
  body : Text
  isGap_gap : IsGap gap
  not_isNameChar_heritage : ∀ c ∈ heritage.head?, Text.isNameChar c = false
  isHeritage : Heritage heritage
  bracketed_body : Bracketed isInner isInner body

/-- An interface from the word for it on. -/
def Interface.plainText (i : Interface) : Text :=
  "interface".toList ++ (i.gap ++ (i.name.text ++ (i.heritage ++ '{' :: (i.body ++ ['}']))))

def Interface.text (i : Interface) : Text :=
  i.modifier.text ++ i.plainText

/-- A part of an export list: a binding or nothing, with blanks around it. -/
structure Part where
  before : Text
  binding : Option Binding
  after : Text
  isBlank_before : ∀ c ∈ before, Text.isBlank c = true
  isBlank_after : ∀ c ∈ after, Text.isBlank c = true

def Part.text (p : Part) : Text :=
  p.before ++ (p.binding.elim [] Binding.text ++ p.after)

/-- An export list. -/
structure ExportList where
  gap : Text
  parts : List Part
  isBlank_gap : ∀ c ∈ gap, Text.isBlank c = true

/-- What stands in the braces of an export list. -/
def ExportList.inner (l : ExportList) : Text :=
  [','].intercalate (l.parts.map Part.text)

def ExportList.text (l : ExportList) : Text :=
  "export".toList ++ (l.gap ++ '{' :: (l.inner ++ ['}']))

/-- The bindings of an export list. -/
def ExportList.bindings (l : ExportList) : List Binding :=
  l.parts.filterMap Part.binding

/-- An item of a file. -/
inductive Item
  /-- A blank or a semicolon. -/
  | separator (c : Char) (h : Text.isBlank c = true ∨ c = ';')
  | interface (i : Interface)
  | exports (l : ExportList)

def Item.text : Item → Text
  | separator c _ => [c]
  | interface i => i.text
  | exports l => l.text

/-- A file. -/
def text (items : List Item) : Text :=
  items.flatMap Item.text

/-! ### What a file exports -/

/-- Whether a file declares an interface of a name. -/
def Declares (items : List Item) (x : Text) : Prop :=
  ∃ i, Item.interface i ∈ items ∧ i.name.text = x

/-- Whether a file exports what goes by one name in it under another one. -/
inductive ExportsAs (items : List Item) : Text → Text → Prop
  | declared {i : Interface} {gap : Text} {h : IsGap gap} (hi : .interface i ∈ items)
      (hmodifier : i.modifier = .exported gap h) : ExportsAs items i.name.text i.name.text
  | listed {l : ExportList} {b : Binding} (hl : .exports l ∈ items) (hb : b ∈ l.bindings)
      (hdefault : b.isDefault = false) :
      ExportsAs items b.name.text (b.target.getD b.name).text

/-- Whether what goes by a name in a file is a default export of the file. -/
inductive ExportsDefault (items : List Item) : Text → Prop
  | declared {i : Interface} {gap gap' : Text} {h : IsGap gap} {h' : IsGap gap'}
      (hi : .interface i ∈ items) (hmodifier : i.modifier = .default gap gap' h h') :
      ExportsDefault items i.name.text
  | listed {l : ExportList} {b : Binding} (hl : .exports l ∈ items) (hb : b ∈ l.bindings)
      (hdefault : b.isDefault = true) : ExportsDefault items b.name.text

/-- Whether no export list begins inside an interface. Export lists are looked for everywhere in a
file, also in its types and in its string literals. -/
def Quiet (items : List Item) : Prop :=
  ∀ i, Item.interface i ∈ items → ∀ head, ListHead head → ¬head <:+: i.text

variable {file before u : Text}

/-! ### Interfaces -/

namespace Modifier

/-- The header of an interface of a name. -/
def header (m : Modifier) (name : Text) : Header where
  exported := match m with
    | unexported => false
    | _ => true
  isDefault := match m with
    | default .. => true
    | _ => false
  form := .interface
  name := name

variable {m : Modifier} {name : Text}

theorem eq_default (h : (m.header name).isDefault = true) :
    ∃ gap gap' hgap hgap', m = default gap gap' hgap hgap' := by
  cases m with
  | unexported => cases h
  | exported => cases h
  | default => exact ⟨_, _, _, _, rfl⟩

theorem eq_exported (h : (m.header name).exported = true)
    (hdefault : (m.header name).isDefault = false) : ∃ gap hgap, m = exported gap hgap := by
  cases m with
  | unexported => cases h
  | exported => exact ⟨_, _, rfl⟩
  | default => cases hdefault

end Modifier

namespace Interface

/-- The members of an interface. -/
def members (i : Interface) : List Member :=
  (splitMembers (Cut.ofText i.body).pieces).map Member.ofText

theorem members_body (i : Interface) : Declaration.members i.body = .ok i.members := by
  rw [Declaration.members, if_pos i.bracketed_body.torn_ofText]
  rfl

/-- The item that an interface is found as. -/
def found (i : Interface) : Declaration.Item :=
  Item.ofBody (i.modifier.header i.name.text) i.members

theorem plainText_append (i : Interface) (u : Text) :
    i.plainText ++ u = "interface".toList ++
      (i.gap ++ (i.name.text ++ (i.heritage ++ '{' :: (i.body ++ '}' :: u)))) := by
  unfold plainText
  simp only [List.append_assoc, List.cons_append, List.nil_append]

theorem not_isBlank_plainText (i : Interface) (u : Text) :
    ∀ c ∈ (i.plainText ++ u).head?, Text.isBlank c = false := by
  intro c hc
  obtain rfl : 'i' = c := Option.some.inj hc
  decide

/-- The words in front of an interface are read as its modifier. -/
theorem optionalWord_text (i : Interface) (u : Text) :
    ∃ t, optionalWord "export".toList (i.text ++ u) =
        ((i.modifier.header i.name.text).exported, t) ∧
      (if (i.modifier.header i.name.text).exported then optionalWord "default".toList t
        else (false, t)) = ((i.modifier.header i.name.text).isDefault, i.plainText ++ u) := by
  have hblank := i.not_isBlank_plainText u
  have hplain (word : Text) (hword : afterWord? word (i.plainText ++ u) = none) :
      optionalWord word (i.plainText ++ u) = (false, i.plainText ++ u) :=
    optionalWord_of_none hword
  unfold text
  cases hmodifier : i.modifier with
  | unexported =>
    exact ⟨i.plainText ++ u, hplain "export".toList rfl, rfl⟩
  | exported gap hgap =>
    unfold Modifier.text
    simp only [List.append_assoc]
    exact ⟨_, optionalWord_gap "export".toList hgap hblank, hplain "default".toList rfl⟩
  | default gap gap' hgap hgap' =>
    have hdefault : ∀ c ∈ ("default".toList ++ (gap' ++ (i.plainText ++ u))).head?,
        Text.isBlank c = false := by
      intro c hc
      obtain rfl : 'd' = c := Option.some.inj hc
      decide
    unfold Modifier.text
    simp only [List.append_assoc]
    exact ⟨_, optionalWord_gap "export".toList hgap hdefault,
      optionalWord_gap "default".toList hgap' hblank⟩

theorem header?_text (i : Interface) (u : Text) :
    header? (i.text ++ u) =
      some (i.modifier.header i.name.text, i.heritage ++ '{' :: (i.body ++ '}' :: u)) := by
  have hname : ∀ c ∈ (i.heritage ++ '{' :: (i.body ++ '}' :: u)).head?,
      Text.isNameChar c = false := by
    intro c hc
    cases hheritage : i.heritage with
    | nil =>
      rw [hheritage] at hc
      obtain rfl : '{' = c := Option.some.inj hc
      decide
    | cons d t =>
      rw [hheritage] at hc
      exact i.not_isNameChar_heritage c (by rw [hheritage]; exact hc)
  have hdeclare : optionalWord "declare".toList (i.plainText ++ u) = (false, i.plainText ++ u) :=
    optionalWord_of_none rfl
  have hinterface := afterWord?_gap "interface".toList i.isGap_gap
    (i.name.not_isBlank_head (i.heritage ++ '{' :: (i.body ++ '}' :: u)))
  rw [← i.plainText_append] at hinterface
  obtain ⟨t, hexported, hdefault⟩ := i.optionalWord_text u
  simp only [header?, hexported, hdefault, hdeclare, hinterface, Option.bind_some,
    i.name.name?_append hname, Option.map_some, Option.some_or]
  rfl

/-- An interface is read as a whole. -/
theorem statement?_text (i : Interface) (file u : Text) :
    statement? file (i.text ++ u) = .ok (some (some i.found, u)) := by
  have himport : import? file (i.text ++ u) = none := by
    have hafter : Text.after? "import".toList (i.text ++ u) = none := by
      unfold text
      cases i.modifier <;> rfl
    rw [import?, hafter]
    rfl
  have hdeclared := i.isHeritage.declared_interface (i.modifier.header i.name.text) rfl
    i.bracketed_body i.members_body u
  rw [statement?, himport, i.header?_text]
  show (declared _ _).map some = _
  rw [hdeclared]
  rfl

/-- A scan finds an interface and goes on behind it. -/
theorem scan_text (i : Interface) (hbefore : before.head?.any Text.isNameChar = false) (u : Text) :
    scan file before 0 (i.text ++ u) =
      (scan file (i.text.reverse ++ before) 0 u).after i.found := by
  refine scan_statement ?_ hbefore (i.statement?_text file u)
  have hordinary : ∀ c ∈ ['e', 'i'], IsOrdinary c := Text.forall_mem_of_all (by decide)
  unfold text
  cases i.modifier
  · exact ⟨'i', _, rfl, hordinary _ (by simp)⟩
  · exact ⟨'e', _, rfl, hordinary _ (by simp)⟩
  · exact ⟨'e', _, rfl, hordinary _ (by simp)⟩

theorem exists_text_eq (i : Interface) : ∃ t, i.text = t ++ ['}'] := by
  refine ⟨i.modifier.text ++ ("interface".toList ++
    (i.gap ++ (i.name.text ++ (i.heritage ++ '{' :: i.body)))), ?_⟩
  unfold text plainText
  simp only [List.append_assoc, List.cons_append]

end Interface

/-! ### Export lists -/

theorem Part.forall_mem {p : Char → Prop} (hname : ∀ c, Text.isNameChar c = true → p c)
    (hblank : ∀ c, Text.isBlank c = true → p c) (part : Part) : ∀ c ∈ part.text, p c := by
  intro c hc
  unfold Part.text at hc
  rcases List.mem_append.1 hc with hc | hc
  · exact hblank c (part.isBlank_before c hc)
  rcases List.mem_append.1 hc with hc | hc
  · cases hbinding : part.binding with
    | none => simp [hbinding] at hc
    | some b =>
      rw [hbinding] at hc
      rcases b.isNameChar_or_eq_of_mem hc with hc | rfl
      · exact hname c hc
      · exact hblank ' ' (by decide)
  · exact hblank c (part.isBlank_after c hc)

/-- Whatever holds of names, blanks and commas holds inside the braces of an export list. -/
theorem ExportList.forall_mem_inner {p : Char → Prop}
    (hname : ∀ c, Text.isNameChar c = true → p c) (hblank : ∀ c, Text.isBlank c = true → p c)
    (hcomma : p ',') (l : ExportList) : ∀ c ∈ l.inner, p c := by
  refine Text.forall_mem_intercalate ?_ fun t ht => ?_
  · exact List.forall_mem_singleton.2 hcomma
  · obtain ⟨part, -, rfl⟩ := List.mem_map.1 ht
    exact part.forall_mem hname hblank

theorem isOrdinary_of_isBlank {c : Char} (h : Text.isBlank c = true) : IsOrdinary c where
  isQuote_eq := (isPlain_of_isBlank h).isQuote_eq
  ne_slash := ne_of_isBlank h (by decide)
  ne_open := ne_of_isBlank h (by decide)
  ne_close := ne_of_isBlank h (by decide)

/-- Blanks are passed over. -/
theorem scan_blanks {t : Text} (ht : ∀ c ∈ t, Text.isBlank c = true) (u : Text) :
    scan file before 0 (t ++ u) = scan file (t.reverse ++ before) 0 u := by
  induction t generalizing before with
  | nil => rfl
  | cons c t ih =>
    have hc := ht c List.mem_cons_self
    have hhead : c ∉ ['i', 'e', 'd', 't'] := by
      intro hmem
      have hblank : ∀ d ∈ ['i', 'e', 'd', 't'], Text.isBlank d = false :=
        Text.forall_mem_of_all (by decide)
      exact ne_of_isBlank hc (hblank c hmem) rfl
    rw [List.cons_append, scan_mark (isOrdinary_of_isBlank hc) hhead,
      ih fun d hd => ht d (List.mem_cons_of_mem c hd)]
    simp

theorem ExportList.text_append (l : ExportList) (u : Text) :
    l.text ++ u = "export".toList ++ (l.gap ++ '{' :: (l.inner ++ '}' :: u)) := by
  unfold text
  simp only [List.append_assoc, List.cons_append, List.nil_append]

/-- The word in front of an export list begins no statement. -/
theorem ExportList.statement?_text (l : ExportList) (file u : Text) :
    statement? file (l.text ++ u) = .ok none := by
  rw [l.text_append]
  by_cases hgap : l.gap = []
  -- without a blank after it the word is not read
  · rw [hgap, List.nil_append]
    exact statement?_eq_none (fun v hv => by cases hv) rfl rfl rfl rfl
  · have hblank : ∀ c ∈ ('{' :: (l.inner ++ '}' :: u)).head?, Text.isBlank c = false := by
      intro c hc
      obtain rfl : '{' = c := Option.some.inj hc
      decide
    have hexport := optionalWord_gap "export".toList ⟨hgap, l.isBlank_gap⟩ hblank
    have himport : import? file
        ("export".toList ++ (l.gap ++ '{' :: (l.inner ++ '}' :: u))) = none := by
      refine import?_eq_none fun v hv => ?_
      cases hv
    have hheader : header? ("export".toList ++ (l.gap ++ '{' :: (l.inner ++ '}' :: u))) = none := by
      simp only [header?, hexport]
      rfl
    rw [statement?, himport, hheader]

/-- A scan finds nothing in an export list. -/
theorem ExportList.scan_text (l : ExportList) (u : Text) :
    scan file before 0 (l.text ++ u) = scan file (l.text.reverse ++ before) 0 u := by
  have hinner := l.forall_mem_inner (fun _ => isOrdinary_of_isNameChar)
    (fun _ => isOrdinary_of_isBlank) (by decide)
  have hword : scan file before 0 ('e' :: ("xport".toList ++
      (l.gap ++ '{' :: (l.inner ++ '}' :: u)))) =
        scan file ("xport".toList.reverse ++ 'e' :: before) 0
          (l.gap ++ '{' :: (l.inner ++ '}' :: u)) := by
    refine scan_word (by decide) (Text.forall_mem_of_all (by decide)) ?_
    have hstatement := l.statement?_text file u
    rwa [l.text_append] at hstatement
  have htext : l.text.reverse ++ before = '}' :: (l.inner.reverse ++ '{' ::
      (l.gap.reverse ++ ("xport".toList.reverse ++ 'e' :: before))) := by
    have htext := l.text_append []
    rw [List.append_nil] at htext
    rw [htext]
    simp
  rw [htext, l.text_append]
  refine hword.trans ?_
  rw [scan_blanks l.isBlank_gap, scan_open, scan_inner (by decide) hinner, scan_close]

/-! ### The whole file -/

/-- What a scan finds at an item. -/
def Item.found : Item → Option Declaration.Item
  | interface i => some i.found
  | separator .. | exports _ => none

theorem text_cons (item : Item) (items : List Item) :
    text (item :: items) = item.text ++ text items :=
  List.flatMap_cons

/-- An item ends in no character of a name. -/
theorem Item.not_isNameChar_last (item : Item) (before : Text) :
    (item.text.reverse ++ before).head?.any Text.isNameChar = false := by
  have hbrace {t : Text} (ht : ∃ u, t = u ++ ['}']) :
      (t.reverse ++ before).head?.any Text.isNameChar = false := by
    obtain ⟨u, rfl⟩ := ht
    simp
    decide
  cases item with
  | separator c h =>
    show Text.isNameChar c = false
    rcases h with h | rfl
    · exact Text.not_isNameChar_of_isBlank h
    · decide
  | interface i => exact hbrace i.exists_text_eq
  | exports l =>
    refine hbrace ⟨"export".toList ++ (l.gap ++ '{' :: l.inner), ?_⟩
    show l.text = _
    unfold ExportList.text
    simp only [List.append_assoc, List.cons_append]

theorem Item.scan_text (item : Item) (hbefore : before.head?.any Text.isNameChar = false)
    (u : Text) :
    scan file before 0 (item.text ++ u) =
      (scan file (item.text.reverse ++ before) 0 u).after item.found := by
  cases item with
  | separator c h =>
    rcases h with h | rfl
    · exact scan_blanks (List.forall_mem_singleton.2 h) u
    · exact scan_mark (by decide) (by decide)
  | interface i => exact i.scan_text hbefore u
  | exports l => exact l.scan_text u

/-- A scan finds the interfaces of a file, one by one. -/
theorem scan_text (items : List Item) (hbefore : before.head?.any Text.isNameChar = false) :
    scan file before 0 (text items) = { items := items.filterMap Item.found } := by
  induction items generalizing before with
  | nil => rw [text, List.flatMap_nil, scan]; rfl
  | cons item items ih =>
    rw [text_cons, item.scan_text hbefore, ih (item.not_isNameChar_last before), Scan.after,
      List.filterMap_cons]
    cases item.found <;> rfl

theorem uncommented_of_isOrdinary {t : Text} (h : ∀ c ∈ t, IsOrdinary c) : Uncommented t :=
  .of_forall fun c hc => ⟨(h c hc).isQuote_eq, (h c hc).ne_slash⟩

theorem isOrdinary_of_mem_gap {gap : Text} (h : ∀ c ∈ gap, Text.isBlank c = true) :
    ∀ c ∈ gap, IsOrdinary c :=
  fun c hc => isOrdinary_of_isBlank (h c hc)

theorem Modifier.uncommented (m : Modifier) : Uncommented m.text := by
  have hword {word : Text} (h : word.all fun c => IsOrdinary c) : Uncommented word :=
    uncommented_of_isOrdinary (Text.forall_mem_of_all h)
  have hgap {gap : Text} (h : IsGap gap) : Uncommented gap :=
    uncommented_of_isOrdinary (isOrdinary_of_mem_gap h.2)
  unfold text
  cases m with
  | unexported => exact .nil
  | exported gap h => exact (hword (by decide)).append (hgap h)
  | default gap gap' h h' =>
    exact (hword (by decide)).append ((hgap h).append ((hword (by decide)).append (hgap h')))

theorem Interface.uncommented (i : Interface) : Uncommented i.text := by
  have hinner (c : Char) (hc : isInner c) : c ≠ '/' := hc
  have hword : Uncommented "interface".toList :=
    uncommented_of_isOrdinary (Text.forall_mem_of_all (by decide))
  have hname : Uncommented i.name.text := uncommented_of_isOrdinary fun c hc =>
    isOrdinary_of_isNameChar (Name.isNameChar_of_mem hc)
  have hbody : Uncommented ('{' :: (i.body ++ ['}'])) :=
    .char (by decide) (by decide) ((i.bracketed_body.uncommented hinner hinner).append
      (.char (by decide) (by decide) .nil))
  have hgap := uncommented_of_isOrdinary (isOrdinary_of_mem_gap i.isGap_gap.2)
  have hheritage := i.isHeritage.bracketed.uncommented hinner hinner
  unfold text plainText
  exact i.modifier.uncommented.append (hword.append (hgap.append (hname.append
    (hheritage.append hbody))))

theorem ExportList.uncommented (l : ExportList) : Uncommented l.text := by
  have hword : Uncommented "export".toList :=
    uncommented_of_isOrdinary (Text.forall_mem_of_all (by decide))
  have hgap := uncommented_of_isOrdinary (isOrdinary_of_mem_gap l.isBlank_gap)
  have hinner := uncommented_of_isOrdinary (l.forall_mem_inner (fun _ => isOrdinary_of_isNameChar)
    (fun _ => isOrdinary_of_isBlank) (by decide))
  unfold text
  exact hword.append (hgap.append (.char (by decide) (by decide)
    (hinner.append (.char (by decide) (by decide) .nil))))

theorem uncommented_text (items : List Item) : Uncommented (text items) := by
  refine .flatMap fun item _ => ?_
  cases item with
  | separator c h =>
    refine uncommented_of_isOrdinary (List.forall_mem_singleton.2 ?_)
    rcases h with h | rfl
    · exact isOrdinary_of_isBlank h
    · decide
  | interface i => exact i.uncommented
  | exports l => exact l.uncommented

end ShapeMapper.InterfaceFile
