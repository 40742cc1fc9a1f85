import Mathlib.Data.List.Infix
import ShapeMapper.Generator
import ShapeMapper.Proofs.Declaration.Entity
import ShapeMapper.Proofs.Declaration.InterfaceFile
import ShapeMapper.Proofs.ImportBlock.Binding

/-!
# What is imported from a file

Every entry that is read in a file of interfaces and export lists is a binding of one of its lists,
if no list begins inside an interface (`exists_binding_of_mem_exportEntries`). So what the
generated file imports from such a file is exported by it: the default name as a default export,
and the names in braces under some name (`exists_names_of_entityImport`).
-/

namespace ShapeMapper

open Source Declaration Written

namespace InterfaceFile

variable {entry : ExportEntry}

/-! ### Entries of export lists -/

/-- An entry without a name is none. -/
theorem ofText?_eq_none {t l r : Text} (hcut : Text.cut? " as ".toList t = some (l, r))
    (hl : ∀ c ∈ l, Text.isBlank c = true) : ExportEntry.ofText? t = none := by
  simp only [ExportEntry.ofText?, hcut, Option.getD_some, Text.strip_eq_nil hl]
  rfl

theorem ofText?_blanks {t : Text} (h : ∀ c ∈ t, Text.isBlank c = true) :
    ExportEntry.ofText? t = none := by
  cases hcut : Text.cut? " as ".toList t with
  | none =>
    simp only [ExportEntry.ofText?, hcut, Option.getD_none, Text.strip_eq_nil h]
    rfl
  | some parts =>
    obtain ⟨l, r⟩ := parts
    have htext := Text.eq_append_of_cut? hcut
    exact ofText?_eq_none hcut fun c hc => h c (by rw [htext]; simp [hc])

section Binding

variable {before after : Text} (hbefore : ∀ c ∈ before, Text.isBlank c = true)
  (hafter : ∀ c ∈ after, Text.isBlank c = true)

include hbefore hafter

theorem Name.eq_of_ofText? (n : Name)
    (h : ExportEntry.ofText? (before ++ (n.text ++ after)) = some entry) :
    entry = ⟨n.text, false⟩ := by
  have hne : n.text ≠ [] := List.cons_ne_nil _ _
  have hhead : ∀ c ∈ after.head?, Text.isNameChar c = false := fun c hc =>
    Text.not_isNameChar_of_isBlank (hafter c (List.mem_of_mem_head? hc))
  have hcut := n.cut?_blanks_append hbefore hhead
  split at hcut
  · rw [ofText?_eq_none hcut fun c hc => hbefore c (List.dropLast_subset _ hc)] at h
    cases h
  · have hstrip : Text.strip (before ++ (n.text ++ after)) = n.text := by
      rw [← List.append_assoc, n.strip_text hbefore hafter]
    rw [cut?_as_blanks hafter, Option.map_none] at hcut
    simp only [ExportEntry.ofText?, hcut, Option.getD_none, hstrip, n.after?_type,
      Option.elim_none] at h
    rw [if_neg hne] at h
    exact (Option.some.inj h).symm

theorem Name.eq_of_ofText?_as (n target : Name)
    (h : ExportEntry.ofText? (before ++ (n.text ++ (" as ".toList ++ (target.text ++ after)))) =
      some entry) :
    entry = ⟨n.text, target.text = "default".toList⟩ := by
  have hne : n.text ≠ [] := List.cons_ne_nil _ _
  have hcut := n.cut?_blanks_append hbefore (t := " as ".toList ++ (target.text ++ after))
    fun c hc => Option.some.inj hc ▸ rfl
  split at hcut
  · rw [ofText?_eq_none hcut fun c hc => hbefore c (List.dropLast_subset _ hc)] at h
    cases h
  · have hnone : ∀ c ∈ ([] : Text), Text.isBlank c = true := by simp
    have hname : Text.strip (before ++ (n.text ++ [])) = n.text := by
      rw [← List.append_assoc, n.strip_text hbefore hnone]
    have htarget : Text.strip (target.text ++ after) = target.text :=
      target.strip_text hnone hafter
    rw [cut?_as_append, Option.map_some] at hcut
    simp only [ExportEntry.ofText?, hcut, Option.getD_some, hname, n.after?_type,
      Option.elim_none, htarget] at h
    rw [if_neg hne] at h
    exact (Option.some.inj h).symm

theorem Binding.eq_of_ofText? (b : Binding)
    (h : ExportEntry.ofText? (before ++ (b.text ++ after)) = some entry) : entry = b.entry := by
  obtain ⟨name, target⟩ := b
  cases target with
  | none => exact Name.eq_of_ofText? hbefore hafter name h
  | some target =>
    refine Name.eq_of_ofText?_as hbefore hafter name target ?_
    rw [← h]
    simp only [Binding.text, List.append_assoc]

end Binding

/-- A part of an export list is read as its binding, or not at all. -/
theorem Part.binding_of_ofText? (p : Part) (h : ExportEntry.ofText? p.text = some entry) :
    ∃ b, p.binding = some b ∧ entry = b.entry := by
  unfold Part.text at h
  cases hbinding : p.binding with
  | none =>
    have hblanks : ∀ c ∈ p.before ++ p.after, Text.isBlank c = true :=
      List.forall_mem_append.2 ⟨p.isBlank_before, p.isBlank_after⟩
    rw [hbinding] at h
    exact absurd ((ofText?_blanks hblanks).symm.trans h) nofun
  | some b =>
    rw [hbinding] at h
    exact ⟨b, rfl, Binding.eq_of_ofText? p.isBlank_before p.isBlank_after b h⟩

/-- Every entry that is read in the braces of an export list is one of its bindings. -/
theorem ExportList.exists_binding_of_mem_inner (l : ExportList)
    (h : entry ∈ (l.inner.splitOn ',').filterMap ExportEntry.ofText?) :
    ∃ b ∈ l.bindings, entry = b.entry := by
  obtain ⟨t, ht, hentry⟩ := List.mem_filterMap.1 h
  by_cases hparts : l.parts = []
  · rw [ExportList.inner, hparts] at ht
    obtain rfl : t = [] := List.mem_singleton.1 ht
    cases hentry
  · have hcomma : ∀ p ∈ l.parts.map Part.text, ',' ∉ p := by
      intro t ht
      obtain ⟨p, -, rfl⟩ := List.mem_map.1 ht
      exact fun hmem => p.forall_mem (p := fun c => c ≠ ',')
        (fun c hc => ne_of_isNameChar hc (by decide)) (fun c hc => ne_of_isBlank hc (by decide))
        ',' hmem rfl
    rw [ExportList.inner, List.splitOn_intercalate ',' hcomma (by simpa using hparts)] at ht
    obtain ⟨p, hp, rfl⟩ := List.mem_map.1 ht
    obtain ⟨b, hb, rfl⟩ := p.binding_of_ofText? hentry
    exact ⟨b, List.mem_filterMap.2 ⟨p, hp, hb⟩, rfl⟩

/-! ### Where export lists begin -/

/-- The braces of an export list follow its first words. -/
theorem exists_of_listHead {head : Text} (h : ListHead head) :
    ∃ m, head = m ++ ['{'] ∧ 'e' ∈ m ∧ '{' ∉ m ∧ '}' ∉ m := by
  have hword (word : Text) (hword : word.all Text.isNameChar) :
      '{' ∉ word ∧ '}' ∉ word := by
    have hmem (c : Char) (hc : Text.isNameChar c = false) : c ∉ word := fun hmem => by
      have htrue := List.all_eq_true.1 hword c hmem
      rw [hc] at htrue
      cases htrue
    exact ⟨hmem _ (by decide), hmem _ (by decide)⟩
  have hgap {gap : Text} (h : IsGap gap) : '{' ∉ gap ∧ '}' ∉ gap :=
    ⟨fun hmem => ne_of_isBlank (h.2 _ hmem) (by decide) rfl,
      fun hmem => ne_of_isBlank (h.2 _ hmem) (by decide) rfl⟩
  have hexport := hword "export".toList (by decide)
  have htype := hword "type".toList (by decide)
  cases h with
  | @plain gap h =>
    refine ⟨"export".toList ++ gap, List.append_assoc _ _ _ ▸ rfl, by simp, ?_, ?_⟩
    · exact List.not_mem_append hexport.1 (hgap h).1
    · exact List.not_mem_append hexport.2 (hgap h).2
  | @typeOnly gap gap' h h' =>
    refine ⟨"export".toList ++ (gap ++ ("type".toList ++ gap')), ?_, by simp, ?_, ?_⟩
    · simp only [List.append_assoc]
    · exact List.not_mem_append hexport.1 (List.not_mem_append (hgap h).1
        (List.not_mem_append htype.1 (hgap h').1))
    · exact List.not_mem_append hexport.2 (List.not_mem_append (hgap h).2
        (List.not_mem_append htype.2 (hgap h').2))

/-- Whether an export list begins at the head of a text. -/
def opensList (t : Text) : Bool :=
  (afterWord? "export".toList t).any fun u =>
    u.head? = some '{' || (afterWord? "type".toList u).any fun v => v.head? = some '{'

theorem opensList_append {head : Text} (h : ListHead head) (t : Text) :
    opensList (head ++ t) = true := by
  have hbrace : ∀ c ∈ ('{' :: t).head?, Text.isBlank c = false := by
    intro c hc
    obtain rfl : '{' = c := Option.some.inj hc
    decide
  cases h with
  | @plain gap hgap =>
    have htext : "export".toList ++ (gap ++ ['{']) ++ t = "export".toList ++ (gap ++ '{' :: t) := by
      simp only [List.append_assoc, List.cons_append, List.nil_append]
    rw [htext, opensList, afterWord?_gap "export".toList hgap hbrace]
    rfl
  | @typeOnly gap gap' hgap hgap' =>
    have htext : "export".toList ++ (gap ++ ("type".toList ++ (gap' ++ ['{']))) ++ t =
        "export".toList ++ (gap ++ ("type".toList ++ (gap' ++ '{' :: t))) := by
      simp only [List.append_assoc, List.cons_append, List.nil_append]
    have htype : ∀ c ∈ ("type".toList ++ (gap' ++ '{' :: t)).head?, Text.isBlank c = false := by
      intro c hc
      obtain rfl : 't' = c := Option.some.inj hc
      decide
    rw [htext, opensList, afterWord?_gap "export".toList hgap htype, Option.any_some,
      afterWord?_gap "type".toList hgap' hbrace]
    exact Bool.or_true _

/-- A file is quiet if no export list begins anywhere in its interfaces. -/
theorem quiet_of_forall {items : List Item}
    (h : ∀ i, Item.interface i ∈ items → i.text.tails.all (fun t => !opensList t) = true) :
    Quiet items := by
  intro i hi head hhead ⟨a, b, htext⟩
  have htail : head ++ b ∈ i.text.tails :=
    (List.mem_tails _ _).2 ⟨a, by rw [← htext, List.append_assoc]⟩
  have hopens := List.all_eq_true.1 (h i hi) _ htail
  rw [opensList_append hhead] at hopens
  cases hopens

/-- No export list goes on behind a closing brace that none of them begins before. -/
theorem exportEntries_brace {t : Text} (h : ∀ head, ListHead head → ¬head <:+: t ++ ['}'])
    (u : Text) : exportEntries (t ++ ['}'] ++ u) = exportEntries u := by
  refine exportEntries_append fun c q hq => exportList?_eq_none fun head hhead hstart => ?_
  rcases List.prefix_or_prefix_of_prefix hstart (List.prefix_append (c :: q) u) with hin | hover
  · exact h head hhead (hin.isInfix.trans hq.isInfix)
  · obtain hnil | ⟨q', hq', -⟩ := List.suffix_concat_iff.1 hq
    · cases hnil
    · -- the head would hold the closing brace
      obtain ⟨m, rfl, -, -, hbrace⟩ := exists_of_listHead hhead
      have hmem : '}' ∈ m ++ ['{'] := hover.subset (by rw [hq']; simp)
      simp [hbrace] at hmem

/-- An export list holds no head of another one. -/
theorem not_listHead_braces {gap inner : Text} (hgap : ∀ c ∈ gap, Text.isBlank c = true)
    (hinner : '{' ∉ inner) : ∀ head, ListHead head →
      ¬head <:+: "xport".toList ++ (gap ++ '{' :: (inner ++ ['}'])) := by
  intro head hhead ⟨a, b, hinfix⟩
  obtain ⟨m, rfl, hm, hbrace, -⟩ := exists_of_listHead hhead
  have hnotMem {c : Char} (hc : Text.isBlank c = false) : c ∉ gap := fun hmem =>
    ne_of_isBlank (hgap c hmem) hc rfl
  have hword : '{' ∉ "xport".toList ++ gap :=
    List.not_mem_append (by decide) (hnotMem (by decide))
  have hrest : '{' ∉ inner ++ ['}'] := List.not_mem_append hinner (by decide)
  have htext : ("xport".toList ++ gap) ++ '{' :: (inner ++ ['}']) = (a ++ m) ++ '{' :: b := by
    rw [List.append_assoc, ← hinfix]
    simp only [List.append_assoc, List.cons_append, List.nil_append]
  -- there is one opening brace, and no `e` between the first character and it
  obtain ⟨hfirst, -⟩ := (List.append_cons_inj_of_notMem hword hrest).1 htext
  have hmem : 'e' ∈ "xport".toList ++ gap := by rw [hfirst]; simp [hm]
  exact List.not_mem_append (by decide) (hnotMem (by decide)) hmem

theorem ExportList.isInside_inner (l : ExportList) : ∀ c ∈ l.inner, c ≠ '{' ∧ c ≠ '}' :=
  l.forall_mem_inner (p := fun c => c ≠ '{' ∧ c ≠ '}')
    (fun _ hc => ⟨ne_of_isNameChar hc (by decide), ne_of_isNameChar hc (by decide)⟩)
    (fun _ hc => ⟨ne_of_isBlank hc (by decide), ne_of_isBlank hc (by decide)⟩) (by decide)

theorem ExportList.not_listHead_tail (l : ExportList) {t : Text}
    (ht : l.text = 'e' :: (t ++ ['}'])) : ∀ head, ListHead head → ¬head <:+: t ++ ['}'] := by
  have htail : 'e' :: (t ++ ['}']) =
      'e' :: ("xport".toList ++ (l.gap ++ '{' :: (l.inner ++ ['}']))) := ht.symm
  rw [(List.cons.inj htail).2]
  exact not_listHead_braces l.isBlank_gap fun hmem => (l.isInside_inner '{' hmem).1 rfl

/-- What is read of an export list is what stands in its braces. -/
theorem ExportList.exportList?_text (l : ExportList) (u : Text) {names : Text}
    (h : exportList? (l.text ++ u) = some names) : names = l.inner := by
  rw [l.text_append] at h
  by_cases hgap : l.gap = []
  -- without a blank after it the word is not read
  · rw [hgap, List.nil_append] at h
    cases h
  · rw [exportList?_braces ⟨hgap, l.isBlank_gap⟩ l.isInside_inner] at h
    split at h
    · cases h
    · exact (Option.some.inj h).symm

/-- The entries at an item are bindings of it. -/
theorem Item.entries_text (item : Item) (u : Text)
    (hquiet : ∀ i, item = .interface i → ∀ head, ListHead head → ¬head <:+: i.text)
    (h : entry ∈ exportEntries (item.text ++ u)) :
    (∃ l, item = .exports l ∧ ∃ b ∈ l.bindings, entry = b.entry) ∨ entry ∈ exportEntries u := by
  cases item with
  | separator c hc =>
    have hne : 'e' ≠ c := by
      rcases hc with hc | rfl
      · exact (ne_of_isBlank hc (by decide)).symm
      · decide
    have hexport : afterWord? "export".toList (c :: u) = none :=
      afterWord?_cons_of_ne hne "xport".toList u
    have hnone : exportList? (c :: u) = none := by
      simp only [exportList?, hexport, Option.bind_eq_bind, Option.bind_none]
    refine .inr ?_
    rwa [show (Item.separator c hc).text ++ u = c :: u from rfl, exportEntries_cons, hnone] at h
  | interface i =>
    obtain ⟨t, ht⟩ := i.exists_text_eq
    have hnone := hquiet i rfl
    rw [ht] at hnone
    rw [show (Item.interface i).text = i.text from rfl, ht, exportEntries_brace hnone] at h
    exact .inr h
  | exports l =>
    have htext : ∃ t, l.text = 'e' :: (t ++ ['}']) := by
      refine ⟨"xport".toList ++ (l.gap ++ '{' :: l.inner), ?_⟩
      unfold ExportList.text
      simp only [List.append_assoc, List.cons_append]
      rfl
    obtain ⟨t, ht⟩ := htext
    have hhead : exportEntries (l.text ++ u) =
        ((exportList? (l.text ++ u)).elim [] fun names =>
          (names.splitOn ',').filterMap ExportEntry.ofText?) ++ exportEntries u := by
      rw [ht, List.cons_append, exportEntries_cons, exportEntries_brace (l.not_listHead_tail ht)]
    rw [show (Item.exports l).text = l.text from rfl, hhead] at h
    rcases List.mem_append.1 h with h | h
    · refine .inl ⟨l, rfl, ?_⟩
      cases hlist : exportList? (l.text ++ u) with
      | none =>
        rw [hlist] at h
        cases h
      | some names =>
        rw [hlist, l.exportList?_text u hlist] at h
        exact l.exists_binding_of_mem_inner h
    · exact .inr h

/-- Every entry of a quiet file is a binding of one of its export lists. -/
theorem exists_binding_of_mem_exportEntries {items : List Item} (hquiet : Quiet items)
    (h : entry ∈ exportEntries (text items)) :
    ∃ l, Item.exports l ∈ items ∧ ∃ b ∈ l.bindings, entry = b.entry := by
  induction items with
  | nil => cases h
  | cons item items ih =>
    rw [text_cons] at h
    have hitem (i : Interface) (hi : item = .interface i) :=
      hquiet i (hi ▸ List.mem_cons_self)
    rcases item.entries_text (text items) hitem h with ⟨l, rfl, hb⟩ | hrest
    · exact ⟨l, List.mem_cons_self, hb⟩
    · obtain ⟨l, hl, hb⟩ := ih (fun i hi => hquiet i (List.mem_cons_of_mem item hi)) hrest
      exact ⟨l, List.mem_cons_of_mem item hl, hb⟩

end InterfaceFile

namespace Document

/-! ### The shapes of a document -/

variable {entries : List ExportEntry} {e : Entity}

/-- A shape is the default export only by its declaration or by an entry. -/
theorem of_isDefault_exportedBy (h : (exportedBy entries e).isDefault = true) :
    e.isDefault = true ∨ ∃ entry ∈ entries, entry.asDefault = true ∧ entry.name = e.name := by
  unfold exportedBy at h
  dsimp only at h
  split at h
  · rcases Bool.or_eq_true_iff.1 h with h | h
    · exact .inl h
    · obtain ⟨entry, hlast, hname⟩ := (Option.any_eq_true _ _).1 h
      have hentry := List.mem_filter.1 (List.mem_of_getLast? hlast)
      exact .inr ⟨entry, hentry.1, hentry.2, of_decide_eq_true hname⟩
  · exact .inl h

/-- A shape that is not the default export is exported only by its declaration or by an entry. -/
theorem of_exported_exportedBy (h : (exportedBy entries e).exported = true)
    (hdefault : (exportedBy entries e).isDefault = false) :
    e.exported = true ∧ e.isDefault = false ∨
      ∃ entry ∈ entries, entry.asDefault = false ∧ entry.name = e.name := by
  unfold exportedBy at h hdefault
  dsimp only at h hdefault
  split at h
  · next hlisted =>
    rw [if_pos hlisted] at hdefault
    obtain ⟨-, hlast⟩ := (Bool.or_eq_false_iff).1 hdefault
    rw [hlast, Bool.false_or] at hlisted
    obtain ⟨entry, hentry, hname⟩ := List.any_eq_true.1 hlisted
    simp at hname
    exact .inr ⟨entry, hentry, hname⟩
  · next hlisted =>
    rw [if_neg hlisted] at hdefault
    exact .inl ⟨h, hdefault⟩

/-- If one of the shapes is the default export, there is a default name. -/
theorem exists_defaultName {d : Document} (h : e ∈ d.entities) (hdefault : e.isDefault = true) :
    ∃ x, d.defaultName = some x := by
  cases hfind : d.entities.find? Entity.isDefault with
  | none => exact absurd hdefault (List.find?_eq_none.1 hfind e h)
  | some e => exact ⟨e.name, by rw [defaultName, hfind]; rfl⟩

end Document

namespace InterfaceFile

variable {items : List Item}

/-! ### The document of a file -/

/-- The document of a file that is read for its exports. -/
def document (file : Text) (items : List Item) : Document :=
  Document.ofItems .exportedOnly file (items.filterMap Item.found) (exportEntries (text items))

theorem ofSource_text (file : Text) (items : List Item) :
    (Document.ofSource .exportedOnly file (text items)).1 = .ok (document file items) := by
  have hscan : scan file [] 0 (text items) = { items := items.filterMap Item.found } :=
    scan_text items rfl
  unfold Document.ofSource
  rw [(uncommented_text items).withoutComments_eq]
  dsimp only
  rw [hscan]
  rfl

/-- The shape that an interface declares. -/
def Interface.entity (i : Interface) : Entity :=
  Entity.ofMembers i.name.text (i.members.filterMap Member.property?)
    (i.modifier.header i.name.text).exported (i.modifier.header i.name.text).isDefault

/-- The shapes of a document are interfaces of its file, as the export lists export them. -/
theorem exists_interface_of_mem_entities {file : Text} {e : Entity}
    (h : e ∈ (document file items).entities) :
    ∃ i, Item.interface i ∈ items ∧
      e = Document.exportedBy (exportEntries (text items)) i.entity := by
  obtain ⟨d, unsupported, hitem, rfl⟩ := Document.exists_item_of_mem_entities h
  obtain ⟨item, hmem, hfound⟩ := List.mem_filterMap.1 hitem
  cases item with
  | separator => cases hfound
  | exports => cases hfound
  | interface i =>
    cases hfound
    exact ⟨i, hmem, rfl⟩

section Shape

variable {i : Interface} (hquiet : Quiet items) (hi : .interface i ∈ items)

include hquiet hi

/-- A shape that is the default export of the document is a default export of the file. -/
theorem exportsDefault_of_isDefault
    (h : (Document.exportedBy (exportEntries (text items)) i.entity).isDefault = true) :
    ExportsDefault items i.name.text := by
  rcases Document.of_isDefault_exportedBy h with hdefault | ⟨entry, hentry, hdefault, hname⟩
  · have hheader : (i.modifier.header i.name.text).isDefault = true := hdefault
    obtain ⟨gap, gap', hgap, hgap', hmodifier⟩ := Modifier.eq_default hheader
    exact .declared hi hmodifier
  · obtain ⟨l, hl, b, hb, rfl⟩ := exists_binding_of_mem_exportEntries hquiet hentry
    have hlisted := ExportsDefault.listed hl hb hdefault
    rwa [show b.name.text = i.name.text from hname] at hlisted

/-- Any other shape of the document is exported by the file, under its name or another one. -/
theorem exportsAs_of_exported
    (h : (Document.exportedBy (exportEntries (text items)) i.entity).exported = true)
    (hdefault :
      (Document.exportedBy (exportEntries (text items)) i.entity).isDefault = false) :
    ∃ y, ExportsAs items i.name.text y := by
  rcases Document.of_exported_exportedBy h hdefault with
    ⟨hexported, hdeclared⟩ | ⟨entry, hentry, hlisted, hname⟩
  · have hheader : (i.modifier.header i.name.text).exported = true := by
      rcases Bool.or_eq_true_iff.1 hexported with h | h
      · exact h
      · exact absurd (hdeclared.symm.trans h) Bool.false_ne_true
    obtain ⟨gap, hgap, hmodifier⟩ := Modifier.eq_exported hheader hdeclared
    exact ⟨_, .declared hi hmodifier⟩
  · obtain ⟨l, hl, b, hb, rfl⟩ := exists_binding_of_mem_exportEntries hquiet hentry
    have hexports := ExportsAs.listed hl hb hlisted
    rw [show b.name.text = i.name.text from hname] at hexports
    exact ⟨_, hexports⟩

end Shape

/-! ### The import of the shapes of a file -/

/-- An import of a default name and of names in braces. -/
def importText (default : Option Text) (named : List Text) (specifier : Text) : Text :=
  "import ".toList ++ ", ".toList.intercalate (default.toList ++
    if named = [] then []
    else ["\x7b ".toList ++ ", ".toList.intercalate named ++ " \x7d".toList]) ++
    " from '".toList ++ specifier ++ ['\'']

theorem eq_importText {d : Document} {file t : Text} {site : Site}
    (hdefault : ∀ x ∈ d.defaultName, x ≠ [])
    (h : site.entityImport (d.contribution file) = .ok (some t)) :
    t = importText d.defaultName (d.names.eraseDups.filter fun x => some x ≠ d.defaultName)
      (site.specifier file) := by
  have hfilter : d.defaultName.filter (· ≠ []) = d.defaultName := by
    cases hname : d.defaultName with
    | none => rfl
    | some x => simp [Option.filter, hdefault x hname]
  rw [Site.eq_of_entityImport h]
  unfold Site.clauses importText
  dsimp only [Document.contribution]
  rw [hfilter]
  rfl

/-- The import of the shapes of a file names what the file exports. The names in braces are
those by which the file itself knows what it exports; an export list may rename it. Of several
default exports one is the default of the import, and the others are in the braces. -/
theorem exists_names_of_entityImport (hquiet : Quiet items) (file : Text) :
    ∃ d, (Document.ofSource .exportedOnly file (text items)).1 = .ok d ∧
      ∀ (site : Site) (t : Text), site.entityImport (d.contribution file) = .ok (some t) →
        ∃ (default : Option Text) (named : List Text),
          t = importText default named (site.specifier file) ∧
          (∀ x ∈ default, Declares items x ∧ ExportsDefault items x) ∧
          ∀ x ∈ named, Declares items x ∧ ((∃ y, ExportsAs items x y) ∨
            ExportsDefault items x ∧ ∃ z ∈ default, z ≠ x) := by
  have hread := ofSource_text file items
  refine ⟨document file items, hread, fun site t ht => ?_⟩
  refine ⟨(document file items).defaultName, (document file items).names.eraseDups.filter fun x =>
    some x ≠ (document file items).defaultName, ?_, fun x hx => ?_, fun x hx => ?_⟩
  · exact eq_importText (fun x hx =>
      (Document.isWord_of_mem_names hread (Document.mem_names_of_defaultName hx)).ne_nil) ht
  · obtain ⟨e, he, rfl⟩ := Option.map_eq_some_iff.1 hx
    obtain ⟨i, hi, rfl⟩ := exists_interface_of_mem_entities (List.mem_of_find?_eq_some he)
    rw [Document.name_exportedBy]
    exact ⟨⟨i, hi, rfl⟩, exportsDefault_of_isDefault hquiet hi (List.find?_some he)⟩
  · obtain ⟨hx, hne⟩ := List.mem_filter.1 hx
    obtain ⟨e, he, rfl⟩ := List.mem_map.1 (List.mem_eraseDups.1 hx)
    obtain ⟨i, hi, rfl⟩ := exists_interface_of_mem_entities he
    rw [Document.name_exportedBy] at hne ⊢
    refine ⟨⟨i, hi, rfl⟩, ?_⟩
    by_cases hdefault :
        (Document.exportedBy (exportEntries (text items)) i.entity).isDefault = true
    · obtain ⟨z, hz⟩ := Document.exists_defaultName he hdefault
      refine .inr ⟨exportsDefault_of_isDefault hquiet hi hdefault, z, hz, ?_⟩
      rintro rfl
      simp [hz, Interface.entity, Entity.ofMembers] at hne
    · have hexported :
          (Document.exportedBy (exportEntries (text items)) i.entity).exported = true :=
        (List.mem_filter.1 he).2
      exact .inl (exportsAs_of_exported hquiet hi hexported (Bool.eq_false_iff.2 hdefault))

/-! #### A file that renames what it exports -/

theorem isGap_space : IsGap [' '] :=
  ⟨List.cons_ne_nil _ _, Text.isBlank_of_mem_space⟩

/-- Three interfaces, of which two are exported as the default and one under another name. -/
def renamingFile : List Item :=
  let interface (modifier : Modifier) (name : Name) (body : Text)
      (h : body.all fun c => IsPlain c ∧ isInner c) : Item := .interface {
    modifier := modifier
    gap := [' ']
    name := name
    heritage := [' ']
    body := body
    isGap_gap := isGap_space
    not_isNameChar_heritage := fun c hc => Option.some.inj hc ▸ by decide
    isHeritage := .char (by decide) (by decide) .nil
    bracketed_body := .of_all h }
  let newline : Item := .separator '\n' (by decide)
  let part (name target : Name) : Part := {
    before := [' ']
    binding := some { name := name, target := some target }
    after := []
    isBlank_before := Text.isBlank_of_mem_space
    isBlank_after := List.forall_mem_nil _ }
  let default : Modifier := .default [' '] [' '] isGap_space isGap_space
  let a : Name := ⟨'A', [], .refl true, Text.isNameChar_of_mem_nil⟩
  let b : Name := ⟨'B', [], .refl true, Text.isNameChar_of_mem_nil⟩
  let c : Name := ⟨'C', [], .refl true, Text.isNameChar_of_mem_nil⟩
  [interface .unexported a " x: string ".toList (by decide), newline,
    interface default b " y: A ".toList (by decide), newline,
    interface .unexported c " z: B ".toList (by decide), newline,
    .exports {
      gap := [' ']
      parts := [part a ⟨'d', "efault".toList, by decide, Text.forall_mem_of_all (by decide)⟩,
        part c ⟨'D', [], .refl true, Text.isNameChar_of_mem_nil⟩]
      isBlank_gap := Text.isBlank_of_mem_space }]

theorem text_renamingFile : text renamingFile =
    ("interface A \x7b x: string \x7d\nexport default interface B \x7b y: A \x7d\n" ++
      "interface C \x7b z: B \x7d\nexport \x7b A as default, C as D\x7d").toList := by
  decide +kernel

theorem quiet_renamingFile : Quiet renamingFile := by
  refine quiet_of_forall fun i hi => ?_
  simp only [renamingFile, List.mem_cons, Item.interface.injEq, List.not_mem_nil, or_false,
    reduceCtorEq, false_or] at hi
  rcases hi with rfl | rfl | rfl <;> decide +kernel

/-- What is imported from the file: the names that are declared in it. -/
theorem exists_names_renamingFile : Quiet renamingFile ∧
    ∃ d, (Document.ofSource .exportedOnly "/a.ts".toList (text renamingFile)).1 = .ok d ∧
      ∀ (site : Site) (t : Text), site.entityImport (d.contribution "/a.ts".toList) = .ok (some t) →
        ∃ (default : Option Text) (named : List Text),
          t = importText default named (site.specifier "/a.ts".toList) ∧
          (∀ x ∈ default, Declares renamingFile x ∧ ExportsDefault renamingFile x) ∧
          ∀ x ∈ named, Declares renamingFile x ∧ ((∃ y, ExportsAs renamingFile x y) ∨
            ExportsDefault renamingFile x ∧ ∃ z ∈ default, z ≠ x) :=
  ⟨quiet_renamingFile, exists_names_of_entityImport quiet_renamingFile "/a.ts".toList⟩

/-- The file exports nothing under either of the names in the braces. -/
theorem not_exportsAs_renamingFile :
    ∃ d, (Document.ofSource .exportedOnly "/a.ts".toList (text renamingFile)).1 = .ok d ∧
      Site.entityImport { cwd := "/".toList, output := "/m.ts".toList }
        (d.contribution "/a.ts".toList) =
          .ok (some (importText (some "A".toList) ["B".toList, "C".toList] "./a".toList)) ∧
      ∀ x, ¬ExportsAs renamingFile x "B".toList ∧ ¬ExportsAs renamingFile x "C".toList := by
  have hread : (Document.ofSource .exportedOnly "/a.ts".toList
      (text renamingFile)).1.toOption.map (fun d => (d.names, d.defaultName)) =
        some (["A".toList, "B".toList, "C".toList], some "A".toList) := by
    rw [text_renamingFile]
    decide +kernel
  obtain ⟨d, hd, hnames⟩ := Option.map_eq_some_iff.1 hread
  obtain ⟨hnames, hdefault⟩ := Prod.mk.inj hnames
  have hlisted {x y : Text} (h : ExportsAs renamingFile x y) : y = "D".toList := by
    cases h with
    | declared hi hmodifier =>
      simp only [renamingFile, List.mem_cons, Item.interface.injEq, List.not_mem_nil, or_false,
        reduceCtorEq, false_or] at hi
      rcases hi with rfl | rfl | rfl <;> cases hmodifier
    | listed hl hb hdefault =>
      simp only [renamingFile, List.mem_cons, Item.exports.injEq, List.not_mem_nil, or_false,
        reduceCtorEq, false_or] at hl
      subst hl
      rcases List.mem_pair.1 hb with rfl | rfl
      · cases hdefault
      · rfl
  refine ⟨d, eq_ok_of_toOption hd, ?_, fun x => ⟨fun h => ?_, fun h => ?_⟩⟩
  · rw [Document.contribution, hnames, hdefault]
    decide +kernel
  · exact absurd (hlisted h) (by decide)
  · exact absurd (hlisted h) (by decide)

end InterfaceFile

end ShapeMapper
