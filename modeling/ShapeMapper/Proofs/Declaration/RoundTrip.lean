import ShapeMapper.Proofs.Declaration.Entity
import ShapeMapper.Proofs.Declaration.ExportList
import ShapeMapper.Proofs.Source.Comment

/-!
# Reading a written file

Reading a file undoes writing it: `Document.ofSource_print`. A written file has no comments
(`uncommented_print`), a scan finds its items, and its export lists are read as their bindings.
-/

namespace ShapeMapper

namespace Written

open Source Declaration

/-! ### No comments -/

theorem Name.uncommented (n : Name) : Uncommented n.text :=
  n.bracketed.uncommented (fun _ hc => hc) fun _ hc => hc.1

/-- Texts that are evaluated. -/
theorem uncommented_of_all {t : Text} (h : t.all fun c => isQuote c = false ∧ c ≠ '/') :
    Uncommented t :=
  .of_forall (Text.forall_mem_of_all h)

/-- The specifier of an import in its quotes. -/
def Import.quoted (i : Import) : Quoted where
  quote := i.quote
  value := i.specifier
  quote_eq := i.quote_eq
  not_end_of_mem := by
    intro c hc
    obtain ⟨hsingle, hdouble, hescape, hline⟩ := i.not_end_of_mem c hc
    refine ⟨?_, hescape, hline⟩
    rcases i.quote_eq with h | h <;> rw [h]
    · exact hsingle
    · exact hdouble

/-- No comment or literal begins in a clause. -/
theorem uncommented_of_isClauseChar {t : Text} (h : ∀ c ∈ t, isClauseChar c = true) :
    Uncommented t := by
  refine .of_forall fun c hc => ⟨?_, ?_⟩
  · by_contra hquote
    rcases isQuote_iff.1 (by simpa using hquote) with rfl | rfl | rfl <;>
      exact absurd (h _ hc) (by decide)
  · rintro rfl
    exact absurd (h _ hc) (by decide)

theorem Import.uncommented (i : Import) : Uncommented i.text := by
  have hmiddle : Uncommented i.middle :=
    uncommented_of_isClauseChar fun c => Import.isClauseChar_of_mem_middle
  have hspecifier : Uncommented i.quoted.literal.text := .of_literal _
  have hsemicolon : Uncommented (if i.semicolon then [';'] else []) := by
    cases i.semicolon
    · exact .nil
    · exact uncommented_of_all (by decide)
  have htext : i.text = "import".toList ++ (i.middle ++ (i.quoted.literal.text ++
      if i.semicolon then [';'] else [])) := by
    unfold Import.text Import.statement
    simp [Import.quoted, Quoted.text_literal, Quoted.text]
  rw [htext]
  exact (uncommented_of_all (by decide)).append (hmiddle.append (hspecifier.append hsemicolon))

theorem plainHead_uncommented {t : Text} (modifier : Export) (ambient : Bool) (form : Form)
    (ht : Uncommented t) : Uncommented (modifier.text ++ plainHead ambient form t) := by
  have hmodifier : Uncommented modifier.text := by
    cases modifier <;> exact uncommented_of_all (by decide)
  have hambient : Uncommented (if ambient then "declare ".toList else []) := by
    cases ambient <;> exact uncommented_of_all (by decide)
  have hform : Uncommented (formWord form) := by
    cases form <;> exact uncommented_of_all (by decide)
  exact hmodifier.append (hambient.append (hform.append (.char (by decide) (by decide) ht)))

theorem Shape.uncommented (s : Shape) : Uncommented s.text := by
  have hopening : Uncommented (formOpening s.form) := by
    cases s.form <;> exact uncommented_of_all (by decide)
  have hbody : Uncommented (s.body ++ ['}']) :=
    (s.bracketed_body.uncommented (fun _ hc => hc) fun _ hc => hc).append
      (uncommented_of_all (by decide))
  have htext := s.text_append []
  rw [List.append_nil] at htext
  rw [htext]
  exact plainHead_uncommented s.modifier s.ambient s.form (s.name.uncommented.append
    (hopening.append hbody))

theorem Alternative.uncommented (a : Alternative) : Uncommented a.text := by
  cases a with
  | literal l => exact .of_literal l
  | name n => exact n.uncommented

theorem Union.uncommented (u : Union) : Uncommented u.text := by
  have halternatives : Uncommented u.alternatives :=
    u.first.uncommented.append (.flatMap fun a _ =>
      (uncommented_of_all (by decide)).append a.uncommented)
  rw [show u.text = u.head ++ u.alternatives from rfl, u.head_append]
  exact plainHead_uncommented _ _ _ (u.name.uncommented.append
    ((uncommented_of_all (by decide)).append halternatives))

theorem Item.uncommented (item : Item) : Uncommented item.text := by
  cases item with
  | imported i => exact i.uncommented
  | shape s => exact s.uncommented
  | union u => exact u.uncommented
  | exports bindings =>
    have hinner : Uncommented (' ' :: (listed bindings ++ [' '])) :=
      .of_forall fun c hc =>
        ⟨(isOrdinary_of_mem_listed c hc).isQuote_eq, (isOrdinary_of_mem_listed c hc).ne_slash⟩
    exact (uncommented_of_all (by decide)).append ((Uncommented.char (by decide) (by decide)
      hinner).append (uncommented_of_all (by decide)))

theorem uncommented_print (items : List Item) : Uncommented (print items) :=
  .flatMap fun item _ => item.uncommented.append (uncommented_of_all (by decide))

/-! ### Entities -/

/-- A type on one line is kept. -/
theorem PropertyType.normalizeType_eq (t : PropertyType) (h : t.OnOneLine) :
    normalizeType t.text = t.text :=
  normalizeType_eq_self h.spaced h.not_operator_head

/-- A shape is exported by the bindings of the export lists. -/
theorem Shape.exportedBy_entity (items : List Item) (s : Shape) :
    Document.exportedBy ((bindings items).map Binding.entry) s.entity = s.declared items := by
  have hdefault : (((bindings items).map Binding.entry).filter (·.asDefault)).getLast?.any
      (·.name = s.name.text) = decide (defaultName items = some s.name.text) := by
    rw [List.filter_map, List.getLast?_map, Option.any_map, defaultName]
    show (((bindings items).filter Binding.isDefault).getLast?).any
      (fun b => b.name.text = s.name.text) = _
    cases ((bindings items).filter Binding.isDefault).getLast? <;> simp
  have hexported : ((bindings items).map Binding.entry).any
      (fun entry => !entry.asDefault && entry.name = s.name.text) =
        (exportedNames items).any (· = s.name.text) := by
    rw [List.any_map, exportedNames, List.any_map, List.any_filter]
    rfl
  have hname : s.entity.name = s.name.text := rfl
  simp only [Document.exportedBy, hname, hdefault, hexported]
  by_cases hd : defaultName items = some s.name.text <;>
    cases he : (exportedNames items).any (· = s.name.text) <;>
    simp [Shape.entity, Shape.declared, hd, he]

end Written

namespace Document

open Source Written Declaration

/-- The items that a scan finds in a written file make up its imports and its shapes. -/
theorem ofItems_found (file : Text) (items : List Written.Item) (entries : List ExportEntry) :
    ofItems .all file (items.filterMap (Item.found file)) entries = {
      file := file
      entities := (shapes items).map fun s => exportedBy entries s.entity
      imports := (Written.imports items).map (Import.declared file) } := by
  unfold ofItems shapes Written.imports
  simp only [reduceCtorEq, if_false, List.filterMap_filterMap, List.map_filterMap]
  congr 1
  · refine List.filterMap_congr fun item _ => ?_
    cases item <;> rfl
  · refine List.filterMap_congr fun item _ => ?_
    cases item <;> rfl

theorem flatMap_events_found (file : Text) (items : List Written.Item) :
    (items.filterMap (Item.found file)).flatMap (events file) = [] := by
  rw [List.flatMap_eq_nil_iff]
  intro found hfound
  obtain ⟨item, -, hitem⟩ := List.mem_filterMap.1 hfound
  cases item <;> cases hitem <;> rfl

/-- Reading a written file finds its imports and its shapes, and nothing to report. -/
theorem ofSource_written (file : Text) (items : List Written.Item) :
    ofSource .all file (print items) =
      (.ok {
        file := file
        entities := (shapes items).map fun s =>
          exportedBy (exportEntries (print items)) s.entity
        imports := (Written.imports items).map (Import.declared file) }, []) := by
  have hscan : scan file [] 0 (print items) = { items := items.filterMap (Item.found file) } :=
    scan_print items rfl
  simp only [ofSource, (uncommented_print items).withoutComments_eq, hscan, ofItems_found,
    flatMap_events_found]

/-- Reading undoes writing. The imports are found in order, and so are the shapes with their
properties; a type on one line is kept as it is. If the items are quiet, a shape is exported as
its own words and the export lists say. -/
theorem ofSource_print (file : Text) (items : List Written.Item) :
    ∃ d : Document, ofSource .all file (print items) = (.ok d, []) ∧
      d.imports = (Written.imports items).map (Import.declared file) ∧
      d.entities.map (fun e => (e.name, e.properties)) =
        (shapes items).map (fun s => (s.name.text, s.declaredProperties)) ∧
      (∀ s ∈ shapes items, ∀ p ∈ s.properties, p.type.OnOneLine →
        p.declared.type = p.type.text) ∧
      ((∀ item ∈ items, item.Quiet) → d.entities = (shapes items).map (Shape.declared items)) := by
  refine ⟨_, ofSource_written file items, rfl, ?_, ?_, ?_⟩
  · rw [List.map_map]
    refine List.map_congr_left fun s _ => ?_
    simp [Shape.entity]
  · intro s _ p _ htype
    exact p.type.normalizeType_eq htype
  · intro hquiet
    refine List.map_congr_left fun s _ => ?_
    rw [exportEntries_print hquiet, s.exportedBy_entity]

/-- A shape with one property that an export list names. -/
def listedShape : List Written.Item :=
  let name : Name := ⟨'A', [], by decide, by simp⟩
  let type : PropertyType := {
    text := "number".toList
    bracketed := .of_all (by decide)
    ne_nil := by decide
    not_isBlank_head := by simp; decide
    not_isBlank_last := by simp; decide }
  [.shape {
      modifier := .unexported
      ambient := false
      form := .interface
      name := name
      properties := [⟨false, .plain ⟨'x', [], by decide, by simp⟩, true, type⟩]
      indent := 2 },
    .exports [{ name := name }]]

theorem ofSource_listedShape :
    ∃ d : Document,
      ofSource .all "a.ts".toList
        "interface A \x7b\n  x?: number;\n\x7d\nexport \x7b A \x7d\n".toList = (.ok d, []) ∧
      d.entities = [{
        name := "A".toList
        properties := [{ name := "x".toList, type := "number".toList, optional := true }]
        exported := true
        isDefault := false }] := by
  have hhead {head : Text} (h : ListHead head) : "export".toList <+: head := by
    cases h <;> exact List.prefix_append _ _
  have hquiet : ∀ item ∈ listedShape, item.Quiet := by
    intro item hitem
    have htail : ¬"export".toList <:+: item.text.tail := by
      revert item
      decide +kernel
    refine ⟨fun head h hinner => htail ((hhead h).isInfix.trans hinner), ?_⟩
    revert item
    decide +kernel
  obtain ⟨d, hread, -, -, -, hentities⟩ := ofSource_print "a.ts".toList listedShape
  refine ⟨d, hread, ?_⟩
  rw [hentities hquiet]
  rfl

end Document

end ShapeMapper
