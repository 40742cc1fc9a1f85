import ShapeMapper.Proofs.Declaration.Import

/-!
# The name of a file

What a declaration file declares does not depend on the name it is read under
(`ofSource_inFile`). The name only goes into the imports that the file makes, and into the
report if it cannot be read.
-/

namespace ShapeMapper

open Declaration

/-- An import as made by a file of another name. -/
def ImportStatement.inFile (file : Text) (i : ImportStatement) : ImportStatement :=
  { i with file := file }

/-- An item as found in a file of another name. -/
def Declaration.Item.inFile (file : Text) : Item → Item
  | .imported i => .imported (i.inFile file)
  | item => item

/-- A document as read from a file of another name. -/
def Document.inFile (file : Text) (d : Document) : Document :=
  { d with file := file, imports := d.imports.map (ImportStatement.inFile file) }

namespace Declaration

variable (file other : Text)

theorem import?_inFile (t : Text) : import? other t =
    (import? file t).map fun (i, rest) => (i.inFile other, rest) := by
  unfold import?
  cases Text.after? "import".toList t with
  | none => rfl
  | some t =>
    simp only [bind, Option.bind]
    cases t.dropWhile isClauseChar with
    | nil => rfl
    | cons quote t =>
      simp only
      split
      · split <;> rfl
      · rfl

theorem declared_inFile {header : Header} {t rest : Text} {item : Option Item}
    (h : declared header t = .ok (item, rest)) : item.map (Item.inFile other) = item := by
  cases item with
  | none => rfl
  | some item =>
    cases item with
    | imported i => exact absurd rfl (declared_ne_imported h i)
    | entity => rfl
    | composite => rfl

theorem statement?_inFile (t : Text) :
    statement? other t = (statement? file t).map (Option.map (Prod.map
      (Option.map (Item.inFile other)) id)) := by
  unfold statement?
  rw [import?_inFile file other]
  cases import? file t with
  | some found => rfl
  | none =>
    simp only [Option.map_none]
    cases header? t with
    | none => rfl
    | some found =>
      simp only
      cases h : declared found.1 found.2 with
      | error stuck => rfl
      | ok found =>
        have hitem := declared_inFile other h
        simp [Except.map, Prod.map, hitem]

theorem step_inFile (before : Text) (depth : Nat) (c : Char) (t : Text) :
    step other before depth c t = (step file before depth c t).map
      fun s => { s with item := s.item.map (Item.inFile other) } := by
  unfold step
  split
  · split <;> rfl
  · split
    · rfl
    · split
      · rfl
      · split
        · rfl
        · split
          · rw [statement?_inFile file other]
            cases statement? file (c :: t) with
            | error stuck => rfl
            | ok found => cases found <;> rfl
          · rfl

theorem scan_inFile (before : Text) (depth : Nat) (t : Text) :
    scan other before depth t =
      { scan file before depth t with
        items := (scan file before depth t).items.map (Item.inFile other) } := by
  fun_induction scan file before depth t with
  | case1 => unfold scan; rfl
  | case2 before depth c t stuck h =>
    rw [scan, step_inFile file other, h]
    rfl
  | case3 before depth c t s h later ih =>
    rw [scan, step_inFile file other, h]
    simp only [Except.map]
    rw [ih]
    cases s.item <;> simp [later]

end Declaration

namespace Document

theorem ofItems_inFile (visibility : Visibility) (file other : Text) (items : List Item)
    (entries : List ExportEntry) :
    ofItems visibility other (items.map (Item.inFile other)) entries =
      (ofItems visibility file items entries).inFile other := by
  simp only [ofItems, inFile, List.filterMap_map, List.map_filterMap, mk.injEq, true_and]
  constructor
  · refine congrArg (fun entities : List Entity => if visibility = .exportedOnly then
      entities.filter Entity.exported else entities)
      (congrArg (List.filterMap · items) (funext fun item => ?_))
    cases item <;> rfl
  · refine congrArg (List.filterMap · items) (funext fun item => ?_)
    cases item <;> rfl

/-- A document names the file under the name that it was read by. -/
theorem file_of_ofSource {visibility : Visibility} {file source : Text} {d : Document}
    (h : (ofSource visibility file source).1 = .ok d) : d.file = file := by
  obtain ⟨text, -, -, rfl⟩ := exists_scan_of_ofSource h
  rfl

/-- A file that can be read declares the same under any name. -/
theorem ofSource_inFile {visibility : Visibility} {file source : Text} {d : Document}
    (h : (ofSource visibility file source).1 = .ok d) (other : Text) :
    (ofSource visibility other source).1 = .ok (d.inFile other) := by
  obtain ⟨text, htext, hstuck, rfl⟩ := exists_scan_of_ofSource h
  rw [ofSource, htext]
  simp only [scan_inFile file other, hstuck, ofItems_inFile visibility file other]

/-- A file that can be read under one name can be read under any other. -/
theorem toOption_ofSource_inFile (visibility : Visibility) (file other source : Text) :
    (ofSource visibility other source).1.toOption =
      (ofSource visibility file source).1.toOption.map (Document.inFile other) := by
  cases hfile : (ofSource visibility file source).1 with
  | ok d =>
    rw [ofSource_inFile hfile other]
    rfl
  | error e =>
    cases hother : (ofSource visibility other source).1 with
    | error e => rfl
    | ok d => cases hfile.symm.trans (ofSource_inFile hother file)

end Document

end ShapeMapper
