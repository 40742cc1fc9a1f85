import Mathlib.Data.List.Find
import ShapeMapper.Proofs.Declaration.Entity
import ShapeMapper.Proofs.Plan.Preorder

/-!
# Visibility

Whether the shapes that a file does not export are shown is decided when all of it has been read: a
document of the exported shapes is the one of all shapes with the others left out
(`Document.ofSource_exportedOnly`). A shape that is the default export is exported
(`Entity.IsMade.exported_of_isDefault`), and export lists leave that so. Hence nothing else of a
document depends on the visibility: `Document.ofSource_visibility`.
-/

namespace ShapeMapper

/-! ### Shapes as they are declared and listed -/

theorem Entity.IsMade.exported_of_isDefault {e : Entity} (h : e.IsMade)
    (hdefault : e.isDefault = true) : e.exported = true := by
  obtain ⟨name, members, exported, isDefault, rfl⟩ := h
  exact Bool.or_eq_true_iff.2 (.inr hdefault)

theorem Declaration.isMade_of_statement? {file t rest : Text} {e : Entity}
    {unsupported : List Text}
    (h : statement? file t = .ok (some (some (.entity e unsupported), rest))) : e.IsMade := by
  obtain ⟨header, u, -, hdeclared⟩ := exists_declared_of_statement? h
  obtain ⟨body, ms, -, hitem⟩ := exists_members_of_declared hdeclared
  cases hitem
  exact Entity.isMade_ofMembers _ _ _ _

namespace Document

open Declaration

/-- An export list makes no default export that is not exported. -/
theorem isMade_exportedBy {e : Entity} (h : e.IsMade) (entries : List ExportEntry) :
    (exportedBy entries e).IsMade := by
  obtain ⟨name, members, exported, isDefault, rfl⟩ := h
  unfold exportedBy
  dsimp only
  split
  · exact ⟨name, members, true, _, rfl⟩
  · exact ⟨name, members, exported, isDefault, rfl⟩

theorem isMade_of_mem_entities {visibility : Visibility} {file source : Text} {d : Document}
    (h : (ofSource visibility file source).1 = .ok d) {e : Entity} (he : e ∈ d.entities) :
    e.IsMade := by
  obtain ⟨declared, unsupported, t, rest, entries, rfl, ht⟩ := exists_statement_of_mem_entities h he
  exact isMade_exportedBy (isMade_of_statement? ht) entries

/-! ### Documents without the hidden shapes -/

/-- A document without the shapes that its file does not export. -/
def exportedPart (d : Document) : Document :=
  { d with entities := d.entities.filter Entity.exported }

/-- A source is read in the same way under both visibilities, and the shapes are chosen at the
end. -/
theorem ofSource_exportedOnly (file source : Text) :
    ofSource .exportedOnly file source =
      ((ofSource .all file source).1.map exportedPart, (ofSource .all file source).2) := by
  unfold ofSource
  cases Source.withoutComments source with
  | error stuck => rfl
  | ok text =>
    dsimp only
    cases (scan file [] 0 text).stuck with
    | some stuck => rfl
    | none => rfl

/-- A shape that is the default export is among the exported ones. -/
theorem defaultName_exportedPart {d : Document}
    (h : ∀ e ∈ d.entities, e.isDefault = true → e.exported = true) :
    d.exportedPart.defaultName = d.defaultName := by
  have hfind : (d.entities.filter Entity.exported).find? Entity.isDefault =
      d.entities.find? Entity.isDefault := by
    rw [List.find?_filter]
    refine List.find?_congr fun e he => ?_
    cases hdefault : e.isDefault with
    | true => rw [h e he hdefault]; rfl
    | false => simp
  rw [defaultName, exportedPart, hfind, defaultName]

/-- The exported shapes of a source are chosen from all of them by a filter. Under both visibilities
the source can or cannot be read, for one reason, with one report, one list of imports and one
default export. Every default export is exported, and the properties of a shape are found by their
names, of which there are no two alike. -/
theorem ofSource_visibility (file source : Text) :
    (∀ fault, (ofSource .exportedOnly file source).1 = .error fault ↔
      (ofSource .all file source).1 = .error fault) ∧
    (ofSource .exportedOnly file source).2 = (ofSource .all file source).2 ∧
    (∀ d, (ofSource .all file source).1 = .ok d →
      ∃ shown, (ofSource .exportedOnly file source).1 = .ok shown ∧
        shown.file = d.file ∧ shown.imports = d.imports ∧ shown.defaultName = d.defaultName ∧
        shown.entities = d.entities.filter Entity.exported) ∧
    ∀ visibility d, (ofSource visibility file source).1 = .ok d → ∀ e ∈ d.entities,
      (e.isDefault = true → e.exported = true) ∧
      (e.properties.map Property.name).Nodup ∧
      ∀ name p, e.property? name = some p ↔ p ∈ e.properties ∧ p.name = name := by
  refine ⟨fun fault => ?_, ?_, fun d hd => ?_, fun visibility d hd e he => ?_⟩
  · rw [ofSource_exportedOnly]
    cases (ofSource .all file source).1 with
    | error stuck => simp [Except.map]
    | ok d => simp [Except.map]
  · rw [ofSource_exportedOnly]
  · refine ⟨d.exportedPart, by rw [ofSource_exportedOnly, hd]; rfl, rfl, rfl, ?_, rfl⟩
    exact defaultName_exportedPart fun e he => (isMade_of_mem_entities hd he).exported_of_isDefault
  · have hmade := isMade_of_mem_entities hd he
    exact ⟨hmade.exported_of_isDefault, hmade.nodup, fun _ _ => hmade.property?_eq_some_iff⟩

end Document

end ShapeMapper
