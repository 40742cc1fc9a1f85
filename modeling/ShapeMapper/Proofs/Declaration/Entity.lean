import ShapeMapper.Proofs.Declaration.Import
import ShapeMapper.Proofs.Keyed
import ShapeMapper.Proofs.Text.Name

/-!
# The names of shapes and the types of their properties

A shape is named where it is declared, and export lists leave its name as it is. So the names of
a document are words (`Document.isWord_of_mem_names`), and the name of its default export is one
of them. Its properties are members of the declaration, and their types were brought on one line
when these were read (`Document.exists_normalizeType_of_mem_entities`).
-/

namespace ShapeMapper

/-- Whether a text is a word, made of characters that names are made of. -/
structure Text.IsWord (t : Text) : Prop where
  ne_nil : t ≠ []
  isNameChar : ∀ c ∈ t, isNameChar c = true

theorem Text.IsWord.ne_of_mem {t : Text} (h : Text.IsWord t) {c d : Char} (hc : c ∈ t)
    (hd : Text.isNameChar d = false) : c ≠ d := by
  rintro rfl
  exact Bool.noConfusion ((h.isNameChar c hc).symm.trans hd)

theorem Text.IsWord.not_isBlank {t : Text} (h : Text.IsWord t) :
    ∀ c ∈ t, Text.isBlank c = false :=
  fun c hc => Text.not_isBlank_of_isNameChar (h.isNameChar c hc)

theorem Text.isWord_of_name? {t name rest : Text} (h : name? t = some (name, rest)) :
    IsWord name := by
  cases t with
  | nil => cases h
  | cons c t =>
    simp only [name?] at h
    split at h
    · next hstart =>
      cases h
      refine ⟨List.cons_ne_nil _ _, fun d hd => ?_⟩
      rcases List.mem_cons.1 hd with rfl | hd
      · exact isNameChar_of_isNameStart hstart
      · exact List.mem_takeWhile_imp hd
    · cases h

namespace Declaration

open Source

theorem isWord_of_header? {t rest : Text} {header : Header} (h : header? t = some (header, rest)) :
    Text.IsWord header.name := by
  have hnamed (form : Form) (exported isDefault : Bool) (u : Text)
      (h : ((Text.name? u).map fun named =>
        (({ exported, isDefault, form, name := named.1 } : Header), named.2)) =
          some (header, rest)) :
      Text.IsWord header.name := by
    obtain ⟨⟨name, rest⟩, hname, heq⟩ := Option.map_eq_some_iff.1 h
    cases heq
    exact Text.isWord_of_name? hname
  simp only [header?, Option.or_eq_some_iff, Option.bind_eq_some_iff] at h
  rcases h with ⟨u, -, h⟩ | ⟨-, u, -, h⟩
  · exact hnamed _ _ _ u h
  · exact hnamed _ _ _ u h

/-- A shape is declared by the head and the members of its body. -/
theorem exists_members_of_declared {header : Header} {t rest : Text} {e : Entity}
    {unsupported : List Text} (h : declared header t = .ok (some (.entity e unsupported), rest)) :
    ∃ body ms, members body = .ok ms ∧ Item.entity e unsupported = Item.ofBody header ms := by
  unfold declared at h
  obtain ⟨u, -, h⟩ := exists_ok_of_bind h
  split at h
  · obtain ⟨v, -, h⟩ := exists_ok_of_bind h
    obtain ⟨⟨body, rest⟩, -, h⟩ := exists_ok_of_bind h
    obtain ⟨ms, hms, h⟩ := exists_ok_of_bind h
    cases h
    exact ⟨body, ms, hms, rfl⟩
  · split at h
    · cases h
    · obtain ⟨⟨body, rest⟩, -, h⟩ := exists_ok_of_bind h
      dsimp only at h
      split at h
      · cases h
      · obtain ⟨ms, hms, h⟩ := exists_ok_of_bind h
        cases h
        exact ⟨body, ms, hms, rfl⟩

/-- A declaration declares a shape of the name in its head. -/
theorem name_of_declared {header : Header} {t rest : Text} {e : Entity} {unsupported : List Text}
    (h : declared header t = .ok (some (.entity e unsupported), rest)) : e.name = header.name := by
  obtain ⟨body, ms, -, hitem⟩ := exists_members_of_declared h
  cases hitem
  rfl

theorem exists_declared_of_statement? {file t rest : Text} {e : Entity} {unsupported : List Text}
    (h : statement? file t = .ok (some (some (.entity e unsupported), rest))) :
    ∃ header u, header? t = some (header, u) ∧
      declared header u = .ok (some (.entity e unsupported), rest) := by
  unfold statement? at h
  split at h
  · cases h
  · split at h
    · next header u hheader =>
      obtain ⟨⟨item, rest⟩, hdeclared, h⟩ := exists_ok_of_map h
      cases h
      exact ⟨header, u, hheader, hdeclared⟩
    · cases h

theorem isWord_of_statement? {file t rest : Text} {e : Entity} {unsupported : List Text}
    (h : statement? file t = .ok (some (some (.entity e unsupported), rest))) :
    Text.IsWord e.name := by
  obtain ⟨header, u, hheader, hdeclared⟩ := exists_declared_of_statement? h
  rw [name_of_declared hdeclared]
  exact isWord_of_header? hheader

/-! ### Types -/

theorem exists_normalizeType_of_property? {t : Text} {p : Property} (h : property? t = some p) :
    ∃ u, p.type = normalizeType u := by
  simp only [property?, Option.bind_eq_bind, Option.bind_eq_some_iff] at h
  obtain ⟨⟨name, t⟩, -, u, -, h⟩ := h
  dsimp only at h
  split at h
  · cases h
  · cases h
    exact ⟨_, rfl⟩

theorem exists_normalizeType_of_members {body : Text} {ms : List Member}
    (h : members body = .ok ms) {p : Property} (hp : p ∈ ms.filterMap Member.property?) :
    ∃ u, p.type = normalizeType u := by
  unfold members at h
  dsimp only at h
  split at h
  · cases h
    obtain ⟨m, hm, hp⟩ := List.mem_filterMap.1 hp
    obtain ⟨t, -, rfl⟩ := List.mem_map.1 hm
    unfold Member.ofText at hp
    split at hp
    · next q hq =>
      cases hp
      rcases Option.or_eq_some_iff.1 hq with hq | ⟨-, hq⟩
      · obtain ⟨v, -, hq⟩ := Option.bind_eq_some_iff.1 hq
        exact exists_normalizeType_of_property? hq
      · exact exists_normalizeType_of_property? hq
    · cases hp
  · cases h

end Declaration

namespace Document

open Declaration

@[simp] theorem name_exportedBy (entries : List ExportEntry) (e : Entity) :
    (exportedBy entries e).name = e.name := by
  unfold exportedBy
  dsimp only
  split <;> rfl

@[simp] theorem properties_exportedBy (entries : List ExportEntry) (e : Entity) :
    (exportedBy entries e).properties = e.properties := by
  unfold exportedBy
  dsimp only
  split <;> rfl

/-- Every shape of a document is declared somewhere in its source. -/
theorem exists_item_of_mem_entities {visibility : Visibility} {file : Text} {items : List Item}
    {entries : List ExportEntry} {e : Entity}
    (h : e ∈ (ofItems visibility file items entries).entities) :
    ∃ d unsupported, Item.entity d unsupported ∈ items ∧ e = exportedBy entries d := by
  have hvisible (l : List Entity)
      (h : e ∈ if visibility = .exportedOnly then l.filter Entity.exported else l) : e ∈ l := by
    split at h
    · exact (List.mem_filter.1 h).1
    · exact h
  obtain ⟨d, hd, rfl⟩ := List.mem_map.1 (hvisible _ h)
  obtain ⟨item, hitem, hd⟩ := List.mem_filterMap.1 hd
  split at hd
  · next d' unsupported =>
    cases hd
    exact ⟨_, unsupported, hitem, rfl⟩
  · cases hd

variable {visibility : Visibility} {file source : Text} {d : Document} {x : Text}

/-- Every shape of a document is what the export lists make of a shape that a statement of its
source declares. -/
theorem exists_statement_of_mem_entities (h : (ofSource visibility file source).1 = .ok d)
    {e : Entity} (he : e ∈ d.entities) :
    ∃ declared unsupported t rest entries, e = exportedBy entries declared ∧
      statement? file t = .ok (some (some (.entity declared unsupported), rest)) := by
  obtain ⟨text, -, -, rfl⟩ := exists_scan_of_ofSource h
  obtain ⟨declared, unsupported, hitem, rfl⟩ := exists_item_of_mem_entities he
  obtain ⟨t, rest, ht⟩ := forall_mem_items_scan
    (P := fun item => ∃ t rest, statement? file t = .ok (some (some item, rest)))
    (fun t item rest ht => ⟨t, rest, ht⟩) [] 0 text _ hitem
  exact ⟨declared, unsupported, t, rest, _, rfl, ht⟩

theorem isWord_of_mem_names (h : (ofSource visibility file source).1 = .ok d) (hx : x ∈ d.names) :
    Text.IsWord x := by
  obtain ⟨e, he, rfl⟩ := List.mem_map.1 hx
  obtain ⟨declared, unsupported, t, rest, entries, rfl, ht⟩ := exists_statement_of_mem_entities h he
  rw [name_exportedBy]
  exact isWord_of_statement? ht

/-- The type of a property is a text of the source that was brought on one line. -/
theorem exists_normalizeType_of_mem_entities (h : (ofSource visibility file source).1 = .ok d)
    {e : Entity} (he : e ∈ d.entities) {p : Property} (hp : p ∈ e.properties) :
    ∃ u, p.type = normalizeType u := by
  obtain ⟨entity, unsupported, t, rest, entries, rfl, ht⟩ := exists_statement_of_mem_entities h he
  obtain ⟨header, u, -, hdeclared⟩ := exists_declared_of_statement? ht
  obtain ⟨body, ms, hms, hitem⟩ := exists_members_of_declared hdeclared
  cases hitem
  rw [properties_exportedBy] at hp
  exact exists_normalizeType_of_members hms (Keyed.mem_of_mem_ofList hp)

/-- The default export is one of the shapes. -/
theorem mem_names_of_defaultName (h : d.defaultName = some x) : x ∈ d.names := by
  obtain ⟨e, he, rfl⟩ := Option.map_eq_some_iff.1 h
  exact List.mem_map_of_mem (List.mem_of_find?_eq_some he)

end Document

end ShapeMapper
