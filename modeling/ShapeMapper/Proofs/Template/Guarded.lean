import Mathlib.Data.List.Nodup
import ShapeMapper.Proofs.Plan.Preorder
import ShapeMapper.Proofs.Template.Bundled

/-!
# Guarded lines

A plan says of every property whether it is copied, and the bundled template writes this in three
places: a mapper's parameter is marked if the caller may leave out all custom functions, the entry
of a property in the type of the custom functions is marked if its function may be left out, and its
line is guarded if it takes the function only where there is one. The three agree
(`Plan.guarded_renderBundled`), so no mapper calls a function that the caller was free to leave out.
-/

namespace ShapeMapper

/-! ### The two kinds of slots -/

namespace Plan

variable {source target : Entity}

theorem map_name_slots (source target : Entity) :
    (Plan.of source target).slots.map Slot.name = target.properties.map Property.name := by
  rw [Plan.of, List.map_map]
  rfl

/-- The caller may leave out just what is copied. -/
theorem optional_iff_of_mem {s : Slot} (h : s ∈ (Plan.of source target).slots) :
    s.optional = true ↔ s.route = .copied := by
  obtain ⟨p, -, rfl⟩ := List.mem_map.1 h
  rw [Slot.optional_of, decide_eq_true_eq]

theorem copied_eq (source target : Entity) : (Plan.of source target).copied =
    ((Plan.of source target).slots.filter Slot.optional).map Slot.name := by
  rw [copied]
  congr 1
  refine List.filter_congr fun s hs => ?_
  rw [Bool.eq_iff_iff, decide_eq_true_eq]
  exact (optional_iff_of_mem hs).symm

theorem allOptional_iff (source target : Entity) : (Plan.of source target).allOptional = true ↔
    ∀ s ∈ (Plan.of source target).slots, s.optional = true :=
  List.all_eq_true

theorem required_eq_nil_iff (p : Plan) : p.required = [] ↔ ∀ s ∈ p.slots, s.optional = true := by
  rw [required, List.map_eq_nil_iff, List.filter_eq_nil_iff]
  exact forall₂_congr fun s _ => by cases s.optional <;> simp

end Plan

/-! ### The written form of a slot -/

/-- What a mapper has for a property: its entry in the type of the custom functions and its line in
the object that is made. -/
structure Row where
  name : Text
  entry : Text
  line : Text

/-- Whether the custom function of the property may be left out. -/
def Row.IsMarked (r : Row) : Prop :=
  "    ".toList ++ Access.key r.name ++ ['?'] <+: r.entry

/-- Whether the line calls the custom function only if there is one. -/
def Row.IsGuarded (r : Row) : Prop :=
  "  ".toList ++ Access.key r.name ++ ": customMap?.".toList ++ Access.member r.name true ++
    " ? ".toList <+: r.line

/-- What a mapper from `source` has for a slot. -/
def Slot.row (source : Text) (s : Slot) : Row where
  name := s.name
  entry := s.declaration source
  line := s.assignment

variable {source : Text} {s : Slot}

theorem Slot.isMarked_row_iff : (s.row source).IsMarked ↔ s.optional = true := by
  have hentry : s.declaration source = "    ".toList ++ Access.key s.name ++
      (optionalMark s.optional ++ ':' :: (" (source: ".toList ++ source ++ ") => ".toList ++
        s.returnType ++ ['\n'])) := by
    have hcolon : ": (source: ".toList = ':' :: " (source: ".toList := by decide
    unfold declaration
    rw [hcolon]
    simp only [List.append_assoc, List.cons_append]
  show "    ".toList ++ Access.key s.name ++ ['?'] <+: s.declaration source ↔ s.optional = true
  rw [hentry, List.prefix_append_right_inj]
  cases s.optional <;> simp [optionalMark]

/-- An access to a property begins with a dot or a bracket. -/
theorem Access.exists_member_eq (name : Text) :
    ∃ c t, member name false = c :: t ∧ c ≠ '?' := by
  unfold member
  cases isPlain name
  · exact ⟨'[', _, rfl, by decide⟩
  · exact ⟨'.', _, rfl, by decide⟩

/-- The line of a slot after the name of the map of custom functions. -/
theorem Slot.exists_assignment_eq (s : Slot) : ∃ t, s.assignment =
    "  ".toList ++ Access.key s.name ++ ": customMap".toList ++ (if s.route = .copied then
      "?.".toList ++ Access.member s.name true ++ " ? ".toList else Access.member s.name false) ++
        t := by
  have hmap : ": customMap".toList = ": ".toList ++ "customMap".toList := by decide
  have hguard : "customMap?.".toList = "customMap".toList ++ "?.".toList := by decide
  rw [hmap]
  cases hroute : s.route with
  | copied =>
    refine ⟨"customMap".toList ++ Access.member s.name false ++ "(source)".toList ++
      " : source".toList ++ Access.member s.name false ++ ",\n".toList, ?_⟩
    rw [assignment, hroute, if_pos rfl]
    simp only [hguard, List.append_assoc]
  | custom =>
    refine ⟨"(source)".toList ++ ",\n".toList, ?_⟩
    rw [assignment, hroute, if_neg (by decide)]
    simp only [List.append_assoc]

theorem Slot.isGuarded_row_iff : (s.row source).IsGuarded ↔ s.route = .copied := by
  obtain ⟨t, hline⟩ := s.exists_assignment_eq
  have hguard : "  ".toList ++ Access.key s.name ++ ": customMap?.".toList ++
      Access.member s.name true ++ " ? ".toList =
        "  ".toList ++ Access.key s.name ++ ": customMap".toList ++
          ("?.".toList ++ Access.member s.name true ++ " ? ".toList) := by
    have hmap : ": customMap?.".toList = ": customMap".toList ++ "?.".toList := by decide
    rw [hmap]
    simp only [List.append_assoc]
  show "  ".toList ++ Access.key s.name ++ ": customMap?.".toList ++ Access.member s.name true ++
    " ? ".toList <+: s.assignment ↔ s.route = .copied
  rw [hguard, hline, List.append_assoc _ _ t, List.prefix_append_right_inj]
  constructor
  · intro h
    by_contra hroute
    -- the access of the other form begins with no question mark
    obtain ⟨c, u, hmember, hc⟩ := Access.exists_member_eq s.name
    rw [if_neg hroute, hmember] at h
    exact hc (List.cons_prefix_cons.1 h).1.symm
  · intro hroute
    rw [if_pos hroute]
    exact List.prefix_append _ t

/-! ### The written form of a plan -/

namespace Plan

/-- The parameter of a mapper for the custom functions. -/
def parameter (p : Plan) : Text :=
  "customMap".toList ++ optionalMark p.allOptional

/-- What a mapper has for the slots of its plan. -/
def rows (p : Plan) : List Row :=
  p.slots.map (Slot.row p.source)

theorem parameter_eq_iff (p : Plan) : p.parameter = "customMap?".toList ↔ p.allOptional = true := by
  unfold parameter
  cases p.allOptional <;> decide

/-- A mapper is its parameter, the entries and the lines of its rows, and what stands around
them. -/
theorem text_eq_rows (p : Plan) : p.text =
    "\nexport const map".toList ++ p.source ++ "To".toList ++ p.target ++
      " = (\n  source: ".toList ++ p.source ++ ",\n  ".toList ++ p.parameter ++
      ": \x7b\n".toList ++ p.rows.flatMap Row.entry ++ "  \x7d,\n): ".toList ++ p.target ++
      " => (\x7b\n".toList ++ p.rows.flatMap Row.line ++ "\x7d)\n".toList := by
  unfold text parameter rows
  rw [List.flatMap_map, List.flatMap_map]
  simp [Slot.row]

theorem map_name_rows (source target : Entity) :
    (Plan.of source target).rows.map Row.name = target.properties.map Property.name := by
  rw [rows, List.map_map, ← map_name_slots source target]
  rfl

theorem forall_mem_rows {source target : Entity} :
    ∀ r ∈ (Plan.of source target).rows, r.IsMarked ↔ r.IsGuarded := by
  intro r hr
  obtain ⟨s, hs, rfl⟩ := List.mem_map.1 hr
  rw [Slot.isMarked_row_iff, Slot.isGuarded_row_iff, optional_iff_of_mem hs]

theorem allOptional_iff_forall_isGuarded (source target : Entity) :
    (Plan.of source target).allOptional = true ↔
      ∀ r ∈ (Plan.of source target).rows, r.IsGuarded := by
  rw [allOptional_iff, rows, List.forall_mem_map]
  refine forall₂_congr fun s hs => ?_
  rw [Slot.isGuarded_row_iff, optional_iff_of_mem hs]

/-- What is copied and what is required are the two parts of the properties. -/
theorem perm_copied_required (source target : Entity) :
    ((Plan.of source target).copied ++ (Plan.of source target).required).Perm
      (target.properties.map Property.name) := by
  rw [← map_name_slots source target, copied_eq, required, ← List.map_append]
  exact (List.filter_append_perm Slot.optional _).map Slot.name

/-- A plan has one slot for every target property, in order; what it copies and what it requires are
two parts of the properties. In the mapper that is written for it the parameter is marked just if
all lines are guarded, and an entry just if its line is. -/
theorem guarded_renderBundled {source target : Entity} (htarget : target.IsMade)
    (imports : List Text) (earlier later : List Plan) :
    let p := Plan.of source target
    let names := target.properties.map Property.name
    (p.slots.map Slot.name = names ∧ names.Nodup) ∧
    (p.copied.Sublist names ∧ p.required.Sublist names ∧ p.copied.Disjoint p.required ∧
      (p.copied ++ p.required).Perm names) ∧
    (p.allOptional = true ↔ p.required = []) ∧
    ({ imports, mappers := earlier ++ p :: later } : Artifact).renderBundled =
      .ok (({ imports, mappers := earlier } : Artifact).text ++
        ("\nexport const map".toList ++ p.source ++ "To".toList ++ p.target ++
          " = (\n  source: ".toList ++ p.source ++ ",\n  ".toList ++ p.parameter ++
          ": \x7b\n".toList ++ p.rows.flatMap Row.entry ++ "  \x7d,\n): ".toList ++ p.target ++
          " => (\x7b\n".toList ++ p.rows.flatMap Row.line ++ "\x7d)\n".toList) ++
        later.flatMap Plan.text) ∧
    p.rows.map Row.name = names ∧
    (p.parameter = "customMap?".toList ↔ ∀ r ∈ p.rows, r.IsGuarded) ∧
    ∀ r ∈ p.rows, r.IsMarked ↔ r.IsGuarded := by
  intro p names
  have hslots : p.slots.map Slot.name = names := map_name_slots source target
  have hperm : (p.copied ++ p.required).Perm names := perm_copied_required source target
  have hdisjoint : p.copied.Disjoint p.required :=
    List.disjoint_of_nodup_append (hperm.nodup_iff.2 htarget.nodup)
  have hcopied : p.copied.Sublist names := hslots ▸ List.filter_sublist.map Slot.name
  have hrequired : p.required.Sublist names := hslots ▸ List.filter_sublist.map Slot.name
  refine ⟨⟨hslots, htarget.nodup⟩, ⟨hcopied, hrequired, hdisjoint, hperm⟩, ?_, ?_,
    map_name_rows source target, ?_, forall_mem_rows⟩
  · rw [required_eq_nil_iff]
    exact allOptional_iff source target
  · rw [Artifact.renderBundled_eq, ← p.text_eq_rows]
    simp only [Artifact.text, List.flatMap_append, List.flatMap_cons, List.append_assoc]
  · rw [parameter_eq_iff]
    exact allOptional_iff_forall_isGuarded source target

/-- A mapper with a property that needs a custom function, between two that do not. -/
theorem guarded_renderBundled_person :
    let source := Entity.ofMembers "User".toList
      [⟨"id".toList, "number".toList, false⟩, ⟨"name".toList, "string".toList, true⟩] true false
    let target := Entity.ofMembers "Person".toList
      [⟨"id".toList, "number".toList, true⟩, ⟨"full name".toList, "string".toList, false⟩,
        ⟨"name".toList, "string | null".toList, false⟩] true false
    target.IsMade ∧ (Plan.of source target).copied = ["id".toList, "name".toList] ∧
      (Plan.of source target).required = ["full name".toList] ∧
      ((Plan.of source target).copied ++ (Plan.of source target).required).Perm
        (target.properties.map Property.name) ∧
      (Plan.of source target).parameter = "customMap".toList ∧
      ¬∀ r ∈ (Plan.of source target).rows, r.IsGuarded := by
  intro source target
  have htarget : target.IsMade := Entity.isMade_ofMembers _ _ _ _
  obtain ⟨-, ⟨-, -, -, hperm⟩, -, -, -, hparameter, -⟩ :=
    @guarded_renderBundled source target htarget [] [] []
  have hplain : (Plan.of source target).parameter = "customMap".toList := by decide +kernel
  refine ⟨htarget, by decide +kernel, by decide +kernel, hperm, hplain, fun h => ?_⟩
  exact absurd (hplain.symm.trans (hparameter.2 h)) (by decide)

end Plan

end ShapeMapper
