import Mathlib.Data.List.Forall2
import ShapeMapper.Proofs.Plan.Preorder
import ShapeMapper.Proofs.Plan.Stripped

/-!
# Wider targets and narrower sources

A target property may be given more room for the absence of a value, and a source property less
(`Property.Widens`, `Property.Narrows`). In the order of copying, what is widened takes what was
there, and what is narrowed may still be taken for it. So no property that was copied needs a
custom function afterwards: `Plan.required_widened`.
-/

namespace ShapeMapper

/-! ### Properties -/

namespace Property

/-- A property becomes another one by more ways to be absent: its type gets one more absence, at
the end or at the beginning, or it is made optional. -/
inductive Widens (p : Property) : Property → Prop
  | refl : p.Widens p
  | absenceLast {q : Property} {a : Text} (ha : UnionType.isAbsence a = true) (h : p.Widens q) :
      p.Widens { q with type := q.type ++ (" | ".toList ++ a) }
  | absenceFirst {q : Property} {a : Text} (ha : UnionType.isAbsence a = true) (h : p.Widens q) :
      p.Widens { q with type := a ++ (" | ".toList ++ q.type) }
  | optional {q : Property} (h : p.Widens q) : p.Widens { q with optional := true }

/-- A property becomes another one by fewer ways to be absent: the absences are taken off its type,
or it is made required. -/
inductive Narrows (p : Property) : Property → Prop
  | refl : p.Narrows p
  | stripped {q : Property} (h : p.Narrows q) :
      p.Narrows { q with type := UnionType.stripped q.type }
  | required {q : Property} (h : p.Narrows q) : p.Narrows { q with optional := false }

variable {p q : Property}

theorem Widens.name_eq (h : p.Widens q) : q.name = p.name := by
  induction h with
  | refl => rfl
  | absenceLast _ _ ih => exact ih
  | absenceFirst _ _ ih => exact ih
  | optional _ ih => exact ih

theorem Narrows.name_eq (h : p.Narrows q) : q.name = p.name := by
  induction h with
  | refl => rfl
  | stripped _ ih => exact ih
  | required _ ih => exact ih

/-- What is widened takes what was there. -/
theorem Widens.copyable (h : p.Widens q) : q.copyable p = true := by
  induction h with
  | refl => exact p.copyable_refl
  | @absenceLast q a ha _ ih =>
    refine copyable_trans ih (copyable_iff.2 ⟨?_, fun _ => ?_⟩)
    · exact (UnionType.stripped_append_absence q.type ha).symm
    · exact UnionType.isNullable_of_infix ha ⟨q.type ++ " | ".toList, [], by simp⟩
  | @absenceFirst q a ha _ ih =>
    refine copyable_trans ih (copyable_iff.2 ⟨?_, fun _ => ?_⟩)
    · exact (UnionType.stripped_absence_append q.type ha).symm
    · exact UnionType.isNullable_of_infix ha ⟨[], " | ".toList ++ q.type, rfl⟩
  | optional _ ih =>
    exact copyable_trans ih (copyable_iff.2
      ⟨rfl, fun _ => UnionType.isNullable_iff.2 (.inr (.inr rfl))⟩)

/-- What is narrowed is taken for what was there. -/
theorem Narrows.copyable (h : p.Narrows q) : p.copyable q = true := by
  induction h with
  | refl => exact p.copyable_refl
  | @stripped q _ ih =>
    refine copyable_trans (copyable_iff.2 ⟨?_, ?_⟩) ih
    · exact UnionType.stripped_stripped q.type
    · exact UnionType.isNullable_of_stripped
  | @required q _ ih =>
    have hstep : q.copyable { q with optional := false } = true := by
      refine copyable_iff.2 ⟨rfl, fun hnullable => UnionType.isNullable_iff.2 ?_⟩
      -- without the mark it is the type that admits no value
      obtain hnull | hundefined | hfalse := UnionType.isNullable_iff.1 hnullable
      · exact .inl hnull
      · exact .inr (.inl hundefined)
      · cases hfalse
    exact copyable_trans hstep ih

end Property

/-! ### Shapes -/

/-- The property of a name is still found after properties are narrowed. -/
theorem Keyed.exists_find?_of_narrows {l l' : List Property}
    (h : List.Forall₂ Property.Narrows l l') {name : Text} {p : Property}
    (hp : Keyed.find? Property.name name l = some p) :
    ∃ q, Keyed.find? Property.name name l' = some q ∧ p.Narrows q := by
  induction h with
  | nil => cases hp
  | @cons r s l l' hrs _ ih =>
    have hfind (t : Property) (k : List Property) : Keyed.find? Property.name name (t :: k) =
        if t.name = name then some t else Keyed.find? Property.name name k := by
      simp only [Keyed.find?, List.find?_cons]
      by_cases ht : t.name = name <;> simp [ht]
    rw [hfind] at hp
    rw [hfind, hrs.name_eq]
    by_cases hname : r.name = name
    · rw [if_pos hname] at hp ⊢
      cases hp
      exact ⟨s, rfl, hrs⟩
    · rw [if_neg hname] at hp ⊢
      exact ih hp

namespace Slot

/-- A slot that takes the place of another one, and is copied if that was. -/
structure Improves (s s' : Slot) : Prop where
  name_eq : s'.name = s.name
  optional_of : s.optional = true → s'.optional = true
  copied_of : s.route = .copied → s'.route = .copied

theorem improves_of {source source' : Entity}
    (hsource : List.Forall₂ Property.Narrows source.properties source'.properties)
    {p q : Property} (h : p.Widens q) :
    (Slot.of p (source.property? p.name)).Improves (Slot.of q (source'.property? q.name)) := by
  have hcopyable (hp : (source.property? p.name).any p.copyable = true) :
      (source'.property? q.name).any q.copyable = true := by
    obtain ⟨r, hr, hcopy⟩ := (Option.any_eq_true _ _).1 hp
    obtain ⟨r', hr', hnarrows⟩ := Keyed.exists_find?_of_narrows hsource hr
    rw [h.name_eq, Entity.property?, hr']
    exact Property.copyable_trans hnarrows.copyable (Property.copyable_trans hcopy h.copyable)
  refine ⟨h.name_eq, hcopyable, fun hroute => ?_⟩
  exact (Slot.route_of q _).2 (hcopyable ((Slot.route_of p _).1 hroute))

end Slot

namespace Plan

variable {source target : Entity} {ps qs : List Property}

/-- If each slot that is selected of one list has its counterpart selected of another, so have their
names. -/
theorem map_name_filter_sublist {f g : Slot → Bool} {k l : List Slot}
    (h : List.Forall₂ (fun s s' => s.name = s'.name ∧ (f s = true → g s' = true)) k l) :
    List.Sublist ((k.filter f).map Slot.name) ((l.filter g).map Slot.name) := by
  induction h with
  | nil => exact .slnil
  | @cons s s' k l hs _ ih =>
    obtain ⟨hname, himp⟩ := hs
    by_cases hf : f s = true
    · rw [List.filter_cons_of_pos hf, List.filter_cons_of_pos (himp hf), List.map_cons,
        List.map_cons, hname]
      exact ih.cons_cons s'.name
    · rw [List.filter_cons_of_neg hf]
      exact ih.trans (((List.sublist_cons_self s' l).filter g).map Slot.name)

theorem sublist_of_improves {a b : Plan} (h : List.Forall₂ Slot.Improves a.slots b.slots) :
    List.Sublist b.required a.required ∧ List.Sublist a.copied b.copied := by
  constructor
  · refine map_name_filter_sublist (h.flip.imp fun s' s hs => ⟨hs.name_eq, fun hrequired => ?_⟩)
    rw [Bool.not_eq_true'] at hrequired ⊢
    exact Bool.eq_false_iff.2 fun hoptional => by simp [hs.optional_of hoptional] at hrequired
  · refine map_name_filter_sublist (h.imp fun s s' hs => ⟨hs.name_eq.symm, fun hcopied => ?_⟩)
    exact decide_eq_true (hs.copied_of (of_decide_eq_true hcopied))

/-- No auto-mapping is lost by giving target properties more ways to be absent and source
properties fewer: the names that need a custom function are among those that did before, and those
that were copied among those that are, in the same order. -/
theorem required_widened (hsource : List.Forall₂ Property.Narrows source.properties ps)
    (htarget : List.Forall₂ Property.Widens target.properties qs) :
    let plan := Plan.of source target
    let plan' := Plan.of { source with properties := ps } { target with properties := qs }
    List.Sublist plan'.required plan.required ∧ List.Sublist plan.copied plan'.copied := by
  refine sublist_of_improves ?_
  show List.Forall₂ Slot.Improves (target.properties.map _) (qs.map _)
  rw [List.forall₂_map_left_iff, List.forall₂_map_right_iff]
  exact htarget.imp fun p q h => Slot.improves_of hsource h

/-- Of three properties that need a custom function, one is widened twice, and the source of
another one is narrowed. The third has no source. -/
theorem required_widened_date :
    let source : Entity := { name := "S".toList, properties :=
      [⟨"x".toList, "Date | null".toList, true⟩, ⟨"y".toList, "number |null".toList, true⟩] }
    let target : Entity := { name := "T".toList, properties :=
      [⟨"x".toList, "Date".toList, false⟩, ⟨"y".toList, "number".toList, false⟩,
        ⟨"z".toList, "string".toList, false⟩] }
    let ps : List Property :=
      [⟨"x".toList, "Date | null".toList, true⟩, ⟨"y".toList, "number".toList, false⟩]
    let qs : List Property :=
      [⟨"x".toList, "undefined | Date | null".toList, false⟩, ⟨"y".toList, "number".toList, false⟩,
        ⟨"z".toList, "string".toList, true⟩]
    let plan := Plan.of source target
    let plan' := Plan.of { source with properties := ps } { target with properties := qs }
    List.Forall₂ Property.Narrows source.properties ps ∧
      List.Forall₂ Property.Widens target.properties qs ∧
      plan.required = ["x".toList, "y".toList, "z".toList] ∧ plan'.required = ["z".toList] ∧
      List.Sublist plan'.required plan.required ∧ List.Sublist plan.copied plan'.copied := by
  intro source target ps qs plan plan'
  have hsource : List.Forall₂ Property.Narrows source.properties ps :=
    .cons .refl (.cons (.required (.stripped .refl)) .nil)
  have hundefined : UnionType.isAbsence "undefined".toList = true := by decide
  have hnull : UnionType.isAbsence "null".toList = true := by decide
  have htarget : List.Forall₂ Property.Widens target.properties qs :=
    .cons (.absenceFirst hundefined (.absenceLast hnull .refl)) (.cons .refl
      (.cons (.optional .refl) .nil))
  exact ⟨hsource, htarget, by decide +kernel, by decide +kernel,
    required_widened hsource htarget⟩

end Plan

end ShapeMapper
