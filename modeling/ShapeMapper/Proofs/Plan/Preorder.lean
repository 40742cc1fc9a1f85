import Mathlib.Data.List.Basic
import ShapeMapper.Plan.Basic

/-!
# Copying as an order

A property may be copied to another if the two have one type, `null` and `undefined` aside, and the
target is nullable if the source is. This is a preorder of properties (`Property.copyable_refl`,
`Property.copyable_trans`), and so is copying by name between shapes: a shape copies all of itself,
what is copied from `A` to `B` and from `B` to `C` is copied from `A` to `C`, and what is copied
both ways is declared alike on both sides (`Plan.copied_preorder`).
-/

namespace ShapeMapper

/-! ### Shapes made of members -/

/-- An element of a list without repeated keys is what its key finds. -/
theorem Keyed.find?_eq_some_iff {α κ : Type} [DecidableEq κ] {key : α → κ} {l : List α} {k : κ}
    {a : α} (h : (l.map key).Nodup) : find? key k l = some a ↔ a ∈ l ∧ key a = k := by
  induction l with
  | nil => simp [find?]
  | cons b l ih =>
    rw [List.map_cons, List.nodup_cons] at h
    by_cases hb : key b = k
    · have hfound : find? key k (b :: l) = some b := by simp [find?, hb]
      rw [hfound, Option.some.injEq]
      constructor
      · rintro rfl
        exact ⟨List.mem_cons_self, hb⟩
      · rintro ⟨ha, hak⟩
        rcases List.mem_cons.1 ha with rfl | ha
        · rfl
        · -- no later element has the key of the first one
          exact absurd (hb.trans hak.symm ▸ List.mem_map_of_mem ha) h.1
    · have hlater : find? key k (b :: l) = find? key k l := by simp [find?, hb]
      rw [hlater, ih h.2, List.mem_cons]
      constructor
      · rintro ⟨ha, hak⟩
        exact ⟨.inr ha, hak⟩
      · rintro ⟨rfl | ha, hak⟩
        · exact absurd hak hb
        · exact ⟨ha, hak⟩

namespace Entity

/-- Whether a shape is one that some members make up. -/
def IsMade (e : Entity) : Prop :=
  ∃ name members exported isDefault, e = ofMembers name members exported isDefault

theorem isMade_ofMembers (name : Text) (members : List Property) (exported isDefault : Bool) :
    (ofMembers name members exported isDefault).IsMade :=
  ⟨name, members, exported, isDefault, rfl⟩

variable {e : Entity} {p : Property} {name : Text}

theorem IsMade.nodup (h : e.IsMade) : (e.properties.map Property.name).Nodup := by
  obtain ⟨name, members, exported, isDefault, rfl⟩ := h
  exact Keyed.nodup_ofList Property.name members

theorem IsMade.property?_eq_some_iff (h : e.IsMade) :
    e.property? name = some p ↔ p ∈ e.properties ∧ p.name = name :=
  Keyed.find?_eq_some_iff h.nodup

theorem IsMade.property?_name (h : e.IsMade) (hp : p ∈ e.properties) :
    e.property? p.name = some p :=
  h.property?_eq_some_iff.2 ⟨hp, rfl⟩

end Entity

/-! ### Properties -/

namespace Property

/-- Whether a property may hold no value. -/
def isNullable (p : Property) : Bool :=
  UnionType.isNullable p.type p.optional

variable {p q r : Property}

theorem copyable_iff : p.copyable q = true ↔
    UnionType.stripped q.type = UnionType.stripped p.type ∧
      (q.isNullable = true → p.isNullable = true) := by
  simp only [copyable, Bool.and_eq_true, decide_eq_true_eq, Bool.or_eq_true, Bool.not_eq_true',
    isNullable]
  refine and_congr_right fun _ => ?_
  cases UnionType.isNullable q.type q.optional <;> simp

theorem copyable_refl (p : Property) : p.copyable p = true :=
  copyable_iff.2 ⟨rfl, id⟩

theorem copyable_trans (hpq : q.copyable p = true) (hqr : r.copyable q = true) :
    r.copyable p = true := by
  rw [copyable_iff] at hpq hqr ⊢
  exact ⟨hpq.1.trans hqr.1, fun hp => hqr.2 (hpq.2 hp)⟩

/-- Properties that may be copied both ways differ in no more than how the absence of a value is
written. -/
theorem copyable_and_copyable_iff : p.copyable q = true ∧ q.copyable p = true ↔
    UnionType.stripped p.type = UnionType.stripped q.type ∧ p.isNullable = q.isNullable := by
  have hnullable : p.isNullable = q.isNullable ↔
      (p.isNullable = true ↔ q.isNullable = true) := Bool.eq_iff_iff
  rw [copyable_iff, copyable_iff, hnullable]
  constructor
  · rintro ⟨⟨htype, hqp⟩, -, hpq⟩
    exact ⟨htype.symm, hpq, hqp⟩
  · rintro ⟨htype, hpq, hqp⟩
    exact ⟨⟨htype.symm, hqp⟩, htype, hpq⟩

end Property

/-! ### Plans -/

namespace Slot

variable (p : Property) (source : Option Property)

theorem route_of : (Slot.of p source).route = .copied ↔ source.any p.copyable = true := by
  cases h : source.any p.copyable <;> simp [Slot.of, h]

/-- The caller may leave out just what is copied. -/
theorem optional_of :
    (Slot.of p source).optional = decide ((Slot.of p source).route = .copied) := by
  cases h : source.any p.copyable <;> simp [Slot.of, h]

end Slot

namespace Plan

variable {A B C : Entity} {name : Text}

/-- A name is copied if both shapes declare it, the one so that it may be copied to the other. -/
theorem mem_copied_iff (hB : B.IsMade) : name ∈ (Plan.of A B).copied ↔
    ∃ p q, A.property? name = some p ∧ B.property? name = some q ∧ q.copyable p = true := by
  simp only [copied, Plan.of, List.mem_map, List.mem_filter, decide_eq_true_eq]
  constructor
  · rintro ⟨slot, ⟨⟨q, hq, rfl⟩, hroute⟩, rfl⟩
    rw [Slot.route_of, Option.any_eq_true] at hroute
    obtain ⟨p, hp, hcopyable⟩ := hroute
    exact ⟨p, q, hp, hB.property?_name hq, hcopyable⟩
  · rintro ⟨p, q, hp, hq, hcopyable⟩
    obtain ⟨hmem, rfl⟩ := hB.property?_eq_some_iff.1 hq
    refine ⟨_, ⟨⟨q, hmem, rfl⟩, ?_⟩, rfl⟩
    rw [Slot.route_of, hp]
    exact hcopyable

/-- A shape copies all of itself. -/
theorem copied_self (hA : A.IsMade) :
    (Plan.of A A).copied = A.properties.map Property.name ∧ (Plan.of A A).allOptional = true := by
  have hslot : ∀ p ∈ A.properties, (Slot.of p (A.property? p.name)).route = .copied := by
    intro p hp
    rw [Slot.route_of, hA.property?_name hp]
    exact p.copyable_refl
  constructor
  · have hall : (Plan.of A A).slots.filter (·.route = .copied) = (Plan.of A A).slots := by
      refine List.filter_eq_self.2 fun slot hslot' => ?_
      obtain ⟨p, hp, rfl⟩ := List.mem_map.1 hslot'
      exact decide_eq_true (hslot p hp)
    rw [copied, hall, Plan.of, List.map_map]
    rfl
  · refine List.all_eq_true.2 fun slot hslot' => ?_
    obtain ⟨p, hp, rfl⟩ := List.mem_map.1 hslot'
    rw [Slot.optional_of, decide_eq_true (hslot p hp)]

theorem mem_copied_trans (hB : B.IsMade) (hC : C.IsMade) (hAB : name ∈ (Plan.of A B).copied)
    (hBC : name ∈ (Plan.of B C).copied) : name ∈ (Plan.of A C).copied := by
  obtain ⟨p, q, hp, hq, hpq⟩ := (mem_copied_iff hB).1 hAB
  obtain ⟨q', r, hq', hr, hqr⟩ := (mem_copied_iff hC).1 hBC
  -- the name stands for one property of the shape between the two others
  obtain rfl : q = q' := Option.some.inj (hq.symm.trans hq')
  exact (mem_copied_iff hC).2 ⟨p, r, hp, hr, Property.copyable_trans hpq hqr⟩

theorem mem_copied_and_mem_copied_iff (hA : A.IsMade) (hB : B.IsMade) :
    name ∈ (Plan.of A B).copied ∧ name ∈ (Plan.of B A).copied ↔
      ∃ p q, A.property? name = some p ∧ B.property? name = some q ∧
        UnionType.stripped p.type = UnionType.stripped q.type ∧ p.isNullable = q.isNullable := by
  rw [mem_copied_iff hB, mem_copied_iff hA]
  constructor
  · rintro ⟨⟨p, q, hp, hq, hpq⟩, q', p', hq', hp', hqp⟩
    obtain rfl : p = p' := Option.some.inj (hp.symm.trans hp')
    obtain rfl : q = q' := Option.some.inj (hq.symm.trans hq')
    exact ⟨p, q, hp, hq, Property.copyable_and_copyable_iff.1 ⟨hqp, hpq⟩⟩
  · rintro ⟨p, q, hp, hq, halike⟩
    obtain ⟨hqp, hpq⟩ := Property.copyable_and_copyable_iff.2 halike
    exact ⟨⟨p, q, hp, hq, hpq⟩, q, p, hq, hp, hqp⟩

/-- Copying by name is a preorder of shapes, and a name that is copied both ways is declared on
both sides with one type, absence aside, and with one nullability. -/
theorem copied_preorder (hA : A.IsMade) (hB : B.IsMade) (hC : C.IsMade) :
    ((Plan.of A A).copied = A.properties.map Property.name ∧
      (Plan.of A A).allOptional = true) ∧
    (∀ name, name ∈ (Plan.of A B).copied → name ∈ (Plan.of B C).copied →
      name ∈ (Plan.of A C).copied) ∧
    ∀ name, name ∈ (Plan.of A B).copied ∧ name ∈ (Plan.of B A).copied ↔
      ∃ p q, A.property? name = some p ∧ B.property? name = some q ∧
        UnionType.stripped p.type = UnionType.stripped q.type ∧ p.isNullable = q.isNullable :=
  ⟨copied_self hA, fun _ => mem_copied_trans hB hC, fun _ => mem_copied_and_mem_copied_iff hA hB⟩

/-- Three ways to declare a number that may be absent, one of them the last of two declarations. -/
theorem copied_preorder_number :
    let a := Entity.ofMembers "A".toList [⟨"x".toList, "Date".toList, false⟩,
      ⟨"y".toList, "Date".toList, false⟩, ⟨"x".toList, "number | null".toList, false⟩] true false
    let b := Entity.ofMembers "B".toList [⟨"x".toList, "number".toList, true⟩] true false
    let c := Entity.ofMembers "C".toList [⟨"x".toList, "undefined|number".toList, false⟩] true false
    a.IsMade ∧ b.IsMade ∧ c.IsMade ∧ "x".toList ∈ (Plan.of b c).copied ∧
      (Plan.of a a).copied = ["x".toList, "y".toList] ∧ (Plan.of a a).allOptional = true ∧
      ("x".toList ∈ (Plan.of a b).copied ∧ "x".toList ∈ (Plan.of b a).copied) ∧
      "x".toList ∈ (Plan.of a c).copied := by
  intro a b c
  have ha : a.IsMade := Entity.isMade_ofMembers _ _ _ _
  have hb : b.IsMade := Entity.isMade_ofMembers _ _ _ _
  have hc : c.IsMade := Entity.isMade_ofMembers _ _ _ _
  obtain ⟨⟨hself, hoptional⟩, htrans, halike⟩ := copied_preorder ha hb hc
  have hab := (halike "x".toList).2 ⟨⟨"x".toList, "number | null".toList, false⟩,
    ⟨"x".toList, "number".toList, true⟩, by decide, by decide, by decide +kernel, by decide +kernel⟩
  have hbc : "x".toList ∈ (Plan.of b c).copied := by decide +kernel
  exact ⟨ha, hb, hc, hbc, hself, hoptional, hab, htrans _ hab.1 hbc⟩

end Plan

end ShapeMapper
