import ShapeMapper.Plan.Basic
import ShapeMapper.Proofs.Plan.TypeTerm

/-!
# Return types

The type that a custom function has to return for an optional property is the text of the declared
type with a bar and `undefined` behind it. It is the text of one type only, in which `undefined` is
a further member of the union that the declared type ends with (`TypeTerm.orUndefined`). This is
the outermost one, unless the declared type is a function type or a conditional one:
`Property.returnType_text`.
-/

namespace ShapeMapper

open Written (Name)

namespace TypeTerm

/-- The type `undefined`. -/
def undefinedType : TypeTerm :=
  name ⟨'u', "ndefined".toList, by decide, Text.forall_mem_of_all (by decide)⟩

/-- A type with `undefined` as a further member of the union that it ends with. -/
def orUndefined : TypeTerm → TypeTerm
  | union e f es => union e f (es ++ [undefinedType])
  | function ps r => function ps r.orUndefined
  | conditional c b y n => conditional c b y n.orUndefined
  | e => union e undefinedType []

/-- What is written behind a type goes to the union that it ends with. -/
theorem text_orUndefined (e : TypeTerm) : e.orUndefined.text = e.text ++ " | undefined".toList := by
  fun_induction orUndefined e with
  | case1 e f es =>
    have hmembers : (e :: f :: (es ++ [undefinedType])).map memberText =
        (e :: f :: es).map memberText ++ [undefinedType.memberText] := by
      simp
    rw [text_union, text_union, hmembers, Text.intercalate_append (by simp) (by simp),
      List.append_assoc]
    rfl
  | case2 ps r ih =>
    rw [text, ih, text]
    exact (List.append_assoc _ _ _).symm
  | case3 c b y n ih =>
    rw [text, ih, text]
    exact (List.append_assoc _ _ _).symm
  | case4 e hunion hfunction hconditional =>
    -- no parentheses are written around the type
    have hmember : e.memberText = e.text := by
      cases e with
      | union e f es => exact absurd rfl (hunion e f es)
      | function ps r => exact absurd rfl (hfunction ps r)
      | conditional c b y n => exact absurd rfl (hconditional c b y n)
      | _ => rfl
    rw [text_union, List.map_cons, List.map_singleton, List.intercalate_cons_cons,
      List.intercalate_singleton, hmember, List.append_assoc]
    rfl

theorem outermost_orUndefined_iff (e : TypeTerm) :
    e.orUndefined.outermost = e.outermost ++ [undefinedType] ↔ e.isOpen = false := by
  cases e <;> simp [orUndefined, outermost, isOpen]

end TypeTerm

/-- The return type of an optional property is written as the declared type with `undefined` as a
further member of the union that it ends with, and as no other type. It is written as a union of
the members of the declared type and `undefined` just if this is no function type and no
conditional one. -/
theorem Property.returnType_text (name : Text) (t : TypeTerm) :
    let p : Property := ⟨name, t.text, true⟩
    (∀ e : TypeTerm, e.text = p.returnType ↔ e = t.orUndefined) ∧
      ((∃ e : TypeTerm, e.text = p.returnType ∧
        e.outermost = t.outermost ++ [TypeTerm.undefinedType]) ↔ t.isOpen = false) := by
  intro p
  have htext (e : TypeTerm) : e.text = p.returnType ↔ e = t.orUndefined := by
    rw [← TypeTerm.text_injective.eq_iff, t.text_orUndefined]
    rfl
  refine ⟨htext, ?_⟩
  simp only [htext, exists_eq_left]
  exact t.outermost_orUndefined_iff

/-- The type of the functions without parameters that return nothing. -/
def TypeTerm.voidFunction : TypeTerm :=
  function [] (name ⟨'v', "oid".toList, by decide, Text.forall_mem_of_all (by decide)⟩)

/-- A function or `undefined` is written with parentheses, which the return type does not have. -/
theorem Property.returnType_voidFunction :
    (Property.mk "f".toList TypeTerm.voidFunction.text true).returnType =
        "() => void | undefined".toList ∧
      ¬∃ e : TypeTerm, e.text = "() => void | undefined".toList ∧
        e.outermost = TypeTerm.voidFunction.outermost ++ [TypeTerm.undefinedType] := by
  refine ⟨by decide +kernel, ?_⟩
  rintro ⟨e, htext, houtermost⟩
  have hunion : e = .union .voidFunction TypeTerm.undefinedType [] :=
    TypeTerm.outermost_injective houtermost
  rw [hunion] at htext
  exact absurd htext (by decide +kernel)

end ShapeMapper
