import ShapeMapper.Proofs.Plan.Stripped

/-!
# What is compared of a type

Two types whose members are not blank are compared by the members that are kept of them, one after
the other (`UnionType.stripped_eq_iff`). An absence may be added to a type wherever a member may
stand, with any blanks around it, and nothing changes: `UnionType.stripped_members`.
-/

namespace ShapeMapper.UnionType

open Text

variable {b a b' t u : Text}

/-! ### One more member -/

theorem kept_append_bar (t u : Text) : kept (t ++ '|' :: u) = kept t ++ kept u := by
  rw [kept, members_append_bar, List.filter_append]
  rfl

/-- Nothing is kept of an absence, whatever blanks stand around it. -/
theorem kept_spaced (hb : ∀ c ∈ b, isBlank c = true) (ha : isAbsence a = true)
    (hb' : ∀ c ∈ b', isBlank c = true) : kept (b ++ a ++ b') = [] := by
  rw [kept, members_append_blank hb', members_blank_append hb]
  exact kept_of_isAbsence ha

/-- A member of which nothing is kept may stand anywhere among the members of a type. -/
theorem stripped_insert {m : Text} (hm : kept m = []) :
    stripped (m ++ '|' :: t) = stripped t ∧ stripped (t ++ '|' :: m) = stripped t ∧
      stripped (t ++ '|' :: (m ++ '|' :: u)) = stripped (t ++ '|' :: u) := by
  simp only [stripped_eq, kept_append_bar, hm, List.nil_append, List.append_nil, and_self]

/-! ### Equal results -/

/-- Something is left of a type if a member is kept of it that is not blank. -/
theorem stripped_ne_nil (hblank : ∀ m ∈ members t, m ≠ []) (h : kept t ≠ []) :
    stripped t ≠ [] := by
  obtain ⟨m, l, hkept⟩ := List.exists_cons_of_ne_nil h
  have hmem : m ∈ kept t := by rw [hkept]; exact List.mem_cons_self
  have hne : m ≠ [] := hblank m (List.mem_of_mem_filter hmem)
  intro hnil
  -- what is left begins like its first member
  have hhead : (['|'].intercalate (m :: l)).head? = m.head? := head?_intercalate_cons hne l
  rw [← hkept, ← stripped_eq, hnil] at hhead
  exact hne (List.head?_eq_none_iff.1 hhead.symm)

theorem stripped_eq_iff (ht : ∀ m ∈ members t, m ≠ []) (hu : ∀ m ∈ members u, m ≠ []) :
    stripped t = stripped u ↔ kept t = kept u := by
  constructor
  · intro h
    by_cases hkept : kept t = []
    · have hnil : stripped u = [] := by rw [← h, stripped_eq, hkept, List.intercalate_nil]
      rw [hkept]
      exact (not_not.1 fun hne => stripped_ne_nil hu (Ne.symm hne) hnil)
    · have hkept' : kept u ≠ [] := fun hnil =>
        stripped_ne_nil ht hkept (by rw [h, stripped_eq, hnil, List.intercalate_nil])
      rw [← members_stripped hkept, h, members_stripped hkept']
  · intro h
    rw [stripped_eq, stripped_eq, h]

/-- Types are compared by their members: taking the absences off twice is taking them off once, an
absence may stand before, after or between the members, and nothing but the absences and the blanks
around the members is lost. -/
theorem stripped_members (t : Text) :
    stripped (stripped t) = stripped t ∧
      (∀ b a b' : Text, (∀ c ∈ b, isBlank c = true) → isAbsence a = true →
        (∀ c ∈ b', isBlank c = true) →
        stripped (b ++ a ++ b' ++ '|' :: t) = stripped t ∧
          stripped (t ++ '|' :: (b ++ a ++ b')) = stripped t ∧
          ∀ u v, t = u ++ '|' :: v →
            stripped (u ++ '|' :: (b ++ a ++ b' ++ '|' :: v)) = stripped t) ∧
      ∀ u, (∀ m ∈ members t, m ≠ []) → (∀ m ∈ members u, m ≠ []) →
        (stripped t = stripped u ↔ kept t = kept u) := by
  refine ⟨stripped_stripped t, ?_, fun u ht hu => stripped_eq_iff ht hu⟩
  intro b a b' hb ha hb'
  have hkept := kept_spaced hb ha hb'
  refine ⟨(stripped_insert (u := []) hkept).1, (stripped_insert (u := []) hkept).2.1, ?_⟩
  rintro u v rfl
  exact (stripped_insert hkept).2.2

/-- A date or a text, with an absence written between them and one more before them; and the same
two members in the other order, which is another type. -/
theorem stripped_members_date :
    stripped (stripped "Date |string".toList) = stripped "Date |string".toList ∧
      stripped "\tnull |Date |string".toList = stripped "Date |string".toList ∧
      stripped "Date |\tnull |string".toList = stripped "Date |string".toList ∧
      stripped "Date |string".toList ≠ stripped "string|Date|null".toList := by
  obtain ⟨htwice, hinsert, hcompare⟩ := stripped_members "Date |string".toList
  obtain ⟨hbefore, -, hbetween⟩ := hinsert ['\t'] "null".toList [' ']
    (List.forall_mem_singleton.2 (by decide)) (by decide) (List.forall_mem_singleton.2 (by decide))
  refine ⟨htwice, hbefore, hbetween "Date ".toList "string".toList rfl, ?_⟩
  rw [Ne, hcompare "string|Date|null".toList (by decide) (by decide)]
  decide

/-- Without the condition on blank members the comparison is coarser. -/
example : stripped "null".toList = stripped [] ∧ kept "null".toList ≠ kept [] := by
  decide

end ShapeMapper.UnionType
