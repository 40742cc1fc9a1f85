import ShapeMapper.Proofs.Plan.Bars
import ShapeMapper.Proofs.Text.Infix

/-!
# Types without their absences

A type is compared without its members `null` and `undefined` (`UnionType.stripped`). Taking them
off twice is taking them off once (`UnionType.stripped_stripped`), one more of them changes nothing
(`UnionType.stripped_append_absence`), and no word is made of what is left where they stood
(`UnionType.infix_of_infix_stripped`).
-/

namespace ShapeMapper

namespace Text

variable {t : Text}

theorem not_isBlank_head_strip (t : Text) : ∀ c ∈ (strip t).head?, isBlank c = false := by
  intro c hc
  obtain ⟨v, hv⟩ : ∃ v, trimEnd (trimStart t) = c :: v := List.head?_eq_some_iff.1 hc
  obtain ⟨u, hu⟩ := trimEnd_isPrefix (trimStart t)
  have hnot := List.head?_dropWhile_not isBlank t
  rw [← trimStart, ← hu, hv] at hnot
  simpa using hnot

theorem not_isBlank_last_strip (t : Text) : ∀ c ∈ (strip t).getLast?, isBlank c = false := by
  intro c hc
  rw [strip, trimEnd, List.getLast?_reverse] at hc
  have hnot := List.head?_dropWhile_not isBlank (trimStart t).reverse
  rw [hc] at hnot
  simpa using hnot

theorem strip_strip (t : Text) : strip (strip t) = strip t :=
  strip_of_not_isBlank (not_isBlank_head_strip t) (not_isBlank_last_strip t)

end Text

namespace UnionType

open Text

variable {t a word : Text}

/-- The members of a type that do not stand for the absence of a value. -/
def kept (t : Text) : List Text :=
  (members t).filter fun m => !isAbsence m

theorem stripped_eq (t : Text) : stripped t = ['|'].intercalate (kept t) := rfl

/-- A member is a part of the type, without bars and without blanks at its ends. -/
theorem of_mem_members {m : Text} (hm : m ∈ members t) : '|' ∉ m ∧ strip m = m ∧ m <:+: t := by
  have hstrip (u : Text) (hu : '|' ∉ u) : '|' ∉ strip u ∧ strip (strip u) = strip u :=
    ⟨fun h => hu ((strip_isInfix u).subset h), strip_strip u⟩
  induction t using induct_bar with
  | last t ht =>
    rw [members_of_notMem ht, List.mem_singleton] at hm
    rw [hm]
    exact ⟨(hstrip t ht).1, (hstrip t ht).2, strip_isInfix t⟩
  | bar t u ht ih =>
    rw [members_append_bar, members_of_notMem ht, List.singleton_append, List.mem_cons] at hm
    rcases hm with rfl | hm
    · exact ⟨(hstrip t ht).1, (hstrip t ht).2, (strip_isInfix t).trans ⟨[], '|' :: u, rfl⟩⟩
    · obtain ⟨hbar, hm, hinfix⟩ := ih hm
      exact ⟨hbar, hm, hinfix.trans ((List.suffix_cons '|' u).isInfix.trans
        (List.suffix_append t ('|' :: u)).isInfix)⟩

theorem of_mem_kept {m : Text} (hm : m ∈ kept t) :
    '|' ∉ m ∧ strip m = m ∧ m <:+: t ∧ isAbsence m = false := by
  obtain ⟨hmem, hkept⟩ := List.mem_filter.1 hm
  obtain ⟨hbar, hstrip, hinfix⟩ := of_mem_members hmem
  exact ⟨hbar, hstrip, hinfix, by simpa using hkept⟩

/-- What is left of a type has just the members that were kept of it. -/
theorem members_stripped (h : kept t ≠ []) : members (stripped t) = kept t := by
  have hbar : ∀ m ∈ kept t, '|' ∉ m := fun m hm => (of_mem_kept hm).1
  have hstrip : (kept t).map strip = kept t := by
    rw [List.map_congr_left (g := id) fun m hm => (of_mem_kept hm).2.1, List.map_id]
  rw [stripped_eq, members, List.splitOn_intercalate '|' hbar h, hstrip]

theorem stripped_stripped (t : Text) : stripped (stripped t) = stripped t := by
  by_cases h : kept t = []
  -- nothing is left, which is one empty member
  · rw [stripped_eq t, h]
    decide
  · have hkept : kept (stripped t) = kept t := by
      rw [kept, members_stripped h]
      exact List.filter_eq_self.2 fun m hm => by simp [(of_mem_kept hm).2.2.2]
    rw [stripped_eq, hkept, ← stripped_eq]

/-- A word without bars in what is left of a type has been in the type before. -/
theorem infix_of_infix_stripped (hne : word ≠ []) (hbar : '|' ∉ word) (h : word <:+: stripped t) :
    word <:+: t := by
  obtain ⟨m, hm, hword⟩ := exists_infix_of_intercalate hne hbar h
  exact hword.trans (of_mem_kept hm).2.2.1

/-! ### Absences -/

theorem isAbsence_iff : isAbsence a = true ↔ a = "null".toList ∨ a = "undefined".toList := by
  rw [isAbsence, Bool.or_eq_true, decide_eq_true_eq, decide_eq_true_eq]

theorem kept_of_isAbsence (ha : isAbsence a = true) : kept a = [] := by
  rcases isAbsence_iff.1 ha with rfl | rfl <;> decide

/-- One more absence at the end of a type is taken off. -/
theorem stripped_append_absence (t : Text) (ha : isAbsence a = true) :
    stripped (t ++ (" | ".toList ++ a)) = stripped t := by
  have hkept : kept (t ++ (" | ".toList ++ a)) = kept t ++ kept a := by
    rw [kept, members_append_spaced, List.filter_append]
    rfl
  rw [stripped_eq, hkept, kept_of_isAbsence ha, List.append_nil, ← stripped_eq]

/-- So it is at its beginning. -/
theorem stripped_absence_append (t : Text) (ha : isAbsence a = true) :
    stripped (a ++ (" | ".toList ++ t)) = stripped t := by
  have hkept : kept (a ++ (" | ".toList ++ t)) = kept a ++ kept t := by
    rw [kept, members_append_spaced, List.filter_append]
    rfl
  rw [stripped_eq, hkept, kept_of_isAbsence ha, List.nil_append, ← stripped_eq]

theorem isNullable_iff {optional : Bool} : isNullable t optional = true ↔
    "null".toList <:+: t ∨ "undefined".toList <:+: t ∨ optional = true := by
  simp only [isNullable, Bool.or_eq_true, isSome_cut?_iff, or_assoc]

/-- A type in which an absence occurs admits no value. -/
theorem isNullable_of_infix {optional : Bool} (ha : isAbsence a = true) (h : a <:+: t) :
    isNullable t optional = true := by
  rw [isNullable_iff]
  rcases isAbsence_iff.1 ha with rfl | rfl
  · exact .inl h
  · exact .inr (.inl h)

/-- A type that admits no value after its absences are taken off did so before. -/
theorem isNullable_of_stripped {optional : Bool} (h : isNullable (stripped t) optional = true) :
    isNullable t optional = true := by
  rw [isNullable_iff] at h ⊢
  rcases h with h | h | h
  · exact .inl (infix_of_infix_stripped (by decide) (by decide) h)
  · exact .inr (.inl (infix_of_infix_stripped (by decide) (by decide) h))
  · exact .inr (.inr h)

end UnionType

end ShapeMapper
