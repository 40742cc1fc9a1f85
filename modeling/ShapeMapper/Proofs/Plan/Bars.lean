import Mathlib.Data.List.TakeWhile
import ShapeMapper.Plan.Basic
import ShapeMapper.Proofs.Text.Name

/-!
# Texts with bars

What stands between the bars of a text, stripped and put together again (`UnionType.squeezed`):
the text without the blanks around its bars. Two texts are squeezed one after the other if no blank
and no bar stands where they meet: `UnionType.squeezed_append`.
-/

namespace ShapeMapper

namespace Text

/-- What holds of texts without bars, and of a text after a bar, holds of all texts. -/
theorem induct_bar {P : Text → Prop} (last : ∀ t, '|' ∉ t → P t)
    (bar : ∀ t u, '|' ∉ t → P u → P (t ++ '|' :: u)) (t : Text) : P t := by
  induction h : t.length using Nat.strong_induction_on generalizing t with
  | _ n ih =>
    by_cases hbar : '|' ∈ t
    · obtain ⟨before, after, rfl, hbefore⟩ := List.eq_append_cons_of_mem hbar
      exact bar before after hbefore (ih after.length (by simp at h; omega) after rfl)
    · exact last t hbar

/-! ### Stripping -/

/-- Whether a text begins with a character that is no blank and no bar. -/
def BeginsSolid (t : Text) : Prop :=
  ∃ c u, t = c :: u ∧ isBlank c = false ∧ c ≠ '|'

/-- Whether a text ends with a character that is no blank and no bar. -/
def EndsSolid (t : Text) : Prop :=
  ∃ c u, t = u ++ [c] ∧ isBlank c = false ∧ c ≠ '|'

variable {b t u : Text}

theorem BeginsSolid.append (h : BeginsSolid t) (u : Text) : BeginsSolid (t ++ u) := by
  obtain ⟨c, v, rfl, hc⟩ := h
  exact ⟨c, v ++ u, rfl, hc⟩

theorem EndsSolid.append (h : EndsSolid u) (t : Text) : EndsSolid (t ++ u) := by
  obtain ⟨c, v, rfl, hc⟩ := h
  exact ⟨c, t ++ v, (List.append_assoc t v [c]).symm, hc⟩

theorem BeginsSolid.of_append_bar (h : BeginsSolid (t ++ '|' :: u)) : BeginsSolid t := by
  obtain ⟨c, v, heq, hc⟩ := h
  cases t with
  | nil => exact absurd (List.cons.inj heq).1.symm hc.2
  | cons d t => exact ⟨d, t, rfl, (List.cons.inj heq).1 ▸ hc⟩

theorem EndsSolid.of_append_bar (h : EndsSolid (t ++ '|' :: u)) : EndsSolid u := by
  obtain ⟨c, v, heq, hc⟩ := h
  rcases List.eq_nil_or_concat u with rfl | ⟨w, d, rfl⟩
  · have hbar : '|' = c := by simpa using List.append_inj_right' heq rfl
    exact absurd hbar.symm hc.2
  · have heq : (t ++ '|' :: w) ++ [d] = v ++ [c] := by simpa using heq
    obtain rfl : d = c := by simpa using List.append_inj_right' heq rfl
    exact ⟨d, w, by simp, hc⟩

theorem beginsSolid_intercalate {sep : Text} {l : List Text} (hl : l ≠ [])
    (h : ∀ t ∈ l, BeginsSolid t) : BeginsSolid (sep.intercalate l) := by
  obtain ⟨t, l, rfl⟩ := List.exists_cons_of_ne_nil hl
  have ht := h t List.mem_cons_self
  by_cases hnil : l = []
  · simpa [hnil] using ht
  · rw [List.intercalate_cons_of_ne_nil hnil, List.append_assoc]
    exact ht.append _

theorem endsSolid_intercalate {sep : Text} {l : List Text} (hl : l ≠ [])
    (h : ∀ t ∈ l, EndsSolid t) : EndsSolid (sep.intercalate l) := by
  induction l with
  | nil => exact absurd rfl hl
  | cons t l ih =>
    by_cases hnil : l = []
    · simpa [hnil] using h t List.mem_cons_self
    · rw [List.intercalate_cons_of_ne_nil hnil]
      exact (ih hnil fun u hu => h u (List.mem_cons_of_mem t hu)).append _

theorem strip_eq_trimStart (ht : EndsSolid t) : strip t = trimStart t := by
  obtain ⟨c, v, rfl, hc, -⟩ := ht
  refine trimEnd_eq_self fun d hd => ?_
  -- what is left of the text has its last character
  obtain ⟨x, hx⟩ := List.getLast?_eq_some_iff.1 hd
  obtain ⟨p, hp⟩ : trimStart (v ++ [c]) <:+ v ++ [c] := List.dropWhile_suffix _
  rw [hx, ← List.append_assoc] at hp
  obtain rfl : d = c := by simpa using List.append_inj_right' hp rfl
  exact hc

theorem strip_eq_trimEnd (hu : BeginsSolid u) : strip u = trimEnd u := by
  obtain ⟨c, v, rfl, hc, -⟩ := hu
  rw [strip, trimStart_eq_self (by simpa using hc)]

/-- The blanks between two texts are not stripped. -/
theorem strip_append_append (b : Text) (ht : EndsSolid t) (hu : BeginsSolid u) :
    strip (t ++ b ++ u) = strip t ++ b ++ strip u := by
  rw [strip_eq_trimStart ht, strip_eq_trimEnd hu]
  obtain ⟨c, v, rfl, hc, -⟩ := ht
  obtain ⟨d, w, rfl, hd, -⟩ := hu
  rw [strip, List.append_assoc, trimStart_append_of_exists ⟨c, by simp, hc⟩, ← List.append_assoc,
    trimEnd_append_of_exists ⟨d, by simp, hd⟩]

theorem strip_eq_self (hbegin : BeginsSolid t) (hend : EndsSolid t) : strip t = t := by
  rw [strip_eq_trimStart hend]
  obtain ⟨c, v, rfl, hc, -⟩ := hbegin
  exact trimStart_eq_self (by simpa using hc)

end Text

namespace UnionType

open Text

variable {b t u : Text}

theorem members_append_bar (t u : Text) : members (t ++ '|' :: u) = members t ++ members u := by
  rw [members, List.splitOn_append_cons_self, List.map_append]
  rfl

theorem members_of_notMem (h : '|' ∉ t) : members t = [strip t] := by
  rw [members, List.splitOn_eq_singleton h, List.map_singleton]

theorem bar_notMem_of_isBlank (hb : ∀ c ∈ b, isBlank c = true) : '|' ∉ b :=
  fun h => Bool.noConfusion ((hb '|' h).symm.trans (by decide : isBlank '|' = false))

theorem members_append_blank (hb : ∀ c ∈ b, isBlank c = true) (t : Text) :
    members (t ++ b) = members t := by
  have hbar := bar_notMem_of_isBlank hb
  induction t using induct_bar with
  | last t ht =>
    rw [members_of_notMem ht, members_of_notMem (by simp [ht, hbar]), strip_append_blank t hb]
  | bar t u ht ih =>
    rw [List.append_assoc, List.cons_append, members_append_bar, members_append_bar, ih]

theorem members_blank_append (hb : ∀ c ∈ b, isBlank c = true) (t : Text) :
    members (b ++ t) = members t := by
  have hbar := bar_notMem_of_isBlank hb
  induction t using induct_bar with
  | last t ht =>
    rw [members_of_notMem ht, members_of_notMem (by simp [ht, hbar]), strip_blank_append t hb]
  | bar t u ht ih =>
    rw [← List.append_assoc, members_append_bar, members_append_bar, members_of_notMem ht,
      members_of_notMem (by simp [ht, hbar]), strip_blank_append t hb]

/-- A bar between blanks separates members. -/
theorem members_append_spaced (t u : Text) :
    members (t ++ (" | ".toList ++ u)) = members t ++ members u := by
  have hsplit : t ++ (" | ".toList ++ u) = (t ++ [' ']) ++ '|' :: ([' '] ++ u) := by simp
  rw [hsplit, members_append_bar, members_append_blank isBlank_of_mem_space,
    members_blank_append isBlank_of_mem_space]

theorem members_ne_nil (t : Text) : members t ≠ [] := by
  simp [members]

/-- The members of texts with bars between them. -/
theorem members_intercalate {l : List Text} (h : l ≠ []) :
    members (" | ".toList.intercalate l) = l.flatMap members := by
  induction l with
  | nil => exact absurd rfl h
  | cons t l ih =>
    by_cases hl : l = []
    · simp [hl]
    · rw [List.intercalate_cons_of_ne_nil hl, List.append_assoc, members_append_spaced, ih hl,
        List.flatMap_cons]

/-! ### Texts without blanks around their bars -/

/-- A text without the blanks around its bars and at its ends. -/
def squeezed (t : Text) : Text :=
  ['|'].intercalate (members t)

/-- Lists may be put together one by one. -/
theorem intercalate_flatMap {α : Type} {sep : Text} {f : α → List Text} (hf : ∀ a, f a ≠ [])
    (l : List α) :
    sep.intercalate (l.flatMap f) = sep.intercalate (l.map fun a => sep.intercalate (f a)) := by
  induction l with
  | nil => rfl
  | cons a l ih =>
    by_cases hnil : l = []
    · simp [hnil]
    · have hne : l.flatMap f ≠ [] := by
        obtain ⟨c, l, rfl⟩ := List.exists_cons_of_ne_nil hnil
        simp [hf]
      rw [List.flatMap_cons, Text.intercalate_append (hf a) hne, ih, List.map_cons,
        List.intercalate_cons_of_ne_nil (by simpa using hnil)]

theorem squeezed_append_bar (t u : Text) :
    squeezed (t ++ '|' :: u) = squeezed t ++ '|' :: squeezed u := by
  rw [squeezed, members_append_bar, Text.intercalate_append (members_ne_nil t) (members_ne_nil u)]
  simp [squeezed]

theorem squeezed_of_notMem (h : '|' ∉ t) : squeezed t = strip t := by
  rw [squeezed, members_of_notMem h, List.intercalate_singleton]

/-- Texts that meet in solid characters are squeezed one by one. -/
theorem squeezed_append_append (hb : ∀ c ∈ b, isBlank c = true) (ht : EndsSolid t)
    (hu : BeginsSolid u) : squeezed (t ++ b ++ u) = squeezed t ++ b ++ squeezed u := by
  have hbar := bar_notMem_of_isBlank hb
  -- down to the last part of the first text and the first part of the second, where they meet
  induction t using induct_bar with
  | last t hnone =>
    induction u using induct_bar with
    | last u hnone' =>
      rw [squeezed_of_notMem hnone, squeezed_of_notMem hnone',
        squeezed_of_notMem (by simp [hnone, hbar, hnone']), strip_append_append b ht hu]
    | bar u v hnone' =>
      have hu : BeginsSolid u := hu.of_append_bar
      rw [← List.append_assoc, squeezed_append_bar, squeezed_append_bar, squeezed_of_notMem hnone,
        squeezed_of_notMem hnone', squeezed_of_notMem (by simp [hnone, hbar, hnone']),
        strip_append_append b ht hu, List.append_assoc]
  | bar t v hnone ih =>
    have hv : EndsSolid v := ht.of_append_bar
    rw [List.append_assoc, List.append_assoc, List.cons_append, squeezed_append_bar,
      squeezed_append_bar, ← List.append_assoc, ih hv]
    simp

theorem squeezed_append (ht : EndsSolid t) (hu : BeginsSolid u) :
    squeezed (t ++ u) = squeezed t ++ squeezed u := by
  have hnil := squeezed_append_append (b := []) (by simp) ht hu
  simpa using hnil

/-- A text without bars has nothing to squeeze. -/
theorem squeezed_eq_self (h : '|' ∉ t) (hbegin : BeginsSolid t) (hend : EndsSolid t) :
    squeezed t = t := by
  rw [squeezed_of_notMem h, strip_eq_self hbegin hend]

/-- A list with commas is squeezed element by element. -/
theorem squeezed_intercalate {l : List Text} (hbegin : ∀ t ∈ l, BeginsSolid t)
    (hend : ∀ t ∈ l, EndsSolid t) :
    squeezed (", ".toList.intercalate l) = ", ".toList.intercalate (l.map squeezed) := by
  induction l with
  | nil => decide
  | cons t l ih =>
    by_cases hnil : l = []
    · simp [hnil]
    · have hl := fun u hu => hbegin u (List.mem_cons_of_mem t hu)
      have hcomma : EndsSolid (t ++ [',']) := ⟨',', t, rfl, by decide, by decide⟩
      have hsplit : t ++ ", ".toList ++ ", ".toList.intercalate l =
          (t ++ [',']) ++ [' '] ++ ", ".toList.intercalate l := by simp
      rw [List.intercalate_cons_of_ne_nil hnil, hsplit,
        squeezed_append_append isBlank_of_mem_space hcomma (beginsSolid_intercalate hnil hl),
        squeezed_append (hend t List.mem_cons_self) ⟨',', [], rfl, by decide, by decide⟩,
        ih hl fun u hu => hend u (List.mem_cons_of_mem t hu), List.map_cons,
        List.intercalate_cons_of_ne_nil (by simpa using hnil)]
      rw [show squeezed [','] = [','] by decide]
      simp

/-- A list between two texts. -/
theorem squeezed_enclosed {before after : Text} {l : List Text} (hbefore : EndsSolid before)
    (hafter : BeginsSolid after) (hbegin : ∀ t ∈ l, BeginsSolid t) (hend : ∀ t ∈ l, EndsSolid t) :
    squeezed (before ++ ", ".toList.intercalate l ++ after) =
      squeezed before ++ ", ".toList.intercalate (l.map squeezed) ++ squeezed after := by
  by_cases hnil : l = []
  · simpa [hnil] using squeezed_append hbefore hafter
  · rw [squeezed_append ((endsSolid_intercalate hnil hend).append before) hafter,
      squeezed_append hbefore (beginsSolid_intercalate hnil hbegin),
      squeezed_intercalate hbegin hend]

/-- A union is squeezed member by member. -/
theorem squeezed_union {l : List Text} (h : l ≠ []) :
    squeezed (" | ".toList.intercalate l) = ['|'].intercalate (l.map squeezed) := by
  rw [squeezed, members_intercalate h, intercalate_flatMap members_ne_nil]
  rfl

end UnionType

end ShapeMapper
