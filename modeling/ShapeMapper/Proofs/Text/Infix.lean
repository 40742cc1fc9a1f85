import Mathlib.Data.List.Infix
import ShapeMapper.Text.Basic

/-!
# Occurrences

A text is cut at another one just if that occurs in it (`Text.isSome_cut?_iff`). What occurs in two
texts with a mark between them, and does not have that mark, occurs in one of the two
(`Text.infix_append_cons`).
-/

namespace ShapeMapper.Text

theorem isSome_after?_iff {head t : Text} : (after? head t).isSome = true ↔ head <+: t := by
  rw [Option.isSome_iff_exists]
  constructor
  · rintro ⟨rest, hrest⟩
    exact ⟨rest, (after?_eq_some_iff.1 hrest).symm⟩
  · rintro ⟨rest, hrest⟩
    exact ⟨rest, after?_eq_some_iff.2 hrest.symm⟩

theorem isSome_cut?_iff {sep t : Text} : (cut? sep t).isSome = true ↔ sep <:+: t := by
  induction t with
  | nil =>
    rw [cut?, Option.isSome_map, isSome_after?_iff, List.prefix_nil, List.infix_nil]
  | cons c t ih =>
    rw [cut?, List.infix_cons_iff, ← isSome_after?_iff, ← ih]
    cases after? sep (c :: t) with
    | some rest => simp
    | none => simp

/-- What does not have the mark behind a text does not begin there and reach over it. -/
theorem prefix_of_append_cons {t u v : Text} {c : Char} (hc : c ∉ t) (h : t <+: u ++ c :: v) :
    t <+: u := by
  rcases List.prefix_or_prefix_of_prefix h (List.prefix_append u (c :: v)) with h' | ⟨w, rfl⟩
  · exact h'
  · cases w with
    | nil => rw [List.append_nil]
    | cons d w =>
      obtain rfl : d = c := (List.cons_prefix_cons.1 ((List.prefix_append_right_inj u).1 h)).1
      exact absurd (List.mem_append_right u List.mem_cons_self) hc

/-- What does not have the mark between two texts does not reach over it. -/
theorem infix_append_cons {t u v : Text} {c : Char} (hc : c ∉ t) (h : t <:+: u ++ c :: v) :
    t <:+: u ∨ t <:+: v := by
  rcases List.infix_append_iff.1 h with h | h | ⟨x, y, rfl, hx, hy⟩
  · exact .inl h
  · rcases List.infix_cons_iff.1 h with h | h
    · cases t with
      | nil => exact .inl List.nil_infix
      | cons d t =>
        obtain rfl : d = c := (List.cons_prefix_cons.1 h).1
        exact absurd List.mem_cons_self hc
    · exact .inr h
  · cases y with
    | nil =>
      rw [List.append_nil]
      exact .inl hx.isInfix
    | cons d y =>
      obtain rfl : d = c := (List.cons_prefix_cons.1 hy).1
      exact absurd (List.mem_append_right x List.mem_cons_self) hc

/-- The same for a list of texts with marks between them. -/
theorem exists_infix_of_intercalate {t : Text} {c : Char} {l : List Text} (hne : t ≠ [])
    (hc : c ∉ t) (h : t <:+: [c].intercalate l) : ∃ u ∈ l, t <:+: u := by
  induction l with
  | nil => exact absurd (List.infix_nil.1 h) hne
  | cons u l ih =>
    by_cases hnil : l = []
    · rw [hnil, List.intercalate_singleton] at h
      exact ⟨u, List.mem_cons_self, h⟩
    · rw [List.intercalate_cons_of_ne_nil hnil, List.append_assoc, List.singleton_append] at h
      rcases infix_append_cons hc h with h | h
      · exact ⟨u, List.mem_cons_self, h⟩
      · obtain ⟨v, hv, h⟩ := ih h
        exact ⟨v, List.mem_cons_of_mem u hv, h⟩

/-- Each of the texts occurs in all of them put together. -/
theorem infix_intercalate {t sep : Text} {l : List Text} (h : t ∈ l) :
    t <:+: sep.intercalate l := by
  induction l with
  | nil => cases h
  | cons u l ih =>
    by_cases hnil : l = []
    · obtain rfl : t = u := by simpa [hnil] using h
      rw [hnil, List.intercalate_singleton]
    · rw [List.intercalate_cons_of_ne_nil hnil, List.append_assoc]
      rcases List.mem_cons.1 h with rfl | h
      · exact (List.prefix_append _ _).isInfix
      · exact (ih h).trans ((List.suffix_append _ _).trans (List.suffix_append _ _)).isInfix

/-- Each of them with the mark in front, if there is one more mark in front of all of them. -/
theorem cons_infix_intercalate {t : Text} {c : Char} {l : List Text} (h : t ∈ l) :
    c :: t <:+: c :: [c].intercalate l := by
  induction l with
  | nil => cases h
  | cons u l ih =>
    by_cases hnil : l = []
    · obtain rfl : t = u := by simpa [hnil] using h
      rw [hnil, List.intercalate_singleton]
    · rw [List.intercalate_cons_of_ne_nil hnil, List.append_assoc, List.singleton_append,
        ← List.cons_append]
      rcases List.mem_cons.1 h with rfl | h
      · exact (List.prefix_append _ _).isInfix
      · exact (ih h).trans (List.suffix_append _ _).isInfix

/-- A mark that a text does not hold stands behind it. -/
theorem exists_append_of_notMem {t u v w : Text} {c : Char} (hc : c ∉ t)
    (h : t ++ u = v ++ c :: w) : ∃ x, u = x ++ c :: w := by
  rcases List.append_eq_append_iff.1 h with ⟨x, -, hu⟩ | ⟨x, ht, hw⟩
  · exact ⟨x, hu⟩
  · cases x with
    | nil => exact ⟨[], hw.symm⟩
    | cons d x =>
      rw [← (List.cons.inj hw).1] at ht
      exact absurd (by simp [ht]) hc

theorem trimEnd_isPrefix (t : Text) : trimEnd t <+: t := by
  have hsuffix : t.reverse.dropWhile isBlank <:+ t.reverse := List.dropWhile_suffix _
  rw [← List.reverse_prefix, List.reverse_reverse] at hsuffix
  exact hsuffix

theorem strip_isInfix (t : Text) : strip t <:+: t :=
  (trimEnd_isPrefix _).isInfix.trans (List.dropWhile_suffix _).isInfix

/-- What is stripped off a text are blanks. -/
theorem exists_append_strip (t : Text) : ∃ b b', t = b ++ (strip t ++ b') ∧
    (∀ c ∈ b, isBlank c = true) ∧ ∀ c ∈ b', isBlank c = true := by
  refine ⟨t.takeWhile isBlank, ((trimStart t).reverse.takeWhile isBlank).reverse, ?_,
    fun c hc => List.all_eq_true.1 List.all_takeWhile c hc,
    fun c hc => List.all_eq_true.1 List.all_takeWhile c (List.mem_reverse.1 hc)⟩
  rw [strip, trimEnd, ← List.reverse_append, List.takeWhile_append_dropWhile, List.reverse_reverse,
    trimStart, List.takeWhile_append_dropWhile]

end ShapeMapper.Text
