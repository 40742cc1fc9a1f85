import ShapeMapper.Proofs.Text.Infix
import ShapeMapper.Proofs.Text.Name

/-!
# The beginnings of lines

Which lines of a text begin with a given character is told from its parts: no line of two texts
put together does if none does in either (`NoLineBegins.append`), and a single line, with or without
its end, begins as it does (`IsOneLine.noLineBegins`).
-/

namespace ShapeMapper.Text

/-- Whether no line of a text begins with the given character. -/
def NoLineBegins (c : Char) (t : Text) : Prop :=
  ¬['\n', c] <:+: '\n' :: t

instance (c : Char) (t : Text) : Decidable (NoLineBegins c t) :=
  inferInstanceAs (Decidable ¬_)

/-- Whether a text is one line, with or without its end. -/
def IsOneLine (t : Text) : Prop :=
  '\n' ∉ t.dropLast

variable {c : Char} {t u : Text}

/-! ### Single lines -/

theorem newline_notMem_of_isNameChar (h : ∀ d ∈ t, isNameChar d = true) : '\n' ∉ t := by
  intro hmem
  have hline : isNameChar '\n' = false := by decide
  exact Bool.noConfusion ((h _ hmem).symm.trans hline)

theorem isOneLine_of_notMem (h : '\n' ∉ t) : IsOneLine t :=
  fun hmem => h (List.dropLast_subset t hmem)

theorem IsOneLine.append (hu : '\n' ∉ u) (ht : IsOneLine t) : IsOneLine (u ++ t) := by
  by_cases hnil : t = []
  · rw [hnil, List.append_nil]
    exact isOneLine_of_notMem hu
  · rw [IsOneLine, List.dropLast_append_of_ne_nil hnil, List.mem_append]
    exact fun h => h.elim hu ht

theorem isOneLine_append_newline (h : '\n' ∉ t) : IsOneLine (t ++ ['\n']) := by
  rwa [IsOneLine, List.dropLast_concat]

/-- A single line begins with its first character. -/
theorem IsOneLine.noLineBegins (h : IsOneLine t) (hhead : ∀ d ∈ t.head?, d ≠ c) :
    NoLineBegins c t := by
  intro hinside
  rcases List.infix_cons_iff.1 hinside with hbegins | ⟨u, v, rfl⟩
  · obtain ⟨v, rfl⟩ := (List.cons_prefix_cons.1 hbegins).2
    exact hhead c rfl rfl
  · -- the line feed has a character behind it, so it does not end the text
    refine h ?_
    have hend : u ++ ['\n', c] ++ v = (u ++ ['\n']) ++ (c :: v) := by simp
    rw [hend, List.dropLast_append_of_ne_nil (List.cons_ne_nil c v)]
    simp

/-- A line that is known to begin with some text other than the empty one. -/
theorem IsOneLine.noLineBegins_append (ht : IsOneLine t) (hu : '\n' ∉ u)
    (hhead : u.head?.any (· ≠ c) = true) : NoLineBegins c (u ++ t) := by
  refine (ht.append hu).noLineBegins fun d hd => ?_
  cases u with
  | nil => cases hhead
  | cons e u =>
    cases hd
    simpa using hhead

/-! ### Several lines -/

theorem NoLineBegins.head?_ne (h : NoLineBegins c t) {line : Text} (hline : line ∈ t.splitOn '\n') :
    line.head? ≠ some c := by
  intro hhead
  have hinside : '\n' :: line <:+: '\n' :: t := by
    have hlines := cons_infix_intercalate (c := '\n') hline
    rwa [List.intercalate_splitOn] at hlines
  cases line with
  | nil => cases hhead
  | cons d line =>
    obtain rfl := Option.some.inj hhead
    exact h ((List.prefix_append ['\n', d] line).isInfix.trans hinside)

theorem NoLineBegins.append (ht : NoLineBegins c t) (hu : NoLineBegins c u) :
    NoLineBegins c (t ++ u) := by
  intro h
  rw [← List.cons_append] at h
  rcases List.infix_append_iff.1 h with h | h | ⟨x, y, hxy, hx, hy⟩
  · exact ht h
  · exact hu (List.infix_cons h)
  · -- the two characters may stand on either side of where the texts meet
    match x with
    | [] => exact hu (List.infix_cons (hxy ▸ hy.isInfix))
    | [d] =>
      obtain ⟨-, rfl⟩ := List.cons.inj hxy
      exact hu ((List.cons_prefix_cons.2 ⟨rfl, hy⟩).isInfix)
    | d :: d' :: x =>
      simp only [List.cons_append, List.cons.injEq, List.nil_eq, List.append_eq_nil_iff] at hxy
      obtain ⟨rfl, rfl, rfl, -⟩ := hxy
      exact ht hx.isInfix

theorem NoLineBegins.flatMap {α : Type} {f : α → Text} {l : List α}
    (h : ∀ a ∈ l, NoLineBegins c (f a)) : NoLineBegins c (l.flatMap f) := by
  induction l with
  | nil => exact IsOneLine.noLineBegins (by simp [IsOneLine]) (by simp)
  | cons a l ih =>
    rw [List.flatMap_cons]
    exact (h a List.mem_cons_self).append (ih fun b hb => h b (List.mem_cons_of_mem a hb))

end ShapeMapper.Text
