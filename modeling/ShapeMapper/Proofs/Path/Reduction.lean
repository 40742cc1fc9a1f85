import ShapeMapper.FileTree

/-!
# Reduction of paths

Only the segments that move matter to where a path leads (`moves`). Reduction reads them onto a
stack, and a text of reduced segments is read back as those segments, so that

* `reduce_reduce_append`, `reduce_append_reduce`: a part of a path may be reduced beforehand;
* `moves_normalize`: the normal form of a path has the reduced segments of the path;
* `ofPath_append_normalize`: a path and its normal form lead to the same place.
-/

namespace ShapeMapper.Path

/-- Whether a path starts at the root. -/
def Rooted (p : Text) : Prop := p.head? = some '/'

instance (p : Text) : Decidable (Rooted p) := inferInstanceAs (Decidable (p.head? = some '/'))

/-- A segment that goes one step down. -/
structure IsName (s : Text) : Prop where
  ne_nil : s ≠ []
  ne_here : s ≠ here
  ne_up : s ≠ up

/-- The segments of a path that are not idle. -/
def moves (p : Text) : List Text := (segments p).filter fun s => s ≠ [] ∧ s ≠ here

/-! ### Segments -/

theorem segments_append_slash (p q : Text) :
    segments (p ++ '/' :: q) = segments p ++ segments q :=
  List.splitOn_append_cons_self p q

theorem segments_of_slash_notMem {p : Text} (h : '/' ∉ p) : segments p = [p] :=
  List.splitOn_eq_singleton h

theorem slash_notMem_of_mem_segments {p s : Text} (h : s ∈ segments p) : '/' ∉ s := by
  induction p generalizing s with
  | nil => simp_all [segments]
  | cons c p ih =>
    rw [segments, List.splitOn_cons_eq_if_modifyHead] at h
    obtain ⟨t, l, hl⟩ := List.exists_cons_of_ne_nil (List.splitOn_ne_nil '/' p)
    have ht : '/' ∉ t := ih (by rw [segments, hl]; simp)
    split at h
    · rcases List.mem_cons.1 h with rfl | h
      · simp
      · exact ih h
    · next hc =>
      rw [hl, List.modifyHead_cons] at h
      rcases List.mem_cons.1 h with rfl | h
      · rw [List.mem_cons, not_or]
        exact ⟨fun hs => hc (beq_iff_eq.2 hs.symm), ht⟩
      · exact ih (by rw [segments, hl]; simp [h])

theorem joined_segments (p : Text) : joined (segments p) = p := List.intercalate_splitOn '/'

theorem segments_joined {l : List Text} (hl : l ≠ []) (h : ∀ s ∈ l, '/' ∉ s) :
    segments (joined l) = l :=
  List.splitOn_intercalate '/' h hl

theorem mem_of_mem_joined {l : List Text} {c : Char} (h : c ∈ joined l) :
    c = '/' ∨ ∃ s ∈ l, c ∈ s := by
  induction l with
  | nil => simp [joined] at h
  | cons s l ih =>
    cases l with
    | nil => exact .inr ⟨s, by simp, by simpa [joined] using h⟩
    | cons t l =>
      rw [joined, List.intercalate_cons_cons, List.mem_append, List.mem_append] at h
      rcases h with (h | h) | h
      · exact .inr ⟨s, by simp, h⟩
      · exact .inl (by simpa using h)
      · rcases ih h with h | ⟨u, hu, hc⟩
        · exact .inl h
        · exact .inr ⟨u, by simp [hu], hc⟩

theorem mem_joined {l : List Text} {s : Text} {c : Char} (hs : s ∈ l) (hc : c ∈ s) :
    c ∈ joined l := by
  induction l with
  | nil => simp at hs
  | cons t l ih =>
    cases l with
    | nil =>
      obtain rfl := List.mem_singleton.1 hs
      simpa [joined] using hc
    | cons u l =>
      rw [joined, List.intercalate_cons_cons, List.mem_append, List.mem_append]
      rcases List.mem_cons.1 hs with rfl | hs
      · exact .inl (.inl hc)
      · exact .inr (ih hs)

/-! ### Moves -/

theorem mem_moves {p s : Text} : s ∈ moves p ↔ s ∈ segments p ∧ s ≠ [] ∧ s ≠ here := by
  simp [moves]

theorem mem_of_mem_moves {p s : Text} {c : Char} (hs : s ∈ moves p) (hc : c ∈ s) : c ∈ p := by
  rw [← joined_segments p]
  exact mem_joined (mem_moves.1 hs).1 hc

@[simp] theorem moves_nil : moves [] = [] := by decide

@[simp] theorem moves_here : moves here = [] := by decide

theorem moves_append_slash (p q : Text) : moves (p ++ '/' :: q) = moves p ++ moves q := by
  rw [moves, segments_append_slash, List.filter_append]
  rfl

@[simp] theorem moves_slash_cons (p : Text) : moves ('/' :: p) = moves p := by
  simpa using moves_append_slash [] p

@[simp] theorem moves_append_replicate (p : Text) (n : Nat) :
    moves (p ++ List.replicate n '/') = moves p := by
  induction n with
  | zero => simp
  | succ n ih =>
    rw [List.replicate_succ', ← List.append_assoc, moves_append_slash, ih, moves_nil,
      List.append_nil]

theorem moves_root_append (p q : Text) : moves (root p ++ q) = moves q := by
  unfold root
  split <;> simp

theorem moves_joined {l : List Text} (h : ∀ s ∈ l, s ≠ [] ∧ s ≠ here ∧ '/' ∉ s) :
    moves (joined l) = l := by
  by_cases hl : l = []
  · subst hl; rfl
  · rw [moves, segments_joined hl fun s hs => (h s hs).2.2, List.filter_eq_self]
    intro s hs
    simpa using ⟨(h s hs).1, (h s hs).2.1⟩

theorem moves_of_isName {s : Text} (h : IsName s) (hs : '/' ∉ s) : moves s = [s] := by
  simp [moves, segments_of_slash_notMem hs, h.ne_nil, h.ne_here]

/-! ### Reduction -/

theorem push_of_isName {s : Text} (h : IsName s) (rooted : Bool) (stack : List Text) :
    push rooted stack s = s :: stack := by
  simp [push, h.ne_nil, h.ne_here, h.ne_up]

theorem push_up_cons {s : Text} (h : s ≠ up) (rooted : Bool) (stack : List Text) :
    push rooted (s :: stack) up = stack := by
  unfold push
  rw [if_neg (by decide), if_pos rfl]
  exact if_neg h

theorem foldl_push_filter (rooted : Bool) (l stack : List Text) :
    (l.filter fun s => s ≠ [] ∧ s ≠ here).foldl (push rooted) stack =
      l.foldl (push rooted) stack := by
  induction l generalizing stack with
  | nil => rfl
  | cons s l ih =>
    by_cases hs : s = [] ∨ s = here
    · have hpush : push rooted stack s = stack := by unfold push; rw [if_pos hs]
      rw [List.filter_cons_of_neg (by simpa using fun h => hs.resolve_left h), ih,
        List.foldl_cons, hpush]
    · rw [List.filter_cons_of_pos (by simpa using hs), List.foldl_cons, List.foldl_cons, ih]

/-- The idle segments do not matter to reduction. -/
theorem reduce_segments (rooted : Bool) (p : Text) :
    reduce rooted (segments p) = reduce rooted (moves p) := by
  rw [reduce, reduce, moves, foldl_push_filter]

theorem foldl_push_isName {l : List Text} (h : ∀ s ∈ l, IsName s) (rooted : Bool)
    (stack : List Text) : l.foldl (push rooted) stack = l.reverse ++ stack := by
  induction l generalizing stack with
  | nil => rfl
  | cons s l ih =>
    rw [List.foldl_cons, push_of_isName (h s (by simp)),
      ih (fun t ht => h t (by simp [ht]))]
    simp

theorem mem_of_mem_push {rooted : Bool} {stack : List Text} {s t : Text}
    (h : t ∈ push rooted stack s) : t ∈ stack ∨ t = s ∧ s ≠ [] ∧ s ≠ here := by
  unfold push at h
  split at h
  · exact .inl h
  · next hs =>
    rw [not_or] at hs
    split at h
    · next hup => subst hup; grind
    · grind

/-- The segments of a reduction are moves of what was reduced. -/
theorem mem_of_mem_foldl_push {rooted : Bool} {l stack : List Text} {t : Text}
    (h : t ∈ l.foldl (push rooted) stack) : t ∈ stack ∨ t ∈ l ∧ t ≠ [] ∧ t ≠ here := by
  induction l generalizing stack with
  | nil => exact .inl h
  | cons s l ih =>
    rcases ih h with h | h
    · rcases mem_of_mem_push h with h | ⟨rfl, h⟩
      · exact .inl h
      · exact .inr ⟨by simp, h⟩
    · exact .inr ⟨by simp [h.1], h.2⟩

theorem mem_of_mem_reduce {rooted : Bool} {l : List Text} {t : Text} (h : t ∈ reduce rooted l) :
    t ∈ l ∧ t ≠ [] ∧ t ≠ here := by
  simpa using mem_of_mem_foldl_push (List.mem_reverse.1 h)

/-- At the root nothing goes up any more. -/
theorem up_notMem_foldl_push {l stack : List Text} (h : up ∉ stack) :
    up ∉ l.foldl (push true) stack := by
  induction l generalizing stack with
  | nil => exact h
  | cons s l ih =>
    refine ih ?_
    unfold push
    grind

theorem isName_of_mem_reduce {l : List Text} {t : Text} (h : t ∈ reduce true l) : IsName t :=
  have ht := mem_of_mem_reduce h
  ⟨ht.2.1, ht.2.2, fun hup =>
    up_notMem_foldl_push (l := l) (List.not_mem_nil) (hup ▸ List.mem_reverse.1 h)⟩

theorem slash_notMem_of_mem_reduce {rooted : Bool} {p t : Text}
    (h : t ∈ reduce rooted (segments p)) : '/' ∉ t :=
  slash_notMem_of_mem_segments (mem_of_mem_reduce h).1

/-- The beginning of a path may be reduced beforehand. -/
theorem reduce_reduce_append (a b : List Text) :
    reduce true (reduce true a ++ b) = reduce true (a ++ b) := by
  rw [reduce, List.foldl_append, foldl_push_isName fun s hs => isName_of_mem_reduce hs, reduce,
    List.reverse_reverse, List.append_nil, ← List.foldl_append]
  rfl

/-- A segment read at the root after those that a path without root leaves. -/
theorem foldl_push_push {stack below : List Text} {s : Text}
    (h : ∀ t ∈ below, t ≠ [] ∧ t ≠ here) :
    (push false below s).reverse.foldl (push true) stack =
      push true (below.reverse.foldl (push true) stack) s := by
  by_cases hidle : s = [] ∨ s = here
  · simp only [push, if_pos hidle]
  · by_cases hup : s = up
    · subst hup
      cases below with
      | nil => simp only [push, if_neg hidle]; rfl
      | cons t below =>
        by_cases ht : t = up
        · simp [push, hidle, ht]
        · -- the step down that `..` takes back is the last one read
          have hname : IsName t := ⟨(h t (by simp)).1, (h t (by simp)).2, ht⟩
          rw [push_up_cons ht, List.reverse_cons, List.foldl_append, List.foldl_cons,
            push_of_isName hname, List.foldl_nil, push_up_cons ht]
    · simp [push, hidle, hup]

theorem foldl_push_foldl_push {stack below l : List Text} (h : ∀ t ∈ below, t ≠ [] ∧ t ≠ here) :
    (l.foldl (push false) below).reverse.foldl (push true) stack =
      l.foldl (push true) (below.reverse.foldl (push true) stack) := by
  induction l generalizing below with
  | nil => rfl
  | cons s l ih =>
    rw [List.foldl_cons, ih, foldl_push_push h, List.foldl_cons]
    intro t ht
    rcases mem_of_mem_push ht with ht | ⟨rfl, ht⟩
    · exact h t ht
    · exact ht

/-- The end of a path may be reduced beforehand, with the leading `..` kept. -/
theorem reduce_append_reduce (a b : List Text) :
    reduce true (a ++ reduce false b) = reduce true (a ++ b) := by
  rw [reduce, List.foldl_append, reduce, foldl_push_foldl_push (by simp), reduce,
    List.foldl_append]
  rfl

/-! ### Normal forms -/

theorem root_ne_nil_iff {p : Text} : root p ≠ [] ↔ Rooted p := by
  unfold root Rooted
  split <;> simp_all
  rename_i hslash
  cases p with
  | nil => simp
  | cons c p => simpa using fun hc => hslash p (by rw [hc])

theorem normalize_of_rooted {p : Text} (h : Rooted p) :
    normalize p = root p ++ joined (reduce true (moves p)) := by
  have hr : root p ≠ [] := root_ne_nil_iff.2 h
  simp [normalize, hr, reduce_segments]

/-- A normal form moves as the reduction of its path does. -/
theorem moves_normalize (p : Text) : moves (normalize p) = reduce (root p ≠ []) (moves p) := by
  have hred : moves (joined (reduce (root p ≠ []) (segments p))) =
      reduce (root p ≠ []) (segments p) :=
    moves_joined fun s hs =>
      ⟨(mem_of_mem_reduce hs).2.1, (mem_of_mem_reduce hs).2.2, slash_notMem_of_mem_reduce hs⟩
  rw [← reduce_segments, normalize]
  split
  · next h =>
    rw [List.append_eq_nil_iff] at h
    rw [← hred, h.2]
    simp
  · rw [moves_root_append, hred]

theorem rooted_of_root_append {p q : Text} (h : Rooted p) : Rooted (root p ++ q) := by
  have hroot := root_ne_nil_iff.2 h
  unfold root at hroot ⊢
  split at hroot <;> simp_all [Rooted]

theorem not_rooted_joined {l : List Text} (h : ∀ s ∈ l, s ≠ [] ∧ '/' ∉ s) :
    ¬Rooted (joined l) := by
  cases l with
  | nil => decide
  | cons s l =>
    obtain ⟨c, s, rfl⟩ := List.exists_cons_of_ne_nil (h s (by simp)).1
    simp only [Rooted, joined, List.intercalate_cons_cons_left, List.head?_cons, Option.some.injEq]
    rintro rfl
    exact (h _ List.mem_cons_self).2 List.mem_cons_self

theorem rooted_normalize_iff {p : Text} : Rooted (normalize p) ↔ Rooted p := by
  by_cases hp : Rooted p
  · exact iff_of_true (normalize_of_rooted hp ▸ rooted_of_root_append hp) hp
  · refine iff_of_false ?_ hp
    have hr : root p = [] := by simpa [hp] using (root_ne_nil_iff (p := p))
    simp only [normalize, hr, List.nil_append]
    split
    · decide
    · exact not_rooted_joined fun s hs =>
        ⟨(mem_of_mem_reduce hs).2.1, slash_notMem_of_mem_reduce hs⟩

theorem ofPath_eq_reduce_moves (p : Text) : Location.ofPath p = reduce true (moves p) :=
  reduce_segments true p

theorem append_of_rooted {base p : Text} (h : Rooted p) : append base p = p := if_pos h

theorem moves_append {base p : Text} (h : ¬Rooted p) :
    moves (append base p) = moves base ++ moves p := by
  unfold append
  rw [if_neg (show ¬p.head? = some '/' from h)]
  split
  · next hbase =>
    rcases hbase with rfl | hbase
    · simp
    · obtain ⟨b, rfl⟩ : ∃ b, base = b ++ ['/'] := List.getLast?_eq_some_iff.1 hbase
      rw [List.append_assoc, List.singleton_append, moves_append_slash, moves_append_slash]
      simp
  · exact moves_append_slash base p

theorem rooted_append {base : Text} (h : Rooted base) (p : Text) : Rooted (append base p) := by
  unfold append
  obtain ⟨c, base, rfl⟩ : ∃ c b, base = c :: b := by
    cases base with
    | nil => simp [Rooted] at h
    | cons c b => exact ⟨c, b, rfl⟩
  split
  · assumption
  · split <;> simpa [Rooted] using h

/-- A path and its normal form lead to the same place. -/
theorem ofPath_append_normalize (cwd p : Text) :
    Location.ofPath (append cwd (normalize p)) = Location.ofPath (append cwd p) := by
  simp only [ofPath_eq_reduce_moves]
  by_cases hp : Rooted p
  · rw [append_of_rooted hp, append_of_rooted (rooted_normalize_iff.2 hp), moves_normalize,
      decide_eq_true (root_ne_nil_iff.2 hp)]
    simpa using reduce_reduce_append (moves p) []
  · have hr : root p = [] := by simpa [hp] using (root_ne_nil_iff (p := p))
    rw [moves_append hp, moves_append (mt rooted_normalize_iff.1 hp), moves_normalize, hr]
    exact reduce_append_reduce (moves cwd) (moves p)

/-! ### Tidy paths -/

theorem segments_joined_moves (p : Text) :
    segments (joined (moves p)) = if moves p = [] then [[]] else moves p := by
  split
  · next h => rw [h]; rfl
  · next h => exact segments_joined h fun s hs => slash_notMem_of_mem_segments (mem_moves.1 hs).1

theorem joined_moves_eq_nil_iff {p : Text} : joined (moves p) = [] ↔ moves p = [] := by
  refine ⟨fun hnil => List.eq_nil_iff_forall_not_mem.2 fun s hs => ?_, fun h => by rw [h]; rfl⟩
  have hmem := mem_joined hs (List.head_mem (mem_moves.1 hs).2.1)
  simp [hnil] at hmem

theorem tidy_of_rooted {p : Text} (h : Rooted p) : tidy p = root p ++ joined (moves p) :=
  if_neg fun hnil => root_ne_nil_iff.2 h (List.append_eq_nil_iff.1 hnil).1

theorem tidy_of_not_rooted {p : Text} (h : ¬Rooted p) :
    tidy p = if moves p = [] then here else joined (moves p) := by
  have hroot : root p = [] := by simpa [h] using (root_ne_nil_iff (p := p))
  simp only [← joined_moves_eq_nil_iff]
  rw [tidy, hroot]
  rfl

theorem segments_tidy_of_not_rooted {p : Text} (h : ¬Rooted p) :
    segments (tidy p) = if moves p = [] then [here] else moves p := by
  rw [tidy_of_not_rooted h]
  split
  · rfl
  · next hmoves => rw [segments_joined_moves, if_neg hmoves]

theorem tidy_ne_nil (p : Text) : tidy p ≠ [] := by
  unfold tidy
  simp only
  split
  · decide
  · assumption

theorem rooted_tidy_iff {p : Text} : Rooted (tidy p) ↔ Rooted p := by
  by_cases hp : Rooted p
  · exact iff_of_true (tidy_of_rooted hp ▸ rooted_of_root_append hp) hp
  · refine iff_of_false ?_ hp
    rw [tidy_of_not_rooted hp]
    split
    · decide
    · exact not_rooted_joined fun s hs =>
        ⟨(mem_moves.1 hs).2.1, slash_notMem_of_mem_segments (mem_moves.1 hs).1⟩

end ShapeMapper.Path
