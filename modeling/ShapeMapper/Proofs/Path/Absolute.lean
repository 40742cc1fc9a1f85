import ShapeMapper.Proofs.Path.Reduction

/-!
# Absolute paths

The normal form of a rooted path is made of names below its root (`isAbsolute_normalize`). Such a
path is its own normal form, and it is the same from every directory (`IsAbsolute.absolute_eq`).
-/

namespace ShapeMapper.Path

/-- A rooted path in normal form: names, one below the other, below one slash or two. -/
def IsAbsolute (p : Text) : Prop :=
  ∃ names : List Text, (∀ s ∈ names, IsName s ∧ '/' ∉ s) ∧
    (p = '/' :: joined names ∨ p = '/' :: '/' :: joined names)

variable {p : Text}

theorem root_cases (h : Rooted p) : root p = ['/'] ∨ root p = ['/', '/'] := by
  have hne := root_ne_nil_iff.2 h
  unfold root at hne ⊢
  split at hne <;> simp_all

/-- Only the slashes at the start of a path are its root. -/
theorem root_slash_cons (h : ¬Rooted p) :
    root ('/' :: p) = ['/'] ∧ root ('/' :: '/' :: p) = ['/', '/'] := by
  cases p with
  | nil => exact ⟨rfl, rfl⟩
  | cons c p =>
    have hc : c ≠ '/' := fun hc => h (congrArg some hc)
    simp [root, hc]

theorem isAbsolute_normalize (h : Rooted p) : IsAbsolute (normalize p) := by
  have hnames : ∀ s ∈ reduce true (moves p), IsName s ∧ '/' ∉ s := fun s hs =>
    ⟨isName_of_mem_reduce hs, slash_notMem_of_mem_segments (mem_moves.1 (mem_of_mem_reduce hs).1).1⟩
  refine ⟨reduce true (moves p), hnames, ?_⟩
  rw [normalize_of_rooted h]
  rcases root_cases h with hroot | hroot
  · exact .inl (by rw [hroot]; rfl)
  · exact .inr (by rw [hroot]; rfl)

theorem IsAbsolute.rooted (h : IsAbsolute p) : Rooted p := by
  obtain ⟨names, -, rfl | rfl⟩ := h
  · rfl
  · rfl

/-- What has nothing to take back and nothing idle is its own normal form. -/
theorem IsAbsolute.normalize_eq (h : IsAbsolute p) : normalize p = p := by
  have hrooted := h.rooted
  obtain ⟨names, hnames, hp⟩ := h
  have hreduced : reduce true names = names := by
    rw [reduce, foldl_push_isName (fun s hs => (hnames s hs).1), List.append_nil,
      List.reverse_reverse]
  have hmoves : moves (joined names) = names := moves_joined fun s hs =>
    ⟨(hnames s hs).1.ne_nil, (hnames s hs).1.ne_here, (hnames s hs).2⟩
  have hbelow : ¬Rooted (joined names) :=
    not_rooted_joined fun s hs => ⟨(hnames s hs).1.ne_nil, (hnames s hs).2⟩
  rw [normalize_of_rooted hrooted]
  obtain ⟨hone, htwo⟩ := root_slash_cons hbelow
  rcases hp with rfl | rfl
  · rw [hone, moves_slash_cons, hmoves, hreduced]
    rfl
  · rw [htwo, moves_slash_cons, moves_slash_cons, hmoves, hreduced]
    rfl

/-- From no directory is it another one. -/
theorem IsAbsolute.absolute_eq (h : IsAbsolute p) (base : Text) : absolute base p = p := by
  rw [absolute, append_of_rooted h.rooted, h.normalize_eq]

theorem isAbsolute_absolute {base : Text} (h : Rooted base) (p : Text) :
    IsAbsolute (absolute base p) :=
  isAbsolute_normalize (rooted_append h p)

end ShapeMapper.Path
