import Mathlib.Data.List.TakeWhile
import ShapeMapper.Proofs.Path.Reduction

/-!
# Paths written inside files

A path is its directory, some slashes and its last segment. From this the place that a relative
path names inside a file depends on the place of the file only, however the file itself is named:
`ofPath_beside_congr`.
-/

namespace ShapeMapper.Path

/-- The beginning of a path up to its last slash. -/
def head (p : Text) : Text := (p.reverse.dropWhile (· ≠ '/')).reverse

theorem directory_eq_ite (p : Text) : directory p =
    if (head p).all (· == '/') then head p
    else ((head p).reverse.dropWhile (· == '/')).reverse := rfl

theorem head_append_fileName (p : Text) : head p ++ fileName p = p := by
  rw [head, fileName, ← List.reverse_append, List.takeWhile_append_dropWhile, List.reverse_reverse]

theorem slash_notMem_fileName (p : Text) : '/' ∉ fileName p := by
  intro h
  have := List.mem_takeWhile_imp (List.mem_reverse.1 h)
  simp at this

theorem head_eq_nil_or (p : Text) : head p = [] ∨ ∃ h, head p = h ++ ['/'] := by
  unfold head
  cases hd : p.reverse.dropWhile (· ≠ '/') with
  | nil => exact .inl rfl
  | cons c t =>
    have hc := List.head?_dropWhile_not (· ≠ '/') p.reverse
    rw [hd] at hc
    have hslash : c = '/' := by simpa using hc
    exact .inr ⟨t.reverse, by rw [hslash, List.reverse_cons]⟩

/-- The directory is the beginning up to the last slash, less some slashes. -/
theorem exists_head_eq (p : Text) : ∃ n, head p = directory p ++ List.replicate n '/' := by
  by_cases hall : (head p).all (· == '/')
  · exact ⟨0, by rw [directory_eq_ite, if_pos hall, List.replicate_zero, List.append_nil]⟩
  · refine ⟨((head p).reverse.takeWhile (· == '/')).length, ?_⟩
    have hslash : (head p).reverse.takeWhile (· == '/') =
        List.replicate ((head p).reverse.takeWhile (· == '/')).length '/' := by
      refine List.eq_replicate_of_mem fun c hc => ?_
      simpa using List.mem_takeWhile_imp hc
    rw [directory_eq_ite, if_neg hall, ← List.reverse_replicate, ← hslash, ← List.reverse_append,
      List.takeWhile_append_dropWhile, List.reverse_reverse]

theorem directory_eq_nil_of_head {p : Text} (h : head p = []) : directory p = [] := by
  obtain ⟨n, hn⟩ := exists_head_eq p
  rw [h] at hn
  exact (List.append_eq_nil_iff.1 hn.symm).1

theorem directory_ne_nil_of_head {p : Text} (h : head p ≠ []) : directory p ≠ [] := by
  intro hdir
  by_cases hall : (head p).all (· == '/')
  · rw [directory_eq_ite, if_pos hall] at hdir
    exact h hdir
  · -- a beginning of slashes only is a directory itself
    obtain ⟨n, hn⟩ := exists_head_eq p
    rw [hdir, List.nil_append] at hn
    simp [hn] at hall

theorem moves_directory (p : Text) : moves (directory p) = moves (head p) := by
  obtain ⟨n, hn⟩ := exists_head_eq p
  rw [hn, moves_append_replicate]

theorem moves_eq_directory_append (p : Text) :
    moves p = moves (directory p) ++ moves (fileName p) := by
  have hp : moves p = moves (head p ++ fileName p) := by rw [head_append_fileName]
  rw [moves_directory, hp]
  rcases head_eq_nil_or p with h | ⟨h, hh⟩
  · simp [h]
  · rw [hh, List.append_assoc, List.singleton_append, moves_append_slash, moves_append_slash]
    simp

theorem rooted_directory_iff {p : Text} : Rooted (directory p) ↔ Rooted p := by
  by_cases h : head p = []
  · rw [directory_eq_nil_of_head h]
    have hp := head_append_fileName p
    rw [h, List.nil_append] at hp
    refine iff_of_false (by simp [Rooted]) fun hroot => slash_notMem_fileName p ?_
    rw [hp]
    exact List.mem_of_mem_head? hroot
  · obtain ⟨n, hn⟩ := exists_head_eq p
    obtain ⟨c, d, hd⟩ := List.exists_cons_of_ne_nil (directory_ne_nil_of_head h)
    have hp : p.head? = some c := by rw [← head_append_fileName p, hn, hd]; rfl
    simp [Rooted, hd, hp]

/-! ### Places -/

/-- The place that `p` names from the directory of a file. -/
theorem ofPath_append_beside {p : Text} (h : ¬Rooted p) (cwd file : Text) :
    Location.ofPath (append cwd (beside file p)) =
      reduce true (Location.ofPath (append cwd (directory file)) ++ moves p) := by
  rw [beside, ofPath_append_normalize, ofPath_eq_reduce_moves, ofPath_eq_reduce_moves,
    reduce_reduce_append]
  by_cases hdir : Rooted (directory file)
  · rw [append_of_rooted (rooted_append hdir p), moves_append h, append_of_rooted hdir]
  · have happ : ¬Rooted (append (directory file) p) := by
      unfold append
      rw [if_neg (show ¬p.head? = some '/' from h)]
      cases hd : directory file with
      | nil => simpa [Rooted] using h
      | cons c d =>
        have hc : c ≠ '/' := by simpa [Rooted, hd] using hdir
        split <;> simpa [Rooted] using hc
    rw [moves_append happ, moves_append h, moves_append hdir, List.append_assoc]

/-- The place of a file is below the place of its directory. -/
theorem ofPath_append_eq_concat {file : Text} (h : IsName (fileName file)) (cwd : Text) :
    Location.ofPath (append cwd file) =
      Location.ofPath (append cwd (directory file)) ++ [fileName file] := by
  have hname : moves (fileName file) = [fileName file] :=
    moves_of_isName h (slash_notMem_fileName file)
  have hmoves : moves (append cwd file) =
      moves (append cwd (directory file)) ++ [fileName file] := by
    by_cases hfile : Rooted file
    · rw [append_of_rooted hfile, append_of_rooted (rooted_directory_iff.2 hfile),
        moves_eq_directory_append file, hname]
    · rw [moves_append hfile, moves_append (mt rooted_directory_iff.1 hfile),
        moves_eq_directory_append file, hname, List.append_assoc]
  rw [ofPath_eq_reduce_moves, hmoves, ofPath_eq_reduce_moves, reduce, List.foldl_append,
    List.foldl_cons, push_of_isName h, List.foldl_nil, List.reverse_cons]
  rfl

/-- Two names of one file give one place to every path that is written inside it. -/
theorem ofPath_beside_congr {cwd file other : Text} (hfile : IsName (fileName file))
    (hother : IsName (fileName other))
    (h : Location.ofPath (append cwd file) = Location.ofPath (append cwd other)) (p : Text) :
    Location.ofPath (append cwd (beside file p)) =
      Location.ofPath (append cwd (beside other p)) := by
  by_cases hp : Rooted p
  · simp only [beside, append_of_rooted hp]
  · rw [ofPath_append_eq_concat hfile, ofPath_append_eq_concat hother] at h
    rw [ofPath_append_beside hp, ofPath_append_beside hp, (List.append_inj' h rfl).1]

end ShapeMapper.Path
