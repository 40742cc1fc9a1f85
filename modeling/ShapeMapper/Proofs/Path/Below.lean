import Mathlib.Data.List.Infix
import ShapeMapper.Proofs.Path.Specifier

/-!
# Paths below a directory

A path that never goes above the directory it starts from (`StaysBelow`) leads to a place below it,
the same one whatever the directory is (`ofPath_below`). The specifier from one such path to another
does not tell where the directory lies: `relative_below`, `relative_beside_below`.
-/

namespace ShapeMapper.Path

/-- The path `p` below a directory. -/
def below (base p : Text) : Text :=
  base ++ '/' :: p

/-- Whether a path stays below the directory that it starts from: none of its beginnings goes up
more often than down. -/
def StaysBelow (p : Text) : Prop :=
  ∀ l ∈ (moves p).inits, l.count up ≤ l.countP (· ≠ up)

instance : DecidablePred StaysBelow := fun p =>
  inferInstanceAs (Decidable (∀ l ∈ (moves p).inits, l.count up ≤ l.countP (· ≠ up)))

variable {base p q : Text}

theorem moves_below (base p : Text) : moves (below base p) = moves base ++ moves p :=
  moves_append_slash base p

/-- The empty path is the root, as far as the paths below it are concerned. -/
theorem rooted_below (h : base = [] ∨ Rooted base) (p : Text) : Rooted (below base p) := by
  rcases h with rfl | h
  · rfl
  · cases base with
    | nil => cases h
    | cons c base => exact h

theorem below_ne_nil (base p : Text) : below base p ≠ [] :=
  List.append_ne_nil_of_right_ne_nil base (List.cons_ne_nil '/' p)

theorem below_inj : below base p = below base q ↔ p = q := by
  simp [below]

/-! ### Staying below -/

/-- Whether moves that start some steps down never go above. -/
def StaysFrom (depth : Nat) (l : List Text) : Prop :=
  ∀ k, k <+: l → k.count up ≤ depth + k.countP (· ≠ up)

theorem staysBelow_iff : StaysBelow p ↔ StaysFrom 0 (moves p) := by
  simp only [StaysBelow, StaysFrom, List.mem_inits, Nat.zero_add]

namespace StaysFrom

variable {depth : Nat} {s : Text} {l : List Text}

theorem up_cons (h : StaysFrom depth (up :: l)) : ∃ n, depth = n + 1 ∧ StaysFrom n l := by
  have hfirst := h [up] (by simp)
  have hpos : 1 ≤ depth := by simpa using hfirst
  refine ⟨depth - 1, by omega, fun k hk => ?_⟩
  have hlater := h (up :: k) (by simpa using hk)
  rw [List.count_cons_self, List.countP_cons_of_neg (by simp)] at hlater
  omega

theorem name_cons (h : StaysFrom depth (s :: l)) (hs : s ≠ up) : StaysFrom (depth + 1) l := by
  intro k hk
  have hlater := h (s :: k) (by simpa using hk)
  rw [List.count_cons_of_ne hs, List.countP_cons_of_pos (by simpa using hs)] at hlater
  omega

theorem of_append {k : List Text} (h : StaysFrom depth (l ++ k)) : StaysFrom depth l :=
  fun j hj => h j (hj.trans (List.prefix_append l k))

/-- Moves that never go above a place leave alone what is above it. -/
theorem foldl_push_append {stack : List Text} (hstack : up ∉ stack)
    (hl : ∀ t ∈ l, t ≠ [] ∧ t ≠ here) (h : StaysFrom stack.length l) (above : List Text) :
    l.foldl (push true) (stack ++ above) = l.foldl (push true) stack ++ above := by
  induction l generalizing stack with
  | nil => rfl
  | cons s l ih =>
    have hrest : ∀ t ∈ l, t ≠ [] ∧ t ≠ here := fun t ht => hl t (List.mem_cons_of_mem s ht)
    rw [List.foldl_cons, List.foldl_cons]
    by_cases hs : s = up
    · subst hs
      obtain ⟨n, hn, h⟩ := h.up_cons
      obtain ⟨t, stack, rfl⟩ := List.exists_cons_of_length_eq_add_one hn
      rw [List.mem_cons, not_or] at hstack
      rw [List.cons_append, push_up_cons (Ne.symm hstack.1), push_up_cons (Ne.symm hstack.1)]
      obtain rfl : stack.length = n := by simpa using hn
      exact ih hstack.2 hrest h
    · have hname : IsName s := ⟨(hl s (by simp)).1, (hl s (by simp)).2, hs⟩
      rw [push_of_isName hname, push_of_isName hname, ← List.cons_append]
      refine ih ?_ hrest ?_
      · rw [List.mem_cons, not_or]
        exact ⟨fun h => hs h.symm, hstack⟩
      · exact h.name_cons hs

theorem reduce_append (hl : ∀ t ∈ l, t ≠ [] ∧ t ≠ here) (h : StaysFrom 0 l) (k : List Text) :
    reduce true (k ++ l) = reduce true k ++ reduce true l := by
  have happend := foldl_push_append List.not_mem_nil hl h (k.foldl (push true) [])
  rw [List.nil_append] at happend
  rw [reduce, List.foldl_append, happend, List.reverse_append]
  rfl

end StaysFrom

theorem ne_idle_of_mem_moves {s : Text} (h : s ∈ moves p) : s ≠ [] ∧ s ≠ here :=
  (mem_moves.1 h).2

/-- A path that stays below a directory leads there as it leads below any other one. -/
theorem ofPath_below (h : StaysBelow p) (base : Text) :
    Location.ofPath (below base p) = Location.ofPath base ++ Location.ofPath p := by
  simp only [ofPath_eq_reduce_moves, moves_below]
  exact (staysBelow_iff.1 h).reduce_append (fun _ => ne_idle_of_mem_moves) _

theorem StaysBelow.directory (h : StaysBelow p) : StaysBelow (directory p) := by
  rw [staysBelow_iff] at h ⊢
  rw [moves_eq_directory_append] at h
  exact h.of_append

/-! ### Files below a directory -/

theorem head_below (base p : Text) : head (below base p) = below base (head p) := by
  have hdrop : (p.reverse ++ '/' :: base.reverse).dropWhile (· ≠ '/') =
      p.reverse.dropWhile (· ≠ '/') ++ '/' :: base.reverse := by
    rw [List.dropWhile_append]
    split
    · next hempty =>
      rw [List.isEmpty_iff.1 hempty, List.nil_append]
      exact List.dropWhile_cons_of_neg (by simp)
    · rfl
  simp only [head, below, List.reverse_append, List.reverse_cons, List.append_assoc,
    List.singleton_append, hdrop, List.reverse_reverse]

theorem moves_directory_below (base p : Text) :
    moves (directory (below base p)) = moves base ++ moves (directory p) := by
  rw [moves_directory, head_below, moves_below, moves_directory]

/-! ### Specifiers below a directory -/

theorem route_append (above xs ys : List Text) :
    route (above ++ xs) (above ++ ys) = route xs ys := by
  induction above with
  | nil => rfl
  | cons s above ih => simp [route, ih]

section Specifier

variable {cwd cwd' base' output : Text} (hcwd : Rooted cwd) (hcwd' : Rooted cwd')
  (hbase : base = [] ∨ Rooted base) (hbase' : base' = [] ∨ Rooted base')

include hbase in
theorem ofPath_start_below (h : StaysBelow p) (cwd : Text) :
    Location.ofPath (append cwd (start (below base p))) =
      Location.ofPath base ++ Location.ofPath (directory p) := by
  have hrooted : Rooted (directory (below base p)) := rooted_directory_iff.2 (rooted_below hbase p)
  have hstart : start (below base p) = directory (below base p) := by
    refine if_neg fun hnil => ?_
    rw [hnil] at hrooted
    cases hrooted
  rw [hstart, append_of_rooted hrooted, ofPath_eq_reduce_moves, moves_directory_below,
    (staysBelow_iff.1 h.directory).reduce_append (fun _ => ne_idle_of_mem_moves),
    ofPath_eq_reduce_moves, ofPath_eq_reduce_moves]

include hbase in
/-- The place that a path names when it is written inside a file below a directory. -/
theorem ofPath_beside_below (hq : ¬Rooted q) (h : StaysBelow (append (directory p) q))
    (cwd : Text) :
    Location.ofPath (append cwd (beside (below base p) q)) =
      Location.ofPath base ++ Location.ofPath (append (directory p) q) := by
  have hrooted : Rooted (directory (below base p)) := rooted_directory_iff.2 (rooted_below hbase p)
  have hmoves : moves (append (directory p) q) = moves (directory p) ++ moves q := moves_append hq
  rw [ofPath_append_beside hq, append_of_rooted hrooted, ofPath_eq_reduce_moves,
    moves_directory_below, reduce_reduce_append, List.append_assoc, ← hmoves,
    (staysBelow_iff.1 h).reduce_append (fun _ => ne_idle_of_mem_moves), ofPath_eq_reduce_moves,
    ofPath_eq_reduce_moves]

include hcwd hcwd' hbase hbase'

/-- A specifier depends on where its file and its target lie below a directory, and not on where
that directory lies. -/
theorem relative_congr_of_below (houtput : StaysBelow output) {target target' : Text}
    {l : Location} (htarget : Location.ofPath (append cwd target) = Location.ofPath base ++ l)
    (htarget' : Location.ofPath (append cwd' target') = Location.ofPath base' ++ l) :
    relative cwd (below base output) target = relative cwd' (below base' output) target' := by
  rw [relative_eq (rooted_append hcwd _) (rooted_append hcwd _),
    relative_eq (rooted_append hcwd' _) (rooted_append hcwd' _), htarget, htarget',
    ofPath_start_below hbase houtput, ofPath_start_below hbase' houtput, route_append,
    route_append]

theorem relative_below (houtput : StaysBelow output) (hp : StaysBelow p) :
    relative cwd (below base output) (below base p) =
      relative cwd' (below base' output) (below base' p) := by
  refine relative_congr_of_below hcwd hcwd' hbase hbase' houtput
    (l := Location.ofPath p) ?_ ?_
  · rw [append_of_rooted (rooted_below hbase p), ofPath_below hp]
  · rw [append_of_rooted (rooted_below hbase' p), ofPath_below hp]

theorem relative_beside_below (houtput : StaysBelow output) (hq : ¬Rooted q)
    (h : StaysBelow (append (directory p) q)) :
    relative cwd (below base output) (beside (below base p) q) =
      relative cwd' (below base' output) (beside (below base' p) q) :=
  relative_congr_of_below hcwd hcwd' hbase hbase' houtput (ofPath_beside_below hbase hq h cwd)
    (ofPath_beside_below hbase' hq h cwd')

end Specifier

end ShapeMapper.Path
