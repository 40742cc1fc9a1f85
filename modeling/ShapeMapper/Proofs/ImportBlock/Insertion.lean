import ShapeMapper.ImportBlock
import ShapeMapper.Proofs.Keyed

/-!
# Insertion into an import block

A block takes every statement once, at its first occurrence (`insertAll_eq_append`); and it may
be filled in parts (`insertAll_insertAll`).
-/

namespace ShapeMapper.ImportBlock

theorem insert_of_mem {block : List Text} {s : Text} (h : s ∈ block) : insert block s = block :=
  if_pos h

theorem insert_of_notMem {block : List Text} {s : Text} (h : s ∉ block) :
    insert block s = block ++ [s] :=
  if_neg h

theorem insertAll_eq_append (block statements : List Text) :
    insertAll block statements =
      block ++ (statements.filter fun s => s ∉ block).eraseDups :=
  Keyed.foldl_insert_eq (fun _ _ => insert_of_mem) (fun _ _ => insert_of_notMem) block statements

theorem insertAll_nil (statements : List Text) :
    insertAll [] statements = statements.eraseDups := by
  rw [insertAll_eq_append, List.nil_append, List.filter_eq_self.2 (by simp)]

theorem insertAll_append (block xs ys : List Text) :
    insertAll block (xs ++ ys) = insertAll (insertAll block xs) ys :=
  List.foldl_append

theorem mem_insertAll {block statements : List Text} {s : Text} :
    s ∈ insertAll block statements ↔ s ∈ block ∨ s ∈ statements := by
  rw [insertAll_eq_append, List.mem_append, List.mem_eraseDups, List.mem_filter]
  simp only [decide_eq_true_eq]
  by_cases h : s ∈ block <;> simp [h]

/-- Statements that a block holds already are not taken again. -/
theorem insertAll_of_subset {block statements : List Text} (h : statements ⊆ block) :
    insertAll block statements = block := by
  rw [insertAll_eq_append, List.filter_eq_nil_iff.2 fun s hs => by simpa using h hs]
  simp

theorem nodup_insertAll {block : List Text} (h : block.Nodup) (statements : List Text) :
    (insertAll block statements).Nodup := by
  induction statements generalizing block with
  | nil => exact h
  | cons s statements ih =>
    refine @ih (insert block s) ?_
    by_cases hs : s ∈ block
    · rwa [insert_of_mem hs]
    · rw [insert_of_notMem hs]
      exact List.nodup_append.2 ⟨h, by simp, by grind⟩

/-- A block may be filled by way of another one. -/
theorem insertAll_insertAll (block xs ys : List Text) :
    insertAll block (insertAll xs ys) = insertAll (insertAll block xs) ys := by
  induction ys generalizing xs with
  | nil => rfl
  | cons y ys ih =>
    have hinsert : insertAll block (insert xs y) = insert (insertAll block xs) y := by
      by_cases h : y ∈ xs
      · rw [insert_of_mem h, insert_of_mem (mem_insertAll.2 (.inr h))]
      · rw [insert_of_notMem h, insertAll_append]
        rfl
    show insertAll block (insertAll (insert xs y) ys) =
      insertAll (insert (insertAll block xs) y) ys
    rw [ih, hinsert]

end ShapeMapper.ImportBlock
