import Mathlib.Data.List.Basic
import ShapeMapper.Keyed

/-!
# Keyed lists in the order of their keys

A keyed list made of some elements has their keys, each at its first place, with the last
element of each key: `ofList_eq`.
-/

namespace ShapeMapper.Keyed

variable {α κ : Type} [DecidableEq κ] [BEq κ] [LawfulBEq κ]

/-- Inserting what is not there yet leaves out the repetitions. -/
theorem foldl_insert_eq {f : List κ → κ → List κ} (hmem : ∀ l k, k ∈ l → f l k = l)
    (hnew : ∀ l k, k ∉ l → f l k = l ++ [k]) (kept l : List κ) :
    l.foldl f kept = kept ++ (l.filter fun k => k ∉ kept).eraseDups := by
  induction l generalizing kept with
  | nil => simp
  | cons k l ih =>
    -- what is kept grows by `k`, or stays as it is
    rw [List.foldl_cons, ih]
    by_cases h : k ∈ kept
    · rw [hmem kept k h, List.filter_cons_of_neg (by simpa using h)]
    · rw [hnew kept k h, List.filter_cons_of_pos (by simpa using h), List.eraseDups_cons,
        List.filter_filter, List.append_assoc, List.singleton_append]
      congr 4
      funext m
      by_cases hm : m = k <;> simp [hm]

theorem map_key_ofList (key : α → κ) (l : List α) :
    (ofList key l).map key = (l.map key).eraseDups := by
  let insert (kept : List κ) (k : κ) : List κ := if k ∈ kept then kept else kept ++ [k]
  suffices ∀ kept : List α, (l.foldl (fun kept a => put key a kept) kept).map key =
      (l.map key).foldl insert (kept.map key) by
    rw [ofList, this, foldl_insert_eq (fun _ _ h => if_pos h) (fun _ _ h => if_neg h), List.map_nil,
      List.nil_append, List.filter_eq_self.2 (by simp)]
  induction l with
  | nil => exact fun _ => rfl
  | cons a l ih =>
    intro kept
    have hput : (put key a kept).map key = insert (kept.map key) (key a) := by
      rw [map_key_put]
      by_cases h : key a ∈ kept.map key
      · rw [if_pos h, show insert (kept.map key) (key a) = _ from if_pos h]
      · rw [if_neg h, show insert (kept.map key) (key a) = _ from if_neg h]
    rw [List.foldl_cons, ih, hput, List.map_cons, List.foldl_cons]

omit [BEq κ] [LawfulBEq κ] in
/-- The last element of a key is the one that is kept. -/
theorem find?_ofList (key : α → κ) (k : κ) (l : List α) :
    find? key k (ofList key l) = l.reverse.find? fun a => key a = k := by
  suffices ∀ kept : List α, find? key k (l.foldl (fun kept a => put key a kept) kept) =
      (l.reverse.find? fun a => key a = k).or (find? key k kept) by
    rw [ofList, this]
    simp [find?]
  induction l with
  | nil => simp
  | cons a l ih =>
    intro kept
    rw [List.foldl_cons, ih, find?_put, List.reverse_cons, List.find?_append, Option.or_assoc]
    by_cases h : key a = k <;> simp [h]

omit [BEq κ] [LawfulBEq κ] in
/-- A list without repeated keys is made up of its keys. -/
theorem filterMap_find?_eq {key : α → κ} {l : List α} (h : (l.map key).Nodup) :
    (l.map key).filterMap (fun k => find? key k l) = l := by
  induction l with
  | nil => rfl
  | cons a l ih =>
    rw [List.map_cons, List.nodup_cons] at h
    have hself : find? key (key a) (a :: l) = some a := by simp [find?]
    have hothers : (l.map key).filterMap (fun k => find? key k (a :: l)) =
        (l.map key).filterMap (fun k => find? key k l) := by
      refine List.filterMap_congr fun k hk => ?_
      have hne : key a ≠ k := fun hak => h.1 (hak ▸ hk)
      simp [find?, hne]
    simp only [List.map_cons, List.filterMap_cons, hself, hothers, ih h.2]

/-- Of the elements with one key the first gives the place and the last the value. -/
theorem ofList_eq (key : α → κ) (l : List α) :
    ofList key l =
      (l.map key).eraseDups.filterMap fun k => l.reverse.find? fun a => key a = k := by
  have hmade := filterMap_find?_eq (nodup_ofList key l)
  simp only [map_key_ofList, find?_ofList] at hmade
  exact hmade.symm

theorem mem_of_mem_ofList {key : α → κ} {l : List α} {a : α} (h : a ∈ ofList key l) : a ∈ l := by
  rw [ofList_eq] at h
  obtain ⟨k, -, hfind⟩ := List.mem_filterMap.1 h
  exact List.mem_reverse.1 (List.mem_of_find?_eq_some hfind)

end ShapeMapper.Keyed
