import Mathlib.Data.List.FinRange
import Mathlib.Data.List.Nodup

/-!
# First occurrences

`List.eraseDups` keeps the elements of a list that occur for the first time, in their order
(`eraseDups_map`). Leaving out repetitions and choosing elements may be exchanged
(`eraseDups_filter`), so repetitions may be left out of the parts of a list beforehand
(`eraseDups_append_eraseDups`).
-/

namespace ShapeMapper

variable {α : Type} [DecidableEq α]

theorem nodup_eraseDups : ∀ l : List α, l.eraseDups.Nodup
  | [] => List.nodup_nil
  | a :: l => by
    have hnot : a ∉ (l.filter fun b => !b == a).eraseDups := by
      simp [List.mem_eraseDups, List.mem_filter]
    rw [List.eraseDups_cons]
    exact List.nodup_cons.2 ⟨hnot, nodup_eraseDups _⟩
termination_by l => l.length
decreasing_by exact Nat.lt_succ_of_le (List.length_filter_le ..)

theorem eraseDups_filter (p : α → Bool) : ∀ l : List α,
    (l.filter p).eraseDups = l.eraseDups.filter p
  | [] => rfl
  | a :: l => by
    have hlater : ((l.filter fun b => !b == a).filter p).eraseDups =
        (l.filter fun b => !b == a).eraseDups.filter p := eraseDups_filter p _
    have hswap : (l.filter p).filter (fun b => !b == a) = (l.filter fun b => !b == a).filter p := by
      rw [List.filter_filter, List.filter_filter]
      exact List.filter_congr fun b _ => Bool.and_comm _ _
    rw [List.eraseDups_cons, List.filter_cons, List.filter_cons]
    cases ha : p a with
    | true => rw [if_pos rfl, if_pos rfl, List.eraseDups_cons, hswap, hlater]
    | false =>
      -- no element that is chosen is the one that is not
      have hother : (l.filter fun b => !b == a).filter p = l.filter p := by
        rw [← hswap, List.filter_eq_self]
        intro b hb
        have hne : b ≠ a := by
          rintro rfl
          exact Bool.noConfusion (ha.symm.trans (List.mem_filter.1 hb).2)
        simpa using hne
      rw [if_neg Bool.false_ne_true, if_neg Bool.false_ne_true, ← hlater, hother]
termination_by l => l.length
decreasing_by exact Nat.lt_succ_of_le (List.length_filter_le ..)

theorem eraseDups_eq_self : ∀ {l : List α}, l.Nodup → l.eraseDups = l
  | [], _ => rfl
  | a :: l, h => by
    obtain ⟨ha, hl⟩ := List.nodup_cons.1 h
    rw [List.eraseDups_cons, eraseDups_filter, eraseDups_eq_self hl, List.filter_eq_self.2]
    rintro b hb
    have hne : b ≠ a := fun hba => ha (hba ▸ hb)
    simpa using hne

/-- Repetitions may be left out of the parts of a list beforehand. -/
theorem eraseDups_append_eraseDups (l m : List α) :
    (l.eraseDups ++ m.eraseDups).eraseDups = (l ++ m).eraseDups := by
  have hmem : m.removeAll l.eraseDups = m.removeAll l := by
    refine List.filter_congr fun a _ => congrArg not ?_
    rw [Bool.eq_iff_iff, List.elem_iff, List.elem_iff, List.mem_eraseDups]
  rw [List.eraseDups_append, List.eraseDups_append, eraseDups_eq_self (nodup_eraseDups l)]
  congr 1
  rw [List.removeAll, ← eraseDups_filter, eraseDups_eq_self (nodup_eraseDups _)]
  exact congrArg List.eraseDups hmem

/-- Of the values of some elements those are kept that no earlier element has. -/
theorem eraseDups_map {β : Type} (f : β → α) (l : List β) : (l.map f).eraseDups =
    ((List.finRange l.length).filter fun i => ∀ j < i, f l[j] ≠ f l[i]).map fun i => f l[i] := by
  induction l with
  | nil => rfl
  | cons a l ih =>
    have hrange : List.finRange (a :: l).length = 0 :: (List.finRange l.length).map Fin.succ :=
      List.finRange_succ
    have hplaces : (List.finRange (a :: l).length).filter
        (fun i => ∀ j < i, f (a :: l)[j] ≠ f (a :: l)[i]) =
          0 :: ((List.finRange l.length).filter fun i =>
            f l[i] ≠ f a ∧ ∀ j < i, f l[j] ≠ f l[i]).map Fin.succ := by
      rw [hrange, List.filter_cons_of_pos (by simp), List.filter_map]
      refine congrArg (fun places => 0 :: places.map Fin.succ) (List.filter_congr fun i _ => ?_)
      simp [Fin.forall_fin_succ, eq_comm (a := f a)]
    rw [hplaces, List.map_cons, List.map_cons, List.map_map, List.eraseDups_cons, eraseDups_filter,
      ih, List.filter_map, List.filter_filter]
    refine congrArg (fun places => f a :: places.map fun i : Fin l.length => f l[i])
      (List.filter_congr fun i _ => ?_)
    simp [beq_eq_decide]

end ShapeMapper
