import Mathlib.Data.List.Basic
import ShapeMapper.Plan.Basic

/-!
# The plans of a request, place by place

The plans from every source to every target stand source by source, so that the plan from the
`i`-th source to the `j`-th of `n` targets is at place `i * n + j` (`Plan.getElem?_product`). The
plans back follow those there, with the parts of sources and targets exchanged
(`Plan.between_places`).
-/

namespace ShapeMapper.Plan

variable (sources targets : List Entity)

theorem product_cons (s : Entity) :
    product (s :: sources) targets = targets.map (Plan.of s) ++ product sources targets :=
  List.flatMap_cons

theorem length_product : (product sources targets).length = sources.length * targets.length := by
  induction sources with
  | nil => simp [product]
  | cons s sources ih =>
    rw [product_cons, List.length_append, List.length_map, ih, List.length_cons, Nat.succ_mul,
      Nat.add_comm]

/-- Every source has its plans in one run, as long as the list of targets. -/
theorem getElem?_product (i : Fin sources.length) (j : Fin targets.length) :
    (product sources targets)[i * targets.length + j]? = some (Plan.of sources[i] targets[j]) := by
  obtain ⟨i, hi⟩ := i
  obtain ⟨j, hj⟩ := j
  show (product sources targets)[i * targets.length + j]? = some (Plan.of sources[i] targets[j])
  induction sources generalizing i with
  | nil => exact absurd hi (Nat.not_lt_zero i)
  | cons s sources ih =>
    rw [product_cons]
    cases i with
    | zero =>
      rw [Nat.zero_mul, Nat.zero_add, List.getElem?_append_left (by simpa using hj),
        List.getElem?_map, List.getElem?_eq_getElem hj]
      rfl
    | succ i =>
      have hplace : (i + 1) * targets.length + j =
          (targets.map (Plan.of s)).length + (i * targets.length + j) := by
        rw [List.length_map, Nat.succ_mul]
        omega
      rw [hplace, List.getElem?_append_right (Nat.le_add_right _ _), Nat.add_sub_cancel_left]
      exact ih i (Nat.lt_of_succ_lt_succ hi)

theorem between_true : between sources targets true =
    product sources targets ++ product targets sources := rfl

/-- A request has the plans from every source to every target, source by source. If it goes both
ways, as many plans back follow, target by target: they are the plans there of the request with
sources and targets exchanged. -/
theorem between_places (bothWays : Bool) :
    (between sources targets bothWays).length =
        (if bothWays then 2 else 1) * (sources.length * targets.length) ∧
      (∀ (i : Fin sources.length) (j : Fin targets.length),
        (between sources targets bothWays)[i * targets.length + j]? =
            some (Plan.of sources[i] targets[j]) ∧
          (between sources targets true)[sources.length * targets.length +
            (j * sources.length + i)]? = some (Plan.of targets[j] sources[i])) ∧
      between targets sources true =
        (between sources targets true).drop (sources.length * targets.length) ++
          (between sources targets true).take (sources.length * targets.length) := by
  have hlength := length_product sources targets
  refine ⟨?length, fun i j => ⟨?there, ?back⟩, ?halves⟩
  case length =>
    cases bothWays with
    | false => simp [between, hlength]
    | true =>
      simp only [between_true, List.length_append, length_product, if_true]
      rw [Nat.mul_comm targets.length, Nat.two_mul]
  case there =>
    have hplan := getElem?_product sources targets i j
    obtain ⟨hplace, -⟩ := List.getElem?_eq_some_iff.1 hplan
    rw [between, List.getElem?_append_left hplace]
    exact hplan
  case back =>
    rw [between_true, List.getElem?_append_right (by omega), hlength, Nat.add_sub_cancel_left]
    exact getElem?_product targets sources j i
  case halves =>
    rw [between_true, between_true, ← hlength, List.drop_left, List.take_left]

end ShapeMapper.Plan
