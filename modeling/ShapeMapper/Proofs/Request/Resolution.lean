import Mathlib.Data.List.Basic
import ShapeMapper.Config
import ShapeMapper.Proofs.FirstOccurrence
import ShapeMapper.Proofs.Path.Absolute

/-!
# Resolved requests

Requests name their files from a directory. Resolved, they name them by absolute paths in normal
form (`Path.IsAbsolute`), and requests that then ask for the same are one. So the resolved list of
requests is canonical, and to resolve it once more, from whatever directory, changes nothing:
`Request.resolve_canonical`.
-/

namespace ShapeMapper.Request

/-- Whether two requests ask for the same mappings from the directory `base`. -/
def Alike (base : Text) (r s : Request) : Prop :=
  r.bothWays = s.bothWays ∧ Path.absolute base r.source = Path.absolute base s.source ∧
    Path.absolute base r.target = Path.absolute base s.target

instance (base : Text) (r s : Request) : Decidable (Alike base r s) :=
  inferInstanceAs (Decidable (_ ∧ _ ∧ _))

/-- The place of the request that stands for `r` when some requests are resolved. -/
def resolvedPlace (base : Text) (requests : List Request) (r : Request) : Nat :=
  (resolve base requests).idxOf (within base r)

variable {base : Text}

theorem within_eq_iff {r s : Request} : within base r = within base s ↔ Alike base r s := by
  simp only [within, mk.injEq, Alike]
  tauto

theorem exists_within_of_mem_resolve {requests : List Request} {r : Request}
    (h : r ∈ resolve base requests) : ∃ s ∈ requests, within base s = r :=
  List.mem_map.1 (List.mem_eraseDups.1 h)

theorem within_mem_resolve {requests : List Request} {r : Request} (h : r ∈ requests) :
    within base r ∈ resolve base requests :=
  List.mem_eraseDups.2 (List.mem_map_of_mem h)

/-- A resolved request is resolved from every directory. -/
theorem within_of_mem_resolve (hbase : Path.Rooted base) {requests : List Request} {r : Request}
    (h : r ∈ resolve base requests) (other : Text) : within other r = r := by
  obtain ⟨s, -, rfl⟩ := exists_within_of_mem_resolve h
  simp only [within, (Path.isAbsolute_absolute hbase _).absolute_eq]

/-- The requests that stand for others are the first ones of their kind. -/
theorem resolve_eq_map_filter (base : Text) (requests : List Request) :
    resolve base requests = ((List.finRange requests.length).filter fun i =>
      ∀ j < i, ¬Alike base requests[j] requests[i]).map fun i => within base requests[i] := by
  rw [resolve, eraseDups_map]
  simp only [ne_eq, within_eq_iff]

/-- The resolved requests are all different, and their files are named by absolute paths in normal
form. Two requests are resolved to one exactly if they are alike, and it stands where the first of
them stood. To resolve requests again changes nothing, and a list of requests may be resolved in
parts. -/
theorem resolve_canonical (hbase : Path.Rooted base) (requests later : List Request) :
    (resolve base requests).Nodup ∧
    (∀ r ∈ resolve base requests, ∀ p ∈ [r.source, r.target],
      Path.IsAbsolute p ∧ Path.normalize p = p) ∧
    (∀ r ∈ requests,
      (resolve base requests)[resolvedPlace base requests r]? = some (within base r) ∧
      ∀ s ∈ requests, resolvedPlace base requests r = resolvedPlace base requests s ↔
        Alike base r s) ∧
    (resolve base requests = ((List.finRange requests.length).filter fun i =>
      ∀ j < i, ¬Alike base requests[j] requests[i]).map fun i => within base requests[i]) ∧
    (∀ other, resolve other (resolve base requests) = resolve base requests) ∧
    resolve base (requests ++ later) =
      (resolve base requests ++ resolve base later).eraseDups := by
  refine ⟨nodup_eraseDups _, fun r hr p hp => ?_, fun r hr => ⟨?_, fun s hs => ?_⟩,
    resolve_eq_map_filter base requests, fun other => ?_, ?_⟩
  · obtain ⟨s, -, rfl⟩ := exists_within_of_mem_resolve hr
    have habsolute : Path.IsAbsolute p := by
      rcases List.mem_pair.1 hp with rfl | rfl
      · exact Path.isAbsolute_absolute hbase _
      · exact Path.isAbsolute_absolute hbase _
    exact ⟨habsolute, habsolute.normalize_eq⟩
  · exact List.getElem?_idxOf (within_mem_resolve hr)
  · rw [resolvedPlace, resolvedPlace, List.idxOf_inj (within_mem_resolve hr), within_eq_iff]
  · have hself : (resolve base requests).map (within other) = resolve base requests :=
      (List.map_congr_left fun r hr => within_of_mem_resolve hbase hr other).trans (List.map_id _)
    have hnodup : (resolve base requests).Nodup := nodup_eraseDups _
    show ((resolve base requests).map (within other)).eraseDups = resolve base requests
    rw [hself, eraseDups_eq_self hnodup]
  · rw [resolve, resolve, resolve, eraseDups_append_eraseDups, List.map_append]

/-- Two spellings of one file, and two slashes that are not one. -/
theorem resolve_canonical_spellings :
    let base := "/p/q".toList
    let requests : List Request := [
      { source := "a.ts".toList, target := "".toList },
      { source := ".//b/../a.ts".toList, target := "./".toList },
      { source := "//a.ts".toList, target := "///p/./q/".toList }]
    Path.Rooted base ∧ resolve base requests = [
      { source := "/p/q/a.ts".toList, target := "/p/q".toList },
      { source := "//a.ts".toList, target := "/p/q".toList }] ∧
    resolve "r".toList (resolve base requests) = resolve base requests ∧
    resolve base (requests ++ requests) =
      (resolve base requests ++ resolve base requests).eraseDups := by
  intro base requests
  have hbase : Path.Rooted base := by decide
  obtain ⟨-, -, -, -, hagain, hparts⟩ := resolve_canonical hbase requests requests
  exact ⟨hbase, by decide +kernel, hagain _, hparts⟩

end ShapeMapper.Request
