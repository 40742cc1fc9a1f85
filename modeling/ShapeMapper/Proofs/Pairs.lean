import Mathlib.Data.List.Nodup
import Mathlib.Data.List.ProdSigma
import ShapeMapper.Config
import ShapeMapper.Proofs.Except
import ShapeMapper.Proofs.FirstOccurrence
import ShapeMapper.Proofs.ImportBlock.Origin
import ShapeMapper.Proofs.Outcome

/-!
# How often a pair of shapes is mapped

A request maps its source file to its target file, and back if it goes both ways
(`Request.directions`). The pairs of shapes that an artifact maps are those of these directions,
one direction after the other (`Run.map_pair_of_outcome_build`). So no pair is mapped twice exactly
if no two of the directions lead from one place to one place (`Run.nodup_pair_iff`). Requests are
compared as a whole, so a direction may be asked for by two of them:
`Run.not_nodup_pair_thereAndBack`.
-/

namespace ShapeMapper

/-- The shapes that a mapper starts from and makes. -/
def Plan.pair (p : Plan) : Text × Text :=
  (p.source, p.target)

theorem Plan.map_pair_product (sources targets : List Entity) :
    (product sources targets).map pair =
      sources.map Entity.name ×ˢ targets.map Entity.name := by
  rw [product, List.map_flatMap]
  show _ = (sources.map Entity.name).flatMap fun s => (targets.map Entity.name).map (Prod.mk s)
  rw [List.flatMap_map]
  simp only [List.map_map]
  rfl

/-! ### Directions -/

/-- The ordered pairs of files that a request maps. -/
def Request.directions (r : Request) : List (Text × Text) :=
  (r.source, r.target) :: if r.bothWays then [(r.target, r.source)] else []

/-- The ordered pairs of files that some requests map. A request for a missing file maps none. -/
def Request.allDirections (w : Workspace) (requests : List Request) : List (Text × Text) :=
  (requests.filter fun r => r.missing w = []).flatMap Request.directions

/-- The files that some requests name. -/
def Request.files (requests : List Request) : List Text :=
  requests.flatMap fun r => [r.source, r.target]

theorem Request.mem_of_mem_directions {r : Request} {f : Text × Text} (h : f ∈ r.directions) :
    f.1 ∈ [r.source, r.target] ∧ f.2 ∈ [r.source, r.target] := by
  unfold directions at h
  split at h
  · rcases List.mem_pair.1 h with rfl | rfl <;> simp
  · obtain rfl := List.mem_singleton.1 h
    simp

/-- The files of a direction are named by a request, and they exist. -/
theorem Request.mem_of_mem_allDirections {w : Workspace} {requests : List Request}
    {f : Text × Text} (h : f ∈ allDirections w requests) :
    ∀ file ∈ [f.1, f.2], file ∈ files requests ∧ w.files.contains w.cwd file := by
  obtain ⟨r, hr, hf⟩ := List.mem_flatMap.1 h
  obtain ⟨hr, hpresent⟩ := List.mem_filter.1 hr
  have hcontains : ∀ file ∈ [r.source, r.target], w.files.contains w.cwd file := by
    simpa [missing] using hpresent
  intro file hfile
  have hfile : file ∈ [r.source, r.target] := by
    rcases List.mem_pair.1 hfile with rfl | rfl
    · exact (mem_of_mem_directions hf).1
    · exact (mem_of_mem_directions hf).2
  exact ⟨List.mem_flatMap.2 ⟨r, hr, hfile⟩, hcontains file hfile⟩

namespace Workspace

variable {w : Workspace} {visibility : Visibility}

/-- The names of the shapes that a file declares; none if it cannot be read. -/
def namesAt (w : Workspace) (visibility : Visibility) (file : Text) : List Text :=
  match (w.document visibility file).1 with
  | .ok d => d.names
  | .error _ => []

theorem namesAt_eq {file : Text} {d : Document} (h : (w.document visibility file).1 = .ok d) :
    w.namesAt visibility file = d.names := by
  rw [namesAt, h]

/-- A place declares the same names under every name of it. -/
theorem namesAt_congr (hcwd : Path.Rooted w.cwd) (visibility : Visibility) {file named : Text}
    (hfile : w.files.contains w.cwd file) (hnamed : w.files.contains w.cwd named)
    (hplace : w.location file = w.location named) :
    w.namesAt visibility file = w.namesAt visibility named := by
  have hread {file named : Text} {d : Document} (hfile : w.files.contains w.cwd file)
      (hnamed : w.files.contains w.cwd named) (hplace : w.location named = w.location file)
      (hd : (w.document visibility file).1 = .ok d) :
      w.namesAt visibility file = w.namesAt visibility named := by
    have hother := (holds_of_document_eq hfile hd).document_eq_inFile hcwd hnamed hplace
    rw [namesAt_eq hd, namesAt_eq hother]
    rfl
  cases hd : (w.document visibility file).1 with
  | ok d => exact hread hfile hnamed hplace.symm hd
  | error e =>
    cases hother : (w.document visibility named).1 with
    | ok d => exact (hread hnamed hfile hplace hother).symm
    | error f => rw [namesAt, namesAt, hd, hother]

/-- The pairs of shapes of two files. -/
def pairsOf (w : Workspace) (visibility : Visibility) (f : Text × Text) : List (Text × Text) :=
  w.namesAt visibility f.1 ×ˢ w.namesAt visibility f.2

end Workspace

/-! ### The pairs of a build -/

section pairs

variable {w : Workspace} {settings : Settings} {output : Text}

/-- A request adds the pairs of its directions. -/
theorem Artifact.map_pair_of_withRequest {a b : Artifact} {r : Request}
    (h : a.withRequest w settings output r = .ok b) :
    b.mappers.map Plan.pair = a.mappers.map Plan.pair ++
      (Request.allDirections w [r]).flatMap (w.pairsOf settings.visibility) := by
  unfold withRequest at h
  split at h
  · next hpresent =>
    obtain ⟨d, hd, h⟩ := exists_ok_of_bind h
    obtain ⟨e, he, h⟩ := exists_ok_of_bind h
    obtain ⟨-, -, -, hmappers⟩ := exists_of_extend h
    have hpresent : Request.allDirections w [r] = r.directions := by
      simp [Request.allDirections, hpresent]
    have hthere : w.pairsOf settings.visibility (r.source, r.target) = d.names ×ˢ e.names := by
      rw [Workspace.pairsOf, Workspace.namesAt_eq hd, Workspace.namesAt_eq he]
    have hback : w.pairsOf settings.visibility (r.target, r.source) = e.names ×ˢ d.names := by
      rw [Workspace.pairsOf, Workspace.namesAt_eq hd, Workspace.namesAt_eq he]
    rw [hmappers, List.map_append, hpresent, Plan.between, List.map_append,
      Plan.map_pair_product, Request.directions, List.flatMap_cons, hthere]
    cases r.bothWays with
    | false => rfl
    | true =>
      rw [if_pos rfl, if_pos rfl, Plan.map_pair_product, List.flatMap_singleton, hback]
      rfl
  · next hmissing =>
    obtain rfl := Except.ok.inj h
    simp [Request.allDirections, hmissing]

theorem Request.allDirections_cons (r : Request) (requests : List Request) :
    allDirections w (r :: requests) = allDirections w [r] ++ allDirections w requests := by
  rw [allDirections, allDirections, allDirections, ← List.flatMap_append, ← List.filter_append]
  rfl

/-- An artifact maps the pairs of all directions, one direction after the other. -/
theorem Run.map_pair_of_outcome_build (hcwd : Path.Rooted w.cwd) {requests : List Request}
    {a : Artifact} (h : (build w settings requests output).outcome = .ok a) :
    a.mappers.map Plan.pair =
      (Request.allDirections w requests).flatMap (w.pairsOf settings.visibility) := by
  have hfold {requests : List Request} {a b : Artifact}
      (h : requests.foldlM (Artifact.withRequest w settings output) a = .ok b) :
      b.mappers.map Plan.pair = a.mappers.map Plan.pair ++
        (Request.allDirections w requests).flatMap (w.pairsOf settings.visibility) := by
    induction requests generalizing a with
    | nil =>
      obtain rfl := Except.ok.inj h
      simp [Request.allDirections]
    | cons r requests ih =>
      rw [List.foldlM_cons] at h
      obtain ⟨c, hc, h⟩ := exists_ok_of_bind h
      rw [ih h, Artifact.map_pair_of_withRequest hc, Request.allDirections_cons r requests,
        List.flatMap_append, List.append_assoc]
  rw [outcome_build hcwd] at h
  exact hfold h

end pairs

/-! ### Pairs that are mapped twice -/

/-- Whether the files that some requests name declare different names, each file each name once
and no two files the same one. -/
structure Workspace.DeclaresApart (w : Workspace) (visibility : Visibility)
    (files : List Text) : Prop where
  nodup : ∀ file ∈ files, (w.namesAt visibility file).Nodup
  location_eq : ∀ file ∈ files, ∀ named ∈ files, ∀ name ∈ w.namesAt visibility file,
    name ∈ w.namesAt visibility named → w.location file = w.location named

/-- The places from which and to which some requests map shapes, once for every direction in
which they do. -/
def Request.mappedPlaces (w : Workspace) (visibility : Visibility) (requests : List Request) :
    List (Location × Location) :=
  ((allDirections w requests).filter fun f =>
    w.namesAt visibility f.1 ≠ [] ∧ w.namesAt visibility f.2 ≠ []).map
      fun f => (w.location f.1, w.location f.2)

section nodup

variable {w : Workspace} {visibility : Visibility} {requests : List Request}

/-- Two directions share a pair of shapes exactly if they lead from one place to one place and
there are shapes at both. -/
theorem Workspace.DeclaresApart.disjoint_pairsOf_iff (hcwd : Path.Rooted w.cwd)
    (h : w.DeclaresApart visibility (Request.files requests)) {f g : Text × Text}
    (hf : f ∈ Request.allDirections w requests) (hg : g ∈ Request.allDirections w requests) :
    (w.pairsOf visibility f).Disjoint (w.pairsOf visibility g) ↔
      (w.namesAt visibility f.1 ≠ [] ∧ w.namesAt visibility f.2 ≠ [] →
        w.namesAt visibility g.1 ≠ [] ∧ w.namesAt visibility g.2 ≠ [] →
          (w.location f.1, w.location f.2) ≠ (w.location g.1, w.location g.2)) := by
  have hf := Request.mem_of_mem_allDirections hf
  have hg := Request.mem_of_mem_allDirections hg
  constructor
  · rintro hdisjoint ⟨hsource, htarget⟩ - hplaces
    obtain ⟨hplace, hplace'⟩ := Prod.mk.inj hplaces
    have hnames := namesAt_congr hcwd visibility (hf f.1 (by simp)).2
      (hg g.1 (by simp)).2 hplace
    have hnames' := namesAt_congr hcwd visibility (hf f.2 (by simp)).2
      (hg g.2 (by simp)).2 hplace'
    obtain ⟨x, hx⟩ := List.exists_mem_of_ne_nil _ hsource
    obtain ⟨y, hy⟩ := List.exists_mem_of_ne_nil _ htarget
    refine hdisjoint (a := (x, y)) (List.mem_product.2 ⟨hx, hy⟩) (List.mem_product.2 ?_)
    exact ⟨hnames ▸ hx, hnames' ▸ hy⟩
  · rintro hplaces ⟨x, y⟩ hmem hmem'
    obtain ⟨hx, hy⟩ := List.mem_product.1 hmem
    obtain ⟨hx', hy'⟩ := List.mem_product.1 hmem'
    refine hplaces ⟨List.ne_nil_of_mem hx, List.ne_nil_of_mem hy⟩
      ⟨List.ne_nil_of_mem hx', List.ne_nil_of_mem hy'⟩ (Prod.ext ?_ ?_)
    · exact h.location_eq _ (hf f.1 (by simp)).1 _ (hg g.1 (by simp)).1 x hx hx'
    · exact h.location_eq _ (hf f.2 (by simp)).1 _ (hg g.2 (by simp)).1 y hy hy'

theorem Workspace.DeclaresApart.nodup_flatMap_pairsOf_iff (hcwd : Path.Rooted w.cwd)
    (h : w.DeclaresApart visibility (Request.files requests)) :
    ((Request.allDirections w requests).flatMap (w.pairsOf visibility)).Nodup ↔
      (Request.mappedPlaces w visibility requests).Nodup := by
  have hproduct : ∀ f ∈ Request.allDirections w requests, (w.pairsOf visibility f).Nodup := by
    intro f hf
    have hfiles := Request.mem_of_mem_allDirections hf
    exact (h.nodup f.1 (hfiles f.1 (by simp)).1).product (h.nodup f.2 (hfiles f.2 (by simp)).1)
  rw [List.nodup_flatMap, and_iff_right hproduct, Request.mappedPlaces, List.Nodup,
    List.pairwise_map, List.pairwise_filter]
  refine List.Pairwise.iff_of_mem fun {f g} hf hg => ?_
  have hpairs := h.disjoint_pairsOf_iff hcwd hf hg
  simpa only [decide_eq_true_eq] using hpairs

/-- If no request goes both ways and no file is named in two ways, requests of which none stands
twice lead from no place to the same place twice. -/
theorem Request.nodup_mappedPlaces (hrequests : requests.Nodup)
    (honeWay : ∀ r ∈ requests, r.bothWays = false)
    (hnamed : ∀ file ∈ files requests, ∀ named ∈ files requests,
      w.location file = w.location named → file = named) :
    (mappedPlaces w visibility requests).Nodup := by
  have hdirections : allDirections w requests =
      (requests.filter fun r => r.missing w = []).map fun r => (r.source, r.target) := by
    rw [allDirections, List.map_eq_flatMap]
    refine List.flatMap_congr fun r hr => ?_
    rw [directions, honeWay r (List.mem_filter.1 hr).1]
    rfl
  have hmem {r : Request} (hr : r ∈ requests) :
      r.source ∈ files requests ∧ r.target ∈ files requests :=
    ⟨List.mem_flatMap.2 ⟨r, hr, by simp⟩, List.mem_flatMap.2 ⟨r, hr, by simp⟩⟩
  rw [mappedPlaces, hdirections, List.filter_map, List.map_map]
  refine (hrequests.filter _).filter _ |>.map_on fun r hr s hs hplaces => ?_
  have hr : r ∈ requests := (List.mem_filter.1 (List.mem_filter.1 hr).1).1
  have hs : s ∈ requests := (List.mem_filter.1 (List.mem_filter.1 hs).1).1
  obtain ⟨hsource, htarget⟩ := Prod.mk.inj hplaces
  have hsource := hnamed _ (hmem hr).1 _ (hmem hs).1 hsource
  have htarget := hnamed _ (hmem hr).2 _ (hmem hs).2 htarget
  cases r
  cases s
  simp only [Request.mk.injEq]
  exact ⟨hsource, htarget, (honeWay _ hr).trans (honeWay _ hs).symm⟩

end nodup

namespace Run

/-- The requests of a configuration map a pair of shapes twice only if two of their directions lead
from one place to one place. They do not if no request goes both ways and no file is named in two
ways. -/
theorem nodup_pair_iff {w : Workspace} (hcwd : Path.Rooted w.cwd) {settings : Settings}
    {base output : Text} {rs : List Request}
    (hw : w.DeclaresApart settings.visibility (Request.files (Request.resolve base rs)))
    {a : Artifact} (h : (build w settings (Request.resolve base rs) output).outcome = .ok a) :
    ((a.mappers.map Plan.pair).Nodup ↔
      (Request.mappedPlaces w settings.visibility (Request.resolve base rs)).Nodup) ∧
    ((∀ r ∈ Request.resolve base rs, r.bothWays = false) →
      (∀ file ∈ Request.files (Request.resolve base rs),
        ∀ named ∈ Request.files (Request.resolve base rs),
          w.location file = w.location named → file = named) →
      (a.mappers.map Plan.pair).Nodup) := by
  rw [map_pair_of_outcome_build hcwd h, hw.nodup_flatMap_pairsOf_iff hcwd]
  refine ⟨Iff.rfl, fun honeWay hnamed => ?_⟩
  exact Request.nodup_mappedPlaces (nodup_eraseDups _) honeWay hnamed

/-- Two files with a shape each. -/
def twoFiles : Workspace where
  files :=
    (FileTree.insert ⟨fun _ => none⟩ ["p".toList, "a.ts".toList] (FileTree.textEntry
      "export interface A \x7b x: string \x7d".toList)).insert
      ["p".toList, "b.ts".toList] (FileTree.textEntry
        "export interface B \x7b x: string \x7d".toList)
  cwd := "/p".toList

/-- An entry of a configuration. -/
def entry (source target : String) (bothWays : Bool) : Json :=
  .object [("source".toList, .text source.toList), ("target".toList, .text target.toList),
    ("viceVersa".toList, .bool bothWays)]

/-- There and back, and from a file to itself. -/
theorem nodup_pair_twoFiles :
    let rs : List Request := [
      { source := "a.ts".toList, target := "b.ts".toList, bothWays := true },
      { source := "a.ts".toList, target := "a.ts".toList }]
    let requests := Request.resolve "/p".toList rs
    Request.ofDocument (.list [entry "a.ts" "b.ts" true, entry "a.ts" "a.ts" false]) = .ok rs ∧
      Path.Rooted twoFiles.cwd ∧ twoFiles.DeclaresApart .exportedOnly (Request.files requests) ∧
      ∃ a, (build twoFiles {} requests "m.ts".toList).outcome = .ok a ∧
        a.mappers.map Plan.pair =
          [("A", "B"), ("B", "A"), ("A", "A")].map (Prod.map String.toList String.toList) ∧
        ((a.mappers.map Plan.pair).Nodup ↔
          (Request.mappedPlaces twoFiles .exportedOnly requests).Nodup) ∧
        ((∀ r ∈ requests, r.bothWays = false) →
          (∀ file ∈ Request.files requests, ∀ named ∈ Request.files requests,
            twoFiles.location file = twoFiles.location named → file = named) →
          (a.mappers.map Plan.pair).Nodup) := by
  intro rs requests
  have hw : twoFiles.DeclaresApart .exportedOnly (Request.files requests) :=
    ⟨by decide +kernel, by decide +kernel⟩
  have hrun : (build twoFiles {} requests "m.ts".toList).outcome.toOption.map
      (fun a => a.mappers.map Plan.pair) =
        some ([("A", "B"), ("B", "A"), ("A", "A")].map (Prod.map String.toList String.toList)) := by
    decide +kernel
  obtain ⟨a, ha, hpairs⟩ := Option.map_eq_some_iff.1 hrun
  have hbuild := eq_ok_of_toOption ha
  have hcwd : Path.Rooted twoFiles.cwd := by decide
  have hnodup := nodup_pair_iff hcwd hw hbuild
  exact ⟨by decide, hcwd, hw, a, hbuild, hpairs, hnodup⟩

/-- A request that goes both ways and one that goes back are two requests, and both map the second
file to the first. -/
theorem not_nodup_pair_thereAndBack :
    let rs : List Request := [
      { source := "a.ts".toList, target := "b.ts".toList, bothWays := true },
      { source := "b.ts".toList, target := "a.ts".toList }]
    let requests := Request.resolve "/p".toList rs
    Request.ofDocument (.list [entry "a.ts" "b.ts" true, entry "b.ts" "a.ts" false]) = .ok rs ∧
      Path.Rooted twoFiles.cwd ∧ twoFiles.DeclaresApart .exportedOnly (Request.files requests) ∧
      ∃ a, (build twoFiles {} requests "m.ts".toList).outcome = .ok a ∧
        a.mappers.map Plan.pair =
          [("A", "B"), ("B", "A"), ("B", "A")].map (Prod.map String.toList String.toList) ∧
        ¬(a.mappers.map Plan.pair).Nodup := by
  intro rs requests
  have hrun : (build twoFiles {} requests "m.ts".toList).outcome.toOption.map
      (fun a => a.mappers.map Plan.pair) =
        some ([("A", "B"), ("B", "A"), ("B", "A")].map (Prod.map String.toList String.toList)) := by
    decide +kernel
  obtain ⟨a, ha, hpairs⟩ := Option.map_eq_some_iff.1 hrun
  refine ⟨by decide, by decide, ⟨by decide +kernel, by decide +kernel⟩, a,
    eq_ok_of_toOption ha, hpairs, ?_⟩
  rw [hpairs]
  decide

end Run

end ShapeMapper
