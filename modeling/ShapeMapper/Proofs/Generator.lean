import ShapeMapper.Generator
import ShapeMapper.Proofs.ImportBlock.Insertion
import ShapeMapper.Proofs.Path.Specifier
import ShapeMapper.Proofs.Session

/-!
# Building artifacts

A document counts only through the place it is read from (`Artifact.extend_congr`), and what a
request adds does not depend on what was there before (`Artifact.extend_after`). So

* `Run.outcome_build_cache`: an artifact is the same whether files are read once or again;
* `Run.outcome_build_append`: requests may be built in parts, and those for missing files may
  be left out.
-/

namespace ShapeMapper

variable {w : Workspace} {visibility : Visibility} {place : Location} {d e : Document}

/-! ### Documents of one place -/

namespace Workspace.Holds

theorem eq_inFile (hcwd : Path.Rooted w.cwd) (hd : w.Holds visibility place d)
    (he : w.Holds visibility place e) : e = d.inFile e.file :=
  Except.ok.inj
    (he.document_eq.symm.trans (hd.document_eq_inFile hcwd he.contains he.location_eq))

theorem entities_eq (hcwd : Path.Rooted w.cwd) (hd : w.Holds visibility place d)
    (he : w.Holds visibility place e) : d.entities = e.entities := by
  rw [hd.eq_inFile hcwd he]
  rfl

theorem isName_fileName (hcwd : Path.Rooted w.cwd) (h : w.Holds visibility place d) :
    Path.IsName (Path.fileName d.file) := by
  obtain ⟨source, hsource, -⟩ := exists_ofSource_eq hcwd h.contains h.document_eq
  obtain ⟨entry, hfind⟩ := FileTree.exists_find_of_contains h.contains
  have hget := (FileTree.find_eq_ok.1 hfind).2
  cases entry with
  | directory =>
    rw [FileTree.textAt, location, hget] at hsource
    cases hsource
  | file content => exact FileTree.isName_fileName hcwd hfind

theorem file_eq (h : w.Holds visibility place d) (hcwd : Path.Rooted w.cwd)
    {i : ImportStatement} (hi : i ∈ d.imports) : i.file = d.file := by
  obtain ⟨source, -, hd⟩ := exists_ofSource_eq hcwd h.contains h.document_eq
  obtain ⟨x, rfl⟩ := Document.exists_importText_of_mem_imports hd hi
  rfl

/-- An import is relocated alike under every name of the file that makes it. -/
theorem map_relocate_eq (hcwd : Path.Rooted w.cwd) {site : Site} (hsite : site.cwd = w.cwd)
    (hd : w.Holds visibility place d) (he : w.Holds visibility place e) :
    d.imports.map site.relocate = e.imports.map site.relocate := by
  have himports : e.imports = d.imports.map (ImportStatement.inFile e.file) :=
    congrArg Document.imports (eq_inFile hcwd hd he)
  rw [himports, List.map_map]
  refine List.map_congr_left fun i hi => ?_
  have hplace : Location.ofPath (Path.append w.cwd d.file) =
      Location.ofPath (Path.append w.cwd e.file) := hd.location_eq.trans he.location_eq.symm
  have htarget : Path.relative w.cwd site.output (Path.beside d.file i.specifier) =
      Path.relative w.cwd site.output (Path.beside e.file i.specifier) :=
    Path.relative_congr hcwd (Path.ofPath_beside_congr (hd.isName_fileName hcwd)
      (he.isName_fileName hcwd) hplace i.specifier) site.output
  simp only [Function.comp_apply, Site.relocate, ImportStatement.inFile, hsite,
    hd.file_eq hcwd hi, htarget]

end Workspace.Holds

namespace Artifact

/-- An artifact with another one after it. -/
def after (front a : Artifact) : Artifact where
  imports := ImportBlock.insertAll front.imports a.imports
  mappers := front.mappers ++ a.mappers

theorem extend_congr (hcwd : Path.Rooted w.cwd) {site : Site} (hsite : site.cwd = w.cwd)
    {other : Location} {d' e' : Document} (hd : w.Holds visibility place d)
    (hd' : w.Holds visibility place d') (he : w.Holds visibility other e)
    (he' : w.Holds visibility other e') (a : Artifact) (r : Request) :
    a.extend site r d e = a.extend site r d' e' := by
  have himports : (d.imports ++ e.imports).map site.relocate =
      (d'.imports ++ e'.imports).map site.relocate := by
    rw [List.map_append, List.map_append, hd.map_relocate_eq hcwd hsite hd',
      he.map_relocate_eq hcwd hsite he']
  simp only [extend, Site.statements, contributions, Document.contribution, Document.names,
    Document.defaultName, hd.entities_eq hcwd hd', he.entities_eq hcwd he', himports]

/-- What a request adds comes after what there was before. -/
theorem extend_after (front a : Artifact) (site : Site) (r : Request) (d e : Document) :
    (front.after a).extend site r d e = (a.extend site r d e).map front.after := by
  unfold extend
  split
  · simp only [Except.map, after, ImportBlock.insertAll_insertAll, List.append_assoc]
  · rfl

theorem after_empty (front : Artifact) : front.after {} = front := by
  simp [after, ImportBlock.insertAll]

/-- The statements of an artifact without repetitions come first, then the new ones. -/
theorem after_eq (a b : Artifact) (ha : Artifact.after {} a = a) :
    a.after b = { imports := (a.imports ++ b.imports).eraseDups
                  mappers := a.mappers ++ b.mappers } := by
  have himports : a.imports = ImportBlock.insertAll [] a.imports :=
    (congrArg Artifact.imports ha).symm
  rw [← ImportBlock.insertAll_nil, ImportBlock.insertAll_append, ← himports]
  rfl

end Artifact

namespace Run

variable {P : Memory → Memory → Prop} {lookup other : Lookup}

/-- Two runs add a request alike if they read alike and the artifacts are extended alike. -/
theorem related_addRequest {Q : Text → Document → Document → Prop} {f : Artifact → Artifact}
    (hdocument : ∀ file, w.files.contains w.cwd file →
      Related P (Q file) (document w lookup file) (document w other file))
    {site : Site} (hextend : ∀ (a : Artifact) (r : Request) (d e d' e' : Document),
      Q r.source d d' → Q r.target e e' →
        (f a).extend site r d e = (a.extend site r d' e').map f)
    (a : Artifact) (r : Request) :
    Related P (fun a b => a = f b) (addRequest w lookup site (f a) r)
      (addRequest w other site a r) := by
  unfold addRequest
  split
  · next h =>
    have hcontains : ∀ file ∈ [r.source, r.target], w.files.contains w.cwd file := by
      simpa [Request.missing] using h
    refine (hdocument r.source (hcontains _ (by simp))).bind fun d d' hd => ?_
    refine (hdocument r.target (hcontains _ (by simp))).bind fun e e' he => ?_
    refine (Related.report_right ?_ _).report_left _
    rw [hextend a r d e d' e' hd he]
    exact related_ofExcept (f := f) (fun _ => rfl) _
  · exact ((related_pure rfl).report_right _).report_left _

theorem related_foldlM_addRequest (lookup other : Lookup) (site : Site)
    (hcwd : Path.Rooted w.cwd) (hsite : site.cwd = w.cwd)
    (hother : other.visibility = lookup.visibility)
    {f : Artifact → Artifact} (hf : ∀ (a : Artifact) (r : Request) (d e : Document),
      (f a).extend site r d e = (a.extend site r d e).map f)
    (requests : List Request) (a : Artifact) :
    Related (w.BothFaithful lookup.visibility) (fun a b => a = f b)
      (requests.foldlM (addRequest w lookup site) (f a))
      (requests.foldlM (addRequest w other site) a) := by
  refine Related.foldlM (fun a b r hab => hab ▸ related_addRequest
    (fun file hfile => related_document hcwd hfile hother) ?_ b r) requests rfl
  intro a r d e d' e' hd he
  rw [hf, Artifact.extend_congr hcwd hsite hd.1 hd.2 he.1 he.2]

variable (w) in
/-- A request for missing files only reports. -/
theorem related_addRequest_of_missing {site : Site} {a : Artifact} {r : Request}
    (h : r.missing w ≠ []) : Related Eq Eq (pure a) (addRequest w lookup site a r) := by
  unfold addRequest
  split
  · next hnil => exact absurd hnil h
  · exact (related_pure rfl).report_right _

theorem related_addRequest_self (w : Workspace) (lookup : Lookup) (site : Site) (a : Artifact)
    (r : Request) : Related Eq Eq (addRequest w lookup site a r) (addRequest w lookup site a r) :=
  related_addRequest (Q := fun _ => Eq) (f := id)
    (fun file _ => related_document_self w lookup file)
    (fun a r d e d' e' hd he => by rw [hd, he, id, Except.map_id, id]) a r

/-- A build that starts with an artifact puts what it builds after that one. -/
theorem related_build_after (hcwd : Path.Rooted w.cwd) (settings : Settings)
    (requests : List Request) (output : Text) (front : Artifact) :
    Related (w.BothFaithful settings.visibility) (fun a b => a = front.after b)
      (requests.foldlM (addRequest w settings.lookup (settings.site w output)) front)
      (build w settings requests output) := by
  have hrelated := related_foldlM_addRequest settings.lookup settings.lookup
    (settings.site w output) hcwd rfl rfl (fun a => front.extend_after a _) requests {}
  rwa [Artifact.after_empty] at hrelated

/-- What is remembered makes no difference to a build. -/
theorem related_build_self (hcwd : Path.Rooted w.cwd) (settings : Settings)
    (requests : List Request) (output : Text) :
    Related (w.BothFaithful settings.visibility) Eq (build w settings requests output)
      (build w settings requests output) :=
  related_foldlM_addRequest settings.lookup settings.lookup (settings.site w output) hcwd rfl rfl
    (f := id) (fun a r d e => by rw [id, Except.map_id, id]) requests {}

/-- Whether files are read once or again makes no difference to an artifact. -/
theorem outcome_build_cache (hcwd : Path.Rooted w.cwd) (settings : Settings)
    (requests : List Request) (output : Text) :
    (build w { settings with cache := true } requests output).outcome =
      (build w { settings with cache := false } requests output).outcome := by
  have hrelated := related_foldlM_addRequest
    { cache := true, visibility := settings.visibility }
    { cache := false, visibility := settings.visibility } (settings.site w output) hcwd rfl rfl
    (f := id) (fun a r d e => by rw [id, Except.map_id, id]) requests {}
  have houtcome := hrelated.outcome_eq .nil
  rwa [Except.map_id, id] at houtcome

/-- A directory with one declaration file in it. -/
def oneFile : Workspace where
  files := FileTree.insert ⟨fun _ => none⟩ ["p".toList, "a.ts".toList]
    (FileTree.textEntry "export interface A \x7b x: string \x7d".toList)
  cwd := "/p".toList

/-- One file under two names, read once and read twice. -/
theorem outcome_build_cache_two_names :
    let requests : List Request := [{ source := "a.ts".toList, target := "./a.ts".toList }]
    Path.Rooted oneFile.cwd ∧
      (build oneFile { ({} : Settings) with cache := true } requests "b.ts".toList).outcome =
        (build oneFile { ({} : Settings) with cache := false } requests "b.ts".toList).outcome :=
  ⟨by decide, outcome_build_cache (by decide) {} _ _⟩

theorem after_nil_of_outcome_build (hcwd : Path.Rooted w.cwd) {settings : Settings}
    {requests : List Request} {output : Text} {a : Artifact}
    (h : (build w settings requests output).outcome = .ok a) : Artifact.after {} a = a := by
  have houtcome := (related_build_after hcwd settings requests output {}).outcome_eq .nil
  have hself : (build w settings requests output).outcome =
      (build w settings requests output).outcome.map (Artifact.after {}) := houtcome
  rw [h] at hself
  exact (Except.ok.inj hself).symm

/-- Requests may be built in parts, and those for missing files may be left out. -/
theorem outcome_build_append (hcwd : Path.Rooted w.cwd) (settings : Settings) (output : Text) :
    (∀ first second : List Request,
      (build w settings (first ++ second) output).outcome = (do
        let a ← (build w settings first output).outcome
        let b ← (build w settings second output).outcome
        return {
          imports := (a.imports ++ b.imports).eraseDups
          mappers := a.mappers ++ b.mappers })) ∧
    ∀ requests : List Request,
      let present := requests.filter fun r =>
        w.files.contains w.cwd r.source && w.files.contains w.cwd r.target
      (build w settings present output).outcome = (build w settings requests output).outcome ∧
        (build w settings present output).memory = (build w settings requests output).memory := by
  constructor
  · intro first second
    have hbuild : build w settings (first ++ second) output =
        build w settings first output >>= fun a =>
          second.foldlM (addRequest w settings.lookup (settings.site w output)) a :=
      List.foldlM_append
    -- the first part leaves a faithful memory, also where it fails
    have hmemory : w.Faithful settings.visibility (build w settings first output).memory :=
      ((related_build_after hcwd settings first output {}).memory .nil).right
    rw [hbuild, outcome_bind_eq ⟨hmemory, .nil⟩ fun a =>
      related_build_after hcwd settings second output a]
    cases ha : (build w settings first output).outcome with
    | error e => rfl
    | ok a =>
      cases (build w settings second output).outcome with
      | error e => rfl
      | ok b =>
        exact congrArg Except.ok (Artifact.after_eq a b (after_nil_of_outcome_build hcwd ha))
  · intro requests
    have hrelated := related_foldlM_filter (p := fun r =>
        w.files.contains w.cwd r.source && w.files.contains w.cwd r.target)
      (related_addRequest_self w settings.lookup (settings.site w output))
      (fun a r hr => related_addRequest_of_missing w (by
        intro hmissing
        simp_all [Request.missing])) requests {}
    refine ⟨?_, hrelated.memory rfl⟩
    have houtcome := hrelated.outcome_eq (f := id) rfl
    rwa [Except.map_id, id] at houtcome

/-- A request, and one for a missing file. -/
theorem outcome_build_append_missing :
    let request : Request := { source := "a.ts".toList, target := "./a.ts".toList }
    let missing : Request := { source := "a.ts".toList, target := "b.ts".toList }
    Path.Rooted oneFile.cwd ∧
      (build oneFile {} ([request] ++ [missing]) "c.ts".toList).outcome = (do
        let a ← (build oneFile {} [request] "c.ts".toList).outcome
        let b ← (build oneFile {} [missing] "c.ts".toList).outcome
        return {
          imports := (a.imports ++ b.imports).eraseDups
          mappers := a.mappers ++ b.mappers }) ∧
      (build oneFile {} [request] "c.ts".toList).memory =
        (build oneFile {} [request, missing] "c.ts".toList).memory := by
  intro request missing
  have hparts := outcome_build_append (w := oneFile) (by decide) {} "c.ts".toList
  have hpresent : ([request, missing].filter fun r => oneFile.files.contains oneFile.cwd r.source &&
      oneFile.files.contains oneFile.cwd r.target) = [request] := by decide
  refine ⟨by decide, hparts.1 _ _, ?_⟩
  have hmemory := (hparts.2 [request, missing]).2
  rwa [hpresent] at hmemory

end Run

end ShapeMapper
