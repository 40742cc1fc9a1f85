import ShapeMapper.Proofs.ImportBlock.Origin
import ShapeMapper.Proofs.Outcome
import ShapeMapper.Proofs.Path.Below

/-!
# Where a project lies

A project is the file tree below a directory. As long as no path leads out of it, what is read in
the project and what is built from it are what they would be if the project were all there is
(`Run.toOption_outcome_build_project`). So two directories that hold the same file tree have the
same artifacts: `Run.toOption_outcome_build_below`.
-/

namespace ShapeMapper

open ShapeMapper.Path (below StaysBelow StaysFrom)

/-! ### Trees below a place -/

namespace FileTree

variable {files : FileTree} {place start m : Location} {l : List Text}

/-- The tree below a place, as seen from there. -/
def below (files : FileTree) (place : Location) : FileTree where
  get? l := files.get? (place ++ l)

theorem get?_below (files : FileTree) (place l : Location) :
    (files.below place).get? l = files.get? (place ++ l) := rfl

theorem below_insert (files : FileTree) (place l : Location) (entry : Entry) :
    (files.insert (place ++ l) entry).below place = (files.below place).insert l entry := by
  have hget (k : Location) : ((files.insert (place ++ l) entry).below place).get? k =
      ((files.below place).insert l entry).get? k := by
    have hprefix : (place ++ k).isPrefixOf (place ++ l) = k.isPrefixOf l := by
      rw [Bool.eq_iff_iff, List.isPrefixOf_iff_prefix, List.isPrefixOf_iff_prefix,
        List.prefix_append_right_inj]
    simp only [get?_below, insert, List.append_cancel_left_eq, hprefix]
  exact congrArg FileTree.mk (funext hget)

/-- A way that never goes above a place is the same way as seen from there. -/
theorem walk_below (h : StaysFrom start.length (l.filter fun s => s ≠ [] ∧ s ≠ Path.here)) :
    files.walk (place ++ start) l = .ok m ↔
      ∃ k, (files.below place).walk start l = .ok k ∧ m = place ++ k := by
  induction l generalizing start with
  | nil =>
    simp only [walk, Except.ok.injEq]
    constructor
    · rintro rfl
      exact ⟨start, rfl, rfl⟩
    · rintro ⟨k, rfl, rfl⟩
      rfl
  | cons s l ih =>
    rw [walk_cons_eq_ok]
    simp only [walk_cons_eq_ok, get?_below, and_assoc, exists_and_left]
    refine and_congr_right fun _ => ?_
    by_cases hidle : s = [] ∨ s = Path.here
    · rw [List.filter_cons_of_neg (by simpa using fun h => hidle.resolve_left h)] at h
      simp only [Location.next, if_pos hidle]
      exact ih h
    · rw [List.filter_cons_of_pos (by simpa using hidle)] at h
      simp only [Location.next, if_neg hidle]
      by_cases hup : s = Path.up
      · subst hup
        obtain ⟨n, hn, h⟩ := h.up_cons
        have hne : start ≠ [] := List.ne_nil_of_length_eq_add_one hn
        simp only [if_true, List.dropLast_append_of_ne_nil hne]
        exact ih (by rwa [List.length_dropLast, hn])
      · have hdepth : StaysFrom (start ++ [s]).length
            (l.filter fun s => s ≠ [] ∧ s ≠ Path.here) := by
          rw [List.length_append, List.length_singleton]
          exact h.name_cons hup
        simp only [if_neg hup, List.append_assoc]
        exact ih hdepth

/-- What is at a place can be read there as seen from above. -/
theorem textAt_below (h : files.get? (place ++ l) ≠ none) :
    (files.below place).textAt l = files.textAt (place ++ l) := by
  unfold textAt
  rw [get?_below]
  cases hget : files.get? (place ++ l) with
  | none => exact absurd hget h
  | some entry => cases entry <;> rfl

end FileTree

/-! ### Files of a project -/

namespace Workspace

variable {w : Workspace} {base p q : Text} {visibility : Visibility}

/-- Whether a path names a directory, from the root on. -/
structure HasDirectory (w : Workspace) (base : Text) : Prop where
  rooted : Path.Rooted base
  find_eq : w.files.find w.cwd base = .ok (w.location base, .directory)

/-- The files below a directory, as if there were no others. -/
def project (w : Workspace) (base : Text) : Workspace where
  files := w.files.below (w.location base)
  cwd := ['/']

theorem rooted_cwd_project (w : Workspace) (base : Text) : Path.Rooted (w.project base).cwd := rfl

/-- Whether the relative imports that a file below a directory makes stay below that directory. -/
def ImportsStayBelow (w : Workspace) (visibility : Visibility) (base p : Text) : Prop :=
  w.files.contains w.cwd (below base p) = true →
    ∀ d ∈ (w.document visibility (below base p)).1.toOption, ∀ i ∈ d.imports,
      i.relative = true → StaysBelow (Path.append (Path.directory p) i.specifier)

instance (w : Workspace) (visibility : Visibility) (base p : Text) :
    Decidable (w.ImportsStayBelow visibility base p) :=
  inferInstanceAs (Decidable (w.files.contains w.cwd (below base p) = true →
    ∀ d ∈ (w.document visibility (below base p)).1.toOption, ∀ i ∈ d.imports,
      i.relative = true → StaysBelow (Path.append (Path.directory p) i.specifier)))

namespace HasDirectory

theorem get?_eq (h : w.HasDirectory base) :
    (w.files.below (w.location base)).get? [] = some .directory := by
  rw [FileTree.get?_below, List.append_nil]
  exact (FileTree.find_eq_ok.1 h.find_eq).2

theorem walk_segments (h : w.HasDirectory base) :
    w.files.walk [] (Path.segments base) = .ok (w.location base) := by
  have hlocate := (FileTree.find_eq_ok.1 h.find_eq).1
  unfold FileTree.locate at hlocate
  split at hlocate
  · cases hlocate
  · rwa [Path.append_of_rooted h.rooted] at hlocate

theorem location_below (h : w.HasDirectory base) (hp : StaysBelow p) :
    w.location (below base p) = w.location base ++ (w.project base).location (below [] p) := by
  have hproject : (w.project base).location (below [] p) = Location.ofPath p :=
    Path.ofPath_below hp []
  rw [hproject, location, location, Path.append_of_rooted (Path.rooted_below (.inr h.rooted) p),
    Path.append_of_rooted h.rooted]
  exact Path.ofPath_below hp base

/-- A path that stays below a directory leads through it, as it leads from the root of the
project. -/
theorem locate_below (h : w.HasDirectory base) (hp : StaysBelow p) {place : Location} :
    w.files.locate w.cwd (below base p) = .ok place ↔
      ∃ l, (w.project base).files.locate (w.project base).cwd (below [] p) = .ok l ∧
        place = w.location base ++ l := by
  have houtside : w.files.locate w.cwd (below base p) = .ok place ↔
      w.files.walk (w.location base) (Path.segments p) = .ok place := by
    rw [FileTree.locate, if_neg (Path.below_ne_nil base p),
      Path.append_of_rooted (Path.rooted_below (.inr h.rooted) p), below,
      Path.segments_append_slash, FileTree.walk_append_eq_ok, h.walk_segments]
    simp
  have hinside {l : Location} :
      (w.project base).files.locate (w.project base).cwd (below [] p) = .ok l ↔
        (w.files.below (w.location base)).walk [] (Path.segments p) = .ok l := by
    have hsegments : Path.segments (Path.append (w.project base).cwd (below [] p)) =
        [] :: Path.segments p := Path.segments_append_slash [] p
    rw [FileTree.locate, if_neg (Path.below_ne_nil [] p), hsegments, FileTree.walk_cons_eq_ok]
    exact and_iff_right h.get?_eq
  simp only [houtside, hinside]
  have hwalk : w.files.walk (w.location base ++ []) (Path.segments p) = .ok place ↔
      ∃ l, (w.files.below (w.location base)).walk [] (Path.segments p) = .ok l ∧
        place = w.location base ++ l :=
    FileTree.walk_below (Path.staysBelow_iff.1 hp)
  rwa [List.append_nil] at hwalk

theorem find_below (h : w.HasDirectory base) (hp : StaysBelow p) {place : Location}
    {entry : Entry} :
    w.files.find w.cwd (below base p) = .ok (place, entry) ↔
      ∃ l, (w.project base).files.find (w.project base).cwd (below [] p) = .ok (l, entry) ∧
        place = w.location base ++ l := by
  simp only [FileTree.find_eq_ok, h.locate_below hp]
  constructor
  · rintro ⟨⟨l, hl, rfl⟩, hget⟩
    exact ⟨l, ⟨hl, hget⟩, rfl⟩
  · rintro ⟨l, ⟨hl, hget⟩, rfl⟩
    exact ⟨⟨l, hl, rfl⟩, hget⟩

theorem contains_below (h : w.HasDirectory base) (hp : StaysBelow p) :
    w.files.contains w.cwd (below base p) =
      (w.project base).files.contains (w.project base).cwd (below [] p) := by
  have hiff (v : Workspace) (file : Text) : v.files.contains v.cwd file = true ↔
      ∃ found, v.files.find v.cwd file = .ok found := by
    unfold FileTree.contains
    cases v.files.find v.cwd file <;> simp [Except.isOk, Except.toBool]
  rw [Bool.eq_iff_iff, hiff, hiff]
  simp only [Prod.exists, h.find_below hp]
  constructor
  · rintro ⟨place, entry, l, hfind, -⟩
    exact ⟨l, entry, hfind⟩
  · rintro ⟨l, entry, hfind⟩
    exact ⟨_, entry, l, hfind, rfl⟩

/-- What a file of a project declares does not depend on where the project lies. -/
theorem toOption_document_project (h : w.HasDirectory base) (hcwd : Path.Rooted w.cwd)
    (visibility : Visibility) (hp : StaysBelow p) (hfile : w.files.contains w.cwd (below base p)) :
    ((w.project base).document visibility (below [] p)).1.toOption =
      (w.document visibility (below base p)).1.toOption.map (Document.inFile (below [] p)) := by
  have hinside : (w.project base).files.contains (w.project base).cwd (below [] p) := by
    rwa [← h.contains_below hp]
  have htext : (w.project base).files.textAt ((w.project base).location (below [] p)) =
      w.files.textAt (w.location (below base p)) := by
    obtain ⟨entry, hfind⟩ := FileTree.exists_find_of_contains hfile
    have hget : w.files.get? (w.location (below base p)) = some entry :=
      (FileTree.find_eq_ok.1 hfind).2
    rw [h.location_below hp] at hget ⊢
    exact FileTree.textAt_below (by rw [hget]; exact Option.some_ne_none entry)
  rw [document_eq_textAt hcwd hfile, document_eq_textAt (rooted_cwd_project w base) hinside, htext]
  cases w.files.textAt (w.location (below base p)) with
  | error fault => rfl
  | ok source =>
    simp only [toOption_mapError]
    exact Document.toOption_ofSource_inFile visibility (below base p) (below [] p) source

end HasDirectory

end Workspace

/-! ### Imports of a project -/

namespace Site

variable {s s' : Site}

theorem entityImport_congr {c c' : Contribution} (hclauses : clauses c = clauses c')
    (hspecifier : s.specifier? c.file = s'.specifier? c'.file) :
    s.entityImport c = s'.entityImport c' := by
  simp only [entityImport, hclauses, hspecifier]

theorem entityImports_congr {cs cs' : List Contribution}
    (h : cs.map s.entityImport = cs'.map s'.entityImport) :
    s.entityImports cs = s'.entityImports cs' := by
  induction cs generalizing cs' with
  | nil =>
    obtain rfl : cs' = [] := by simpa using h.symm
    rfl
  | cons c cs ih =>
    obtain ⟨c', cs', rfl⟩ : ∃ d ds, cs' = d :: ds := by
      refine List.exists_cons_of_ne_nil fun hnil => ?_
      rw [hnil] at h
      cases h
    rw [List.map_cons, List.map_cons, List.cons.injEq] at h
    simp only [entityImports, h.1, ih h.2]

theorem statements_congr {imports imports' : List ImportStatement} {cs cs' : List Contribution}
    (hcs : cs.map s.entityImport = cs'.map s'.entityImport)
    (himports : imports.map s.relocate = imports'.map s'.relocate) :
    s.statements imports cs = s'.statements imports' cs' := by
  simp only [statements, entityImports_congr hcs, himports]

end Site

/-- A request for files below a directory. -/
def Request.below (base : Text) (r : Request) : Request :=
  { r with source := Path.below base r.source, target := Path.below base r.target }

namespace Workspace.HasDirectory

variable {w : Workspace} {base p output : Text} {settings : Settings} {d e : Document}

theorem specifier?_below (h : w.HasDirectory base) (hcwd : Path.Rooted w.cwd)
    (houtput : StaysBelow output) (hp : StaysBelow p) :
    (settings.site w (below base output)).specifier? (below base p) =
      (settings.site (w.project base) (below [] output)).specifier? (below [] p) := by
  have hrelative : Path.relative w.cwd (below base output) (below base p) =
      Path.relative (w.project base).cwd (below [] output) (below [] p) :=
    Path.relative_below hcwd (rooted_cwd_project w base) (.inr h.rooted) (.inl rfl) houtput hp
  rw [Site.specifier?, Site.specifier?, if_neg (Path.below_ne_nil base p),
    if_neg (Path.below_ne_nil [] p)]
  show Except.ok (if settings.stripExtension then
      Path.withoutExtension (Path.relative w.cwd (below base output) (below base p))
    else Path.relative w.cwd (below base output) (below base p)) = _
  rw [hrelative]
  rfl

theorem entityImport_below (h : w.HasDirectory base) (hcwd : Path.Rooted w.cwd)
    (houtput : StaysBelow output) (hp : StaysBelow p) (d : Document) (file : Text) :
    (settings.site w (below base output)).entityImport (d.contribution (below base p)) =
      (settings.site (w.project base) (below [] output)).entityImport
        ((d.inFile file).contribution (below [] p)) :=
  Site.entityImport_congr rfl (h.specifier?_below hcwd houtput hp)

/-- The imports that a file of a project makes are relocated alike wherever the project lies. -/
theorem map_relocate_below (h : w.HasDirectory base) (hcwd : Path.Rooted w.cwd)
    (houtput : StaysBelow output) {visibility : Visibility}
    (hfile : w.files.contains w.cwd (below base p))
    (hd : (w.document visibility (below base p)).1 = .ok d)
    (himports : w.ImportsStayBelow visibility base p) :
    d.imports.map (settings.site w (below base output)).relocate =
      (d.inFile (below [] p)).imports.map
        (settings.site (w.project base) (below [] output)).relocate := by
  rw [Document.inFile, List.map_map]
  refine List.map_congr_left fun i hi => ?_
  obtain ⟨source, -, hsource⟩ := exists_ofSource_eq hcwd hfile hd
  obtain ⟨x, rfl⟩ := Document.exists_importText_of_mem_imports hsource hi
  have hstays := himports hfile d (by rw [hd]; rfl) _ hi
  simp only [Function.comp_apply, ImportStatement.inFile, Site.relocate]
  by_cases hrelative : Path.isRelative x.specifier = true
  · have htarget := Path.relative_beside_below hcwd (rooted_cwd_project w base) (.inr h.rooted)
      (.inl rfl) houtput (Path.not_rooted_of_isRelative hrelative) (hstays hrelative)
    simp only [Settings.site]
    rw [htarget]
    rfl
  · simp only [hrelative, Bool.not_false, if_true]

theorem extend_below (h : w.HasDirectory base) (hcwd : Path.Rooted w.cwd)
    (houtput : StaysBelow output) {r : Request}
    (hr : ∀ p ∈ [r.source, r.target], StaysBelow p ∧ w.ImportsStayBelow settings.visibility base p)
    (hcontains : ∀ p ∈ [r.source, r.target], w.files.contains w.cwd (below base p))
    (hd : (w.document settings.visibility (below base r.source)).1 = .ok d)
    (he : (w.document settings.visibility (below base r.target)).1 = .ok e) (a : Artifact) :
    a.extend (settings.site w (below base output)) (r.below base) d e =
      a.extend (settings.site (w.project base) (below [] output)) (r.below [])
        (d.inFile (below [] r.source)) (e.inFile (below [] r.target)) := by
  obtain ⟨hsource, hsourceImports⟩ := hr r.source (by simp)
  obtain ⟨htarget, htargetImports⟩ := hr r.target (by simp)
  have himports : (d.imports ++ e.imports).map (settings.site w (below base output)).relocate =
      ((d.inFile (below [] r.source)).imports ++ (e.inFile (below [] r.target)).imports).map
        (settings.site (w.project base) (below [] output)).relocate := by
    rw [List.map_append, List.map_append,
      h.map_relocate_below hcwd houtput (hcontains r.source (by simp)) hd hsourceImports,
      h.map_relocate_below hcwd houtput (hcontains r.target (by simp)) he htargetImports]
  have hcontributions : (contributions (r.below base) d e).map
        (settings.site w (below base output)).entityImport =
      (contributions (r.below []) (d.inFile (below [] r.source))
        (e.inFile (below [] r.target))).map
          (settings.site (w.project base) (below [] output)).entityImport := by
    simp only [contributions_eq, Request.below, Path.below_inj]
    split
    · simp only [List.map_cons, List.map_nil,
        h.entityImport_below hcwd houtput htarget e (below [] r.target)]
    · simp only [List.map_cons, List.map_nil,
        h.entityImport_below hcwd houtput hsource d (below [] r.source),
        h.entityImport_below hcwd houtput htarget e (below [] r.target)]
  unfold Artifact.extend
  rw [Site.statements_congr hcontributions himports]
  rfl

theorem missing_below (h : w.HasDirectory base) {r : Request}
    (hr : ∀ p ∈ [r.source, r.target], StaysBelow p) :
    (r.below base).missing w = [] ↔ (r.below []).missing (w.project base) = [] := by
  have hsource := h.contains_below (hr r.source (by simp))
  have htarget := h.contains_below (hr r.target (by simp))
  simp only [Request.missing, Request.below, List.filter_eq_nil_iff, List.forall_mem_cons, hsource,
    htarget]
  simp

/-- One more request adds to an artifact what it adds in the project itself, or fails as there. -/
theorem toOption_withRequest_below (h : w.HasDirectory base) (hcwd : Path.Rooted w.cwd)
    (houtput : StaysBelow output) {r : Request}
    (hr : ∀ p ∈ [r.source, r.target], StaysBelow p ∧ w.ImportsStayBelow settings.visibility base p)
    (a : Artifact) :
    (a.withRequest w settings (below base output) (r.below base)).toOption =
      (a.withRequest (w.project base) settings (below [] output) (r.below [])).toOption := by
  have hmissing := h.missing_below fun p hp => (hr p hp).1
  unfold Artifact.withRequest
  by_cases hnone : (r.below base).missing w = []
  · have hcontains : ∀ p ∈ [r.source, r.target], w.files.contains w.cwd (below base p) := by
      simpa [Request.missing, Request.below] using hnone
    have hsource := h.toOption_document_project hcwd settings.visibility (hr r.source (by simp)).1
      (hcontains r.source (by simp))
    have htarget := h.toOption_document_project hcwd settings.visibility (hr r.target (by simp)).1
      (hcontains r.target (by simp))
    rw [if_pos hnone, if_pos (hmissing.1 hnone)]
    simp only [toOption_bind, Request.below, hsource, htarget]
    cases hd : (w.document settings.visibility (below base r.source)).1 with
    | error e => rfl
    | ok d =>
      cases he : (w.document settings.visibility (below base r.target)).1 with
      | error e => rfl
      | ok e => exact congrArg Except.toOption (h.extend_below hcwd houtput hr hcontains hd he a)
  · rw [if_neg hnone, if_neg (mt hmissing.2 hnone)]

/-- Whether the imports of a file stay in a project shows in the project itself. -/
theorem importsStayBelow_iff (h : w.HasDirectory base) (hcwd : Path.Rooted w.cwd)
    (visibility : Visibility) (hp : StaysBelow p) :
    w.ImportsStayBelow visibility base p ↔ (w.project base).ImportsStayBelow visibility [] p := by
  unfold Workspace.ImportsStayBelow
  rw [← h.contains_below hp]
  refine forall_congr' fun hfile => ?_
  rw [h.toOption_document_project hcwd visibility hp hfile]
  cases (w.document visibility (below base p)).1 with
  | error e => simp [Except.toOption]
  | ok d => simp [Except.toOption, Document.inFile, ImportStatement.inFile]

end Workspace.HasDirectory

namespace Run

variable {v w : Workspace} {base rootV rootW output : Text} {settings : Settings}
  {requests : List Request}

/-- What is built from the files of a project is what is built there from its files alone. -/
theorem toOption_outcome_build_project (h : w.HasDirectory base) (hcwd : Path.Rooted w.cwd)
    (houtput : StaysBelow output)
    (hrequests : ∀ r ∈ requests, ∀ p ∈ [r.source, r.target],
      StaysBelow p ∧ w.ImportsStayBelow settings.visibility base p) :
    (build w settings (requests.map (Request.below base)) (below base output)).outcome.toOption =
      (build (w.project base) settings (requests.map (Request.below []))
        (below [] output)).outcome.toOption := by
  rw [outcome_build hcwd, outcome_build (w.rooted_cwd_project base)]
  generalize ({} : Artifact) = a
  induction requests generalizing a with
  | nil => rfl
  | cons r requests ih =>
    rw [List.forall_mem_cons] at hrequests
    obtain ⟨hr, hrequests⟩ := hrequests
    simp only [List.map_cons, List.foldlM_cons, toOption_bind]
    rw [h.toOption_withRequest_below hcwd houtput hr a]
    refine Option.bind_congr fun b _ => ?_
    exact ih hrequests b

/-- An artifact does not depend on where the project lies: from two directories that hold the same
file tree, the same requests lead to the same artifact, or to none. -/
theorem toOption_outcome_build_below (hv : v.HasDirectory rootV) (hw : w.HasDirectory rootW)
    (hcwdV : Path.Rooted v.cwd) (hcwdW : Path.Rooted w.cwd)
    (htree : v.files.below (v.location rootV) = w.files.below (w.location rootW))
    (houtput : StaysBelow output)
    (hrequests : ∀ r ∈ requests, ∀ p ∈ [r.source, r.target],
      StaysBelow p ∧ v.ImportsStayBelow settings.visibility rootV p) :
    (build v settings (requests.map (Request.below rootV)) (below rootV output)).outcome.toOption =
      (build w settings (requests.map (Request.below rootW))
        (below rootW output)).outcome.toOption := by
  have hproject : v.project rootV = w.project rootW := by
    unfold Workspace.project
    rw [htree]
  have himports : ∀ r ∈ requests, ∀ p ∈ [r.source, r.target],
      StaysBelow p ∧ w.ImportsStayBelow settings.visibility rootW p := by
    intro r hr p hp
    obtain ⟨hstays, hpImports⟩ := hrequests r hr p hp
    refine ⟨hstays, (hw.importsStayBelow_iff hcwdW settings.visibility hstays).2 ?_⟩
    rw [← hproject]
    exact (hv.importsStayBelow_iff hcwdV settings.visibility hstays).1 hpImports
  rw [toOption_outcome_build_project hv hcwdV houtput hrequests,
    toOption_outcome_build_project hw hcwdW houtput himports, hproject]

/-- A project of three files at a place; one of them imports from the directory above it. -/
def projectAt (place : Location) (cwd : Text) : Workspace where
  files :=
    (((⟨fun _ => none⟩ : FileTree).insert (place ++ ["src".toList, "a.ts".toList])
      (FileTree.textEntry ("import \x7b T \x7d from '../t'\n".toList ++
        "export interface A \x7b x: T \x7d".toList))).insert (place ++ ["b.ts".toList])
      (FileTree.textEntry "export interface B \x7b x: string \x7d".toList)).insert
      (place ++ ["t.ts".toList]) (FileTree.textEntry "export type T = string".toList)
  cwd := cwd

theorem below_projectAt (place : Location) (cwd : Text) :
    (projectAt place cwd).files.below place = (projectAt [] cwd).files := by
  simp only [projectAt, FileTree.below_insert]
  rfl

/-- A project in the root directory and one two steps further down. -/
theorem toOption_outcome_build_below_projectAt :
    let v := projectAt ["p".toList] "/".toList
    let w := projectAt ["q".toList, "r".toList] "/q/r/src".toList
    let requests : List Request := [{ source := "src/a.ts".toList, target := "b.ts".toList }]
    (v.HasDirectory "/p".toList ∧ w.HasDirectory "/q/r".toList ∧ Path.Rooted v.cwd ∧
      Path.Rooted w.cwd ∧
      v.files.below (v.location "/p".toList) = w.files.below (w.location "/q/r".toList) ∧
      StaysBelow "out/m.ts".toList ∧
      ∀ r ∈ requests, ∀ p ∈ [r.source, r.target],
        StaysBelow p ∧ v.ImportsStayBelow .exportedOnly "/p".toList p) ∧
      (build v {} (requests.map (Request.below "/p".toList))
        (below "/p".toList "out/m.ts".toList)).outcome.toOption.map Artifact.imports =
          some (["import \x7b A \x7d from '../src/a'", "import \x7b B \x7d from '../b'",
            "import \x7b T \x7d from '../t'"].map String.toList) ∧
      (build v {} (requests.map (Request.below "/p".toList))
        (below "/p".toList "out/m.ts".toList)).outcome.toOption =
      (build w {} (requests.map (Request.below "/q/r".toList))
        (below "/q/r".toList "out/m.ts".toList)).outcome.toOption := by
  intro v w requests
  have hv : v.HasDirectory "/p".toList := ⟨by decide, by rfl⟩
  have hw : w.HasDirectory "/q/r".toList := ⟨by decide, by rfl⟩
  have hplaceV : v.location "/p".toList = ["p".toList] := by decide
  have hplaceW : w.location "/q/r".toList = ["q".toList, "r".toList] := by decide
  have htree : v.files.below (v.location "/p".toList) =
      w.files.below (w.location "/q/r".toList) := by
    rw [hplaceV, hplaceW, below_projectAt, below_projectAt]
    rfl
  have houtput : StaysBelow "out/m.ts".toList := by decide
  have hrequests : ∀ r ∈ requests, ∀ p ∈ [r.source, r.target],
      StaysBelow p ∧ v.ImportsStayBelow .exportedOnly "/p".toList p := by
    decide +kernel
  refine ⟨⟨hv, hw, rfl, rfl, htree, houtput, hrequests⟩, ?_, ?_⟩
  · decide +kernel
  · exact toOption_outcome_build_below hv hw rfl rfl htree houtput hrequests

end Run

end ShapeMapper
