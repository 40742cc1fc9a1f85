import ShapeMapper.Proofs.Generator
import ShapeMapper.Proofs.ImportBlock.Binding
import ShapeMapper.Proofs.Invariant

/-!
# Where the imports of an artifact come from

Every import of an artifact imports the shapes of a requested file or is an import of such a file,
relocated, and none stands twice: every request keeps it so (`Run.Accounted.extend`), hence every
build (`Run.ensures_build`). One place has one import for its shapes
(`Workspace.Holds.entityImport_congr`), so if no shape is declared at two places, no name is bound
by two of these imports: `Run.disjoint_bound_of_build`. Relocated imports are kept as they are
written, so a name of theirs may be bound twice: `Run.not_disjoint_bound_sharedName`.
-/

namespace ShapeMapper

/-! ### The statements of a request -/

/-- The contributions of a request: its two files, or one if they are named alike. -/
theorem contributions_eq (r : Request) (source target : Document) :
    contributions r source target =
      if r.source = r.target then [target.contribution r.target]
      else [source.contribution r.source, target.contribution r.target] := by
  simp only [contributions, Keyed.ofList, List.foldl_cons, List.foldl_nil, Keyed.put]
  rfl

theorem eq_of_mem_contributions {r : Request} {source target : Document} {c : Contribution}
    (h : c ∈ contributions r source target) :
    c = source.contribution r.source ∨ c = target.contribution r.target := by
  rw [contributions_eq] at h
  split at h
  · exact .inr (List.mem_singleton.1 h)
  · simpa using h

namespace Site

variable {s : Site} {statements : List Text}

/-- The statements for some files, if all can be imported from, are the imports of these files. -/
theorem mem_iff_of_entityImports {cs : List Contribution}
    (h : s.entityImports cs = (statements, none)) :
    (∀ c ∈ cs, ∃ statement, s.entityImport c = .ok statement) ∧
      ∀ t, t ∈ statements ↔ ∃ c ∈ cs, s.entityImport c = .ok (some t) := by
  induction cs generalizing statements with
  | nil =>
    cases h
    simp
  | cons c cs ih =>
    unfold entityImports at h
    split at h
    · cases h
    · next statement hstatement =>
      simp only [Prod.mk.injEq] at h
      obtain ⟨rfl, hnone⟩ := h
      obtain ⟨hall, hmem⟩ := ih (Prod.ext rfl hnone)
      refine ⟨List.forall_mem_cons.2 ⟨⟨statement, hstatement⟩, hall⟩, fun t => ?_⟩
      rw [List.mem_append, hmem, Option.mem_toList, List.exists_mem_cons_iff, hstatement]
      exact or_congr_left (by simp)

end Site

/-- What a request adds to an artifact: the imports of its files, those which they make themselves,
and its plans. -/
theorem Artifact.exists_of_extend {site : Site} {a b : Artifact} {r : Request} {d e : Document}
    (h : a.extend site r d e = .ok b) :
    ∃ entities, site.entityImports (contributions r d e) = (entities, none) ∧
      b.imports = ImportBlock.insertAll a.imports
        (entities ++ (d.imports ++ e.imports).map site.relocate) ∧
      b.mappers = a.mappers ++ Plan.between d.entities e.entities r.bothWays := by
  unfold extend at h
  split at h
  · next statements hstatements =>
    cases h
    unfold Site.statements at hstatements
    split at hstatements
    · next entities hentities =>
      obtain rfl := congrArg Prod.fst hstatements
      exact ⟨entities, hentities, rfl, rfl⟩
    · next hfaulty => exact absurd hstatements (hfaulty statements)
  · cases h

/-! ### Names and the places that declare them -/

namespace Workspace

variable {w : Workspace} {visibility : Visibility} {place other : Location} {d e : Document}

/-- Whether no shape is declared at two places. -/
def DeclaresOnce (w : Workspace) (visibility : Visibility) : Prop :=
  ∀ ⦃place other : Location⦄ ⦃d e : Document⦄ ⦃name : Text⦄,
    w.Holds visibility place d → w.Holds visibility other e →
      name ∈ d.names → name ∈ e.names → place = other

/-- Whether every name that a file imports is declared by the file that the import reaches. -/
def ImportsDeclared (w : Workspace) (visibility : Visibility) : Prop :=
  ∀ ⦃place : Location⦄ ⦃d : Document⦄, w.Holds visibility place d → ∀ i ∈ d.imports,
    ∀ name ∈ ImportBlock.bound i.text, ∃ extension ∈ Path.extensions, ∃ e : Document,
      w.Holds visibility (w.location (Path.beside d.file (i.specifier ++ extension))) e ∧
        name ∈ e.names

namespace Holds

theorem isWord_of_mem_names (hcwd : Path.Rooted w.cwd) (h : w.Holds visibility place d) :
    ∀ x ∈ d.names, Text.IsWord x := by
  obtain ⟨source, -, hsource⟩ := exists_ofSource_eq hcwd h.contains h.document_eq
  exact fun x hx => Document.isWord_of_mem_names hsource hx

variable {site : Site} {file named : Text} {s t : Text}

/-- The import of the shapes of a file binds names of these shapes. -/
theorem mem_names_of_mem_bound (hcwd : Path.Rooted w.cwd) (h : w.Holds visibility place d)
    (hs : site.entityImport (d.contribution file) = .ok (some s)) {x : Text}
    (hx : x ∈ ImportBlock.bound s) : x ∈ d.names := by
  have hdefault : ∀ y ∈ d.defaultName, y ∈ d.names := fun y hy =>
    Document.mem_names_of_defaultName hy
  rw [Site.bound_entityImport (h.isWord_of_mem_names hcwd)
    (fun y hy => h.isWord_of_mem_names hcwd y (hdefault y hy)) hs] at hx
  rcases List.mem_append.1 hx with hx | hx
  · exact hdefault x (Option.mem_toList.1 hx)
  · exact List.mem_eraseDups.1 (List.mem_filter.1 hx).1

/-- The shapes of a place are imported alike under every name of it. -/
theorem entityImport_congr (hcwd : Path.Rooted w.cwd) (hsite : site.cwd = w.cwd)
    (hd : w.Holds visibility (w.location file) d) (he : w.Holds visibility (w.location named) e)
    (hplace : w.location file = w.location named)
    (hs : site.entityImport (d.contribution file) = .ok (some s))
    (ht : site.entityImport (e.contribution named) = .ok (some t)) : s = t := by
  have hentities : d.entities = e.entities := hd.entities_eq hcwd (hplace ▸ he)
  have hnames : d.names = e.names := congrArg (List.map Entity.name) hentities
  have hdefault : d.defaultName = e.defaultName :=
    congrArg (fun l => (l.find? Entity.isDefault).map Entity.name) hentities
  have hclauses : Site.clauses (d.contribution file) = Site.clauses (e.contribution named) := by
    rw [Site.clauses, Document.contribution, hnames, hdefault]
    rfl
  have hspecifier : site.specifier file = site.specifier named := by
    rw [Site.specifier, hsite, Path.relative_congr hcwd hplace, ← hsite]
    rfl
  rw [Site.eq_of_entityImport hs, Site.eq_of_entityImport ht, hclauses]
  exact congrArg (fun specifier => _ ++ specifier ++ ['\'']) hspecifier

end Holds

end Workspace

/-! ### The imports of a build -/

namespace Run

variable {w : Workspace} {settings : Settings} {requests : List Request} {output : Text}

/-- Whether a document is that of a file which a request names. -/
def Reads (w : Workspace) (settings : Settings) (requests : List Request) (file : Text)
    (d : Document) : Prop :=
  (∃ r ∈ requests, file = r.source ∨ file = r.target) ∧
    w.Holds settings.visibility (w.location file) d

/-- Whether a statement imports the shapes of a requested file. -/
def ImportsShapes (w : Workspace) (settings : Settings) (requests : List Request) (output : Text)
    (statement : Text) : Prop :=
  ∃ file d, Reads w settings requests file d ∧
    (settings.site w output).entityImport (d.contribution file) = .ok (some statement)

/-- Whether a statement is an import that a requested file makes, relocated. -/
def IsRelocated (w : Workspace) (settings : Settings) (requests : List Request) (output : Text)
    (statement : Text) : Prop :=
  ∃ file d, Reads w settings requests file d ∧
    ∃ i ∈ d.imports, (settings.site w output).relocate i = statement

/-- What holds of the imports of an artifact while it is built. -/
structure Accounted (w : Workspace) (settings : Settings) (requests : List Request)
    (output : Text) (a : Artifact) : Prop where
  nodup : a.imports.Nodup
  origin : ∀ s ∈ a.imports, ImportsShapes w settings requests output s ∨
    IsRelocated w settings requests output s

/-- One more request adds imports of its two files only. -/
theorem Accounted.extend {a b : Artifact} (ha : Accounted w settings requests output a)
    {r : Request} {d e : Document} (hd : Reads w settings requests r.source d)
    (he : Reads w settings requests r.target e)
    (h : a.extend (settings.site w output) r d e = .ok b) :
    Accounted w settings requests output b := by
  obtain ⟨entities, hentities, himports, -⟩ := Artifact.exists_of_extend h
  refine ⟨himports ▸ ImportBlock.nodup_insertAll ha.nodup _, fun s hs => ?_⟩
  rw [himports, ImportBlock.mem_insertAll, List.mem_append] at hs
  rcases hs with hold | hentity | hrelocated
  case inl => exact ha.origin s hold
  case inr.inl =>
    obtain ⟨c, hc, hs⟩ := ((Site.mem_iff_of_entityImports hentities).2 s).1 hentity
    rcases eq_of_mem_contributions hc with rfl | rfl
    · exact .inl ⟨r.source, d, hd, hs⟩
    · exact .inl ⟨r.target, e, he, hs⟩
  case inr.inr =>
    obtain ⟨i, hi, hs⟩ := List.mem_map.1 hrelocated
    rcases List.mem_append.1 hi with hi | hi
    · exact .inr ⟨r.source, d, hd, i, hi, hs⟩
    · exact .inr ⟨r.target, e, he, i, hi, hs⟩

theorem ensures_build :
    Ensures w settings.visibility (Accounted w settings requests output)
      (build w settings requests output) := by
  refine ensures_build_of_extend ⟨by simp, by simp⟩ fun a ha r hr d e b hd he h => ?_
  exact ha.extend ⟨⟨r, hr, .inl rfl⟩, hd⟩ ⟨⟨r, hr, .inr rfl⟩, he⟩ h

/-- No import stands twice, each imports the shapes of a requested file or is an import of such a
file, and two that import shapes bind different names if no shape is declared at two places. -/
theorem disjoint_bound_of_build (hcwd : Path.Rooted w.cwd)
    (hw : w.DeclaresOnce settings.visibility) {s t : Session} {a : Artifact}
    (hs : w.Faithful settings.visibility s.documents)
    (h : build w settings requests output s = .ok a t) :
    a.imports.Nodup ∧
      (∀ x ∈ a.imports, ImportsShapes w settings requests output x ∨
        IsRelocated w settings requests output x) ∧
      ∀ x ∈ a.imports, ∀ y ∈ a.imports, x ≠ y → ImportsShapes w settings requests output x →
        ImportsShapes w settings requests output y →
          (ImportBlock.bound x).Disjoint (ImportBlock.bound y) := by
  have ha := ensures_build.of_ok hs h
  refine ⟨ha.nodup, ha.origin, fun x _ y _ hne hx hy name hbx hby => hne ?_⟩
  obtain ⟨file, d, hd, hx⟩ := hx
  obtain ⟨named, e, he, hy⟩ := hy
  have hplace : w.location file = w.location named :=
    hw hd.2 he.2 (hd.2.mem_names_of_mem_bound hcwd hx hbx)
      (he.2.mem_names_of_mem_bound hcwd hy hby)
  exact hd.2.entityImport_congr hcwd rfl he.2 hplace hx hy

/-! ### A name that is bound three times -/

/-- A file that imports a shape of another one with double quotes, that one, and a file that
imports it with single quotes. -/
def sharedName : Workspace where
  files :=
    ((FileTree.insert ⟨fun _ => none⟩ ["p".toList, "a.ts".toList] (FileTree.textEntry
      "import \x7b C \x7d from \"./b\"\nexport interface A \x7b c: C \x7d".toList)).insert
      ["p".toList, "b.ts".toList] (FileTree.textEntry
        "export interface B \x7b x: C \x7d\nexport interface C \x7b \x7d".toList)).insert
      ["p".toList, "d.ts".toList] (FileTree.textEntry
        "import \x7b C \x7d from './b'\nexport interface D \x7b c: C \x7d".toList)
  cwd := "/p".toList

/-- The documents of its three files. -/
def sharedNameDocuments : List Document :=
  let c : Property := { name := "c".toList, type := "C".toList }
  [ { file := "a.ts".toList
      entities := [{ name := "A".toList, properties := [c] }]
      imports := [{
        file := "a.ts".toList
        text := "import \x7b C \x7d from \"./b\"".toList
        specifier := "./b".toList
        relative := true }] },
    { file := "b.ts".toList
      entities := [
        { name := "B".toList, properties := [{ name := "x".toList, type := "C".toList }] },
        { name := "C".toList }] },
    { file := "d.ts".toList
      entities := [{ name := "D".toList, properties := [c] }]
      imports := [{
        file := "d.ts".toList
        text := "import \x7b C \x7d from './b'".toList
        specifier := "./b".toList
        relative := true }] } ]

theorem holds_sharedName : ∀ d ∈ sharedNameDocuments,
    sharedName.Holds .exportedOnly (sharedName.location d.file) d := by
  have hall : ∀ d ∈ sharedNameDocuments, sharedName.files.contains sharedName.cwd d.file = true ∧
      (sharedName.document .exportedOnly d.file).1 = .ok d := by decide +kernel
  exact fun d hd => ⟨(hall d hd).1, rfl, (hall d hd).2⟩

/-- Every document of the project is one of the three, under some name of its file. -/
theorem exists_of_holds_sharedName {place : Location} {d : Document}
    (h : sharedName.Holds .exportedOnly place d) :
    ∃ e ∈ sharedNameDocuments, place = sharedName.location e.file ∧ d = e.inFile d.file := by
  obtain ⟨source, hsource, -⟩ :=
    Workspace.exists_ofSource_eq (by decide) h.contains h.document_eq
  rw [h.location_eq] at hsource
  obtain ⟨content, hcontent⟩ := FileTree.exists_file_of_textAt hsource
  -- the place is that of one of the files that were put in, the last one first
  have hdocument : ∃ e ∈ sharedNameDocuments, sharedName.location e.file = place := by
    rcases FileTree.eq_or_of_get?_insert hcontent with rfl | hcontent
    · decide
    rcases FileTree.eq_or_of_get?_insert hcontent with rfl | hcontent
    · decide
    rcases FileTree.eq_or_of_get?_insert hcontent with rfl | hcontent
    · decide
    · cases hcontent
  obtain ⟨e, he, rfl⟩ := hdocument
  exact ⟨e, he, rfl, (holds_sharedName e he).eq_inFile (by decide) h⟩

theorem declaresOnce_sharedName : sharedName.DeclaresOnce .exportedOnly := by
  intro place other d e name hd he hname hname'
  obtain ⟨d', hd', rfl, heq⟩ := exists_of_holds_sharedName hd
  obtain ⟨e', he', rfl, heq'⟩ := exists_of_holds_sharedName he
  have hname : name ∈ d'.names := by rwa [heq] at hname
  have hname' : name ∈ e'.names := by rwa [heq'] at hname'
  have honce : ∀ d ∈ sharedNameDocuments, ∀ e ∈ sharedNameDocuments, ∀ name ∈ d.names,
      name ∈ e.names → sharedName.location d.file = sharedName.location e.file := by
    decide
  exact honce d' hd' e' he' name hname hname'

theorem importsDeclared_sharedName : sharedName.ImportsDeclared .exportedOnly := by
  intro place d hd i hi name hname
  obtain ⟨e, he, hplace, hde⟩ := exists_of_holds_sharedName hd
  have hi : i ∈ e.imports.map (ImportStatement.inFile d.file) := by rwa [hde] at hi
  obtain ⟨j, hj, rfl⟩ := List.mem_map.1 hi
  -- the import reaches the same place under every name of its file
  have hbeside : sharedName.location (Path.beside d.file (j.specifier ++ ".ts".toList)) =
      sharedName.location (Path.beside e.file (j.specifier ++ ".ts".toList)) :=
    Path.ofPath_beside_congr (hd.isName_fileName (by decide))
      ((holds_sharedName e he).isName_fileName (by decide)) (hd.location_eq.trans hplace) _
  have hreached : ∀ e ∈ sharedNameDocuments, ∀ j ∈ e.imports, ∃ f ∈ sharedNameDocuments,
      sharedName.location (Path.beside e.file (j.specifier ++ ".ts".toList)) =
        sharedName.location f.file ∧
      ∀ name ∈ ImportBlock.bound j.text, name ∈ f.names := by decide
  obtain ⟨f, hf, hfile, hnames⟩ := hreached e he j hj
  refine ⟨".ts".toList, by decide, f, ?_, hnames name hname⟩
  rw [show (j.inFile d.file).specifier = j.specifier from rfl, hbeside, hfile]
  exact holds_sharedName f hf

/-- A request for two of its files, and one for the third. -/
def sharedNameRequests : List Request :=
  [{ source := "a.ts".toList, target := "b.ts".toList },
    { source := "a.ts".toList, target := "d.ts".toList }]

/-- A session that remembers its documents. -/
def sharedNameSession : Session where
  documents := sharedNameDocuments.map fun d => (sharedName.location d.file, d)

theorem faithful_sharedNameSession :
    sharedName.Faithful .exportedOnly sharedNameSession.documents := by
  intro place d h
  obtain ⟨⟨other, e⟩, hfind, rfl⟩ := Option.map_eq_some_iff.1 h
  obtain ⟨e, he, heq⟩ := List.mem_map.1 (List.mem_of_find?_eq_some hfind)
  obtain ⟨rfl, rfl⟩ := Prod.mk.inj heq
  have hplace : sharedName.location e.file = place := by simpa using List.find?_some hfind
  exact hplace ▸ holds_sharedName e he

theorem exists_build_sharedName :
    ∃ a t, build sharedName {} sharedNameRequests "m.ts".toList {} = .ok a t ∧
      a.imports = ["import \x7b A \x7d from './a'", "import \x7b B, C \x7d from './b'",
        "import \x7b C \x7d from \"./b\"", "import \x7b D \x7d from './d'",
        "import \x7b C \x7d from './b'"].map String.toList := by
  have himports : ((build sharedName {} sharedNameRequests "m.ts".toList).run'
      sharedNameSession).map Artifact.imports = some (["import \x7b A \x7d from './a'",
        "import \x7b B, C \x7d from './b'", "import \x7b C \x7d from \"./b\"",
        "import \x7b D \x7d from './d'", "import \x7b C \x7d from './b'"].map String.toList) := by
    decide
  obtain ⟨a, ha, himports⟩ := Option.map_eq_some_iff.1 himports
  obtain ⟨t, hrun⟩ := exists_ok_of_run' ha
  obtain ⟨a, t, hbuild, rfl⟩ := (related_build_self (by decide) _ _ _).exists_ok (t := {})
    ⟨faithful_sharedNameSession, .nil⟩ hrun
  exact ⟨_, t, hbuild, himports⟩

/-- The imports of its shapes bind different names. -/
theorem disjoint_bound_sharedName :
    Path.Rooted sharedName.cwd ∧ sharedName.DeclaresOnce .exportedOnly ∧
      sharedName.Faithful .exportedOnly ({} : Session).documents ∧
      ∃ a t, build sharedName {} sharedNameRequests "m.ts".toList {} = .ok a t ∧
        a.imports.Nodup ∧
        (∀ x ∈ a.imports, ImportsShapes sharedName {} sharedNameRequests "m.ts".toList x ∨
          IsRelocated sharedName {} sharedNameRequests "m.ts".toList x) ∧
        ∀ x ∈ a.imports, ∀ y ∈ a.imports, x ≠ y →
          ImportsShapes sharedName {} sharedNameRequests "m.ts".toList x →
          ImportsShapes sharedName {} sharedNameRequests "m.ts".toList y →
            (ImportBlock.bound x).Disjoint (ImportBlock.bound y) := by
  obtain ⟨a, t, hbuild, -⟩ := exists_build_sharedName
  exact ⟨by decide, declaresOnce_sharedName, .nil, a, t, hbuild,
    disjoint_bound_of_build (by decide) declaresOnce_sharedName .nil hbuild⟩

/-- One of its names is bound by the import of a file's shapes and by two relocated imports. -/
theorem not_disjoint_bound_sharedName :
    Path.Rooted sharedName.cwd ∧ sharedName.DeclaresOnce .exportedOnly ∧
      sharedName.ImportsDeclared .exportedOnly ∧
      ∃ a t, build sharedName {} sharedNameRequests "m.ts".toList {} = .ok a t ∧
        ∃ x ∈ a.imports, ∃ y ∈ a.imports, ∃ z ∈ a.imports, x ≠ y ∧ y ≠ z ∧
          ImportsShapes sharedName {} sharedNameRequests "m.ts".toList x ∧
          IsRelocated sharedName {} sharedNameRequests "m.ts".toList y ∧
          IsRelocated sharedName {} sharedNameRequests "m.ts".toList z ∧
          "C".toList ∈ ImportBlock.bound x ∧ "C".toList ∈ ImportBlock.bound y ∧
          "C".toList ∈ ImportBlock.bound z := by
  obtain ⟨a, t, hbuild, himports⟩ := exists_build_sharedName
  have hreads : ∀ d ∈ sharedNameDocuments, Reads sharedName {} sharedNameRequests d.file d := by
    have hrequested : ∀ d ∈ sharedNameDocuments, ∃ r ∈ sharedNameRequests,
        d.file = r.source ∨ d.file = r.target := by decide
    exact fun d hd => ⟨hrequested d hd, holds_sharedName d hd⟩
  let site := ({} : Settings).site sharedName "m.ts".toList
  obtain ⟨b, hb, hshapes⟩ : ∃ d ∈ sharedNameDocuments,
      site.entityImport (d.contribution d.file) =
        .ok (some "import \x7b B, C \x7d from './b'".toList) := by decide
  obtain ⟨c, hc, i, hi, hdouble⟩ : ∃ d ∈ sharedNameDocuments, ∃ i ∈ d.imports,
      site.relocate i = "import \x7b C \x7d from \"./b\"".toList := by decide
  obtain ⟨d, hd, j, hj, hsingle⟩ : ∃ d ∈ sharedNameDocuments, ∃ i ∈ d.imports,
      site.relocate i = "import \x7b C \x7d from './b'".toList := by decide
  refine ⟨by decide, declaresOnce_sharedName, importsDeclared_sharedName, a, t, hbuild,
    _, ?_, _, ?_, _, ?_, ?_, ?_, ⟨b.file, b, hreads b hb, hshapes⟩,
    ⟨c.file, c, hreads c hc, i, hi, hdouble⟩, ⟨d.file, d, hreads d hd, j, hj, hsingle⟩, ?_⟩
  · rw [himports]; decide
  · rw [himports]; decide
  · rw [himports]; decide
  · decide
  · decide
  · decide

end Run

end ShapeMapper
