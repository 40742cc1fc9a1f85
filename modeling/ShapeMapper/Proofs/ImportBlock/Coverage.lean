import ShapeMapper.Proofs.Pairs

/-!
# Every name that a mapper mentions is imported

A mapper mentions the shape it starts from and the shape it makes. The plans of a direction are
covered if the imports of its two files, and not just of any files with such shapes, bind the names
(`Run.CoversPlans`). A request covers the plans of its own directions, also where an equal plan is
there already (`Run.Covers.extend`), and no later request takes an import away
(`Run.CoversPlans.mono`). So whatever is built is covered direction by direction:
`Run.covers_of_build`.
-/

namespace ShapeMapper

/-! ### The imports that a request adds -/

theorem Plan.mem_product {sources targets : List Entity} {p : Plan} :
    p ∈ product sources targets ↔ ∃ x ∈ sources, ∃ y ∈ targets, p = Plan.of x y := by
  simp only [product, List.mem_flatMap, List.mem_map, eq_comm (a := p)]

namespace Site

variable {s : Site} {c : Contribution} {name : Text}

/-- Whether the import of a contribution stands in an import block and binds a name. -/
def Binds (s : Site) (imports : List Text) (c : Contribution) (name : Text) : Prop :=
  ∃ statement ∈ imports, s.entityImport c = .ok (some statement) ∧
    name ∈ ImportBlock.bound statement

theorem Binds.mono {imports more : List Text} (h : s.Binds imports c name)
    (hmore : ∀ t ∈ imports, t ∈ more) : s.Binds more c name := by
  obtain ⟨statement, hstatement, himport, hname⟩ := h
  exact ⟨statement, hmore statement hstatement, himport, hname⟩

theorem ne_none_of_entityImport (hname : name ∈ c.names) (hne : name ≠ []) :
    s.entityImport c ≠ .ok none := by
  unfold entityImport
  split
  · next hnil => exact absurd hnil (clauses_ne_nil hname hne)
  · cases s.specifier? c.file with
    | error e => exact nofun
    | ok specifier => exact nofun

/-- The import of a file's shapes, if it is among some statements, binds each of them. -/
theorem binds_of_entityImports {cs : List Contribution} {statements : List Text}
    (h : s.entityImports cs = (statements, none)) (hc : c ∈ cs)
    (hnames : ∀ x ∈ c.names, Text.IsWord x) (hdefault : ∀ x ∈ c.defaultName, Text.IsWord x)
    (hname : name ∈ c.names) : s.Binds statements c name := by
  obtain ⟨hall, hmem⟩ := mem_iff_of_entityImports h
  obtain ⟨statement, himport⟩ := hall c hc
  cases statement with
  | none => exact absurd himport (ne_none_of_entityImport hname (hnames name hname).ne_nil)
  | some t =>
    refine ⟨t, (hmem t).2 ⟨c, hc, himport⟩, himport, ?_⟩
    rw [bound_entityImport hnames hdefault himport, List.mem_append]
    by_cases h : c.defaultName = some name
    · exact .inl (by rw [h]; exact List.mem_singleton_self name)
    · refine .inr (List.mem_filter.2 ⟨List.mem_eraseDups.2 hname, ?_⟩)
      exact decide_eq_true fun h' => h h'.symm

end Site

namespace Workspace.Holds

variable {w : Workspace} {visibility : Visibility} {file named : Text} {d e : Document}

/-- The shapes of a file contribute alike however the file was named when it was read. -/
theorem contribution_eq (hcwd : Path.Rooted w.cwd) (hd : w.Holds visibility (w.location file) d)
    (he : w.Holds visibility (w.location file) e) : d.contribution file = e.contribution file := by
  have hentities : d.entities = e.entities := hd.entities_eq hcwd he
  simp only [Document.contribution, Document.names, Document.defaultName, hentities]

theorem binds (hcwd : Path.Rooted w.cwd) (hd : w.Holds visibility (w.location file) d)
    {site : Site} {cs : List Contribution} {statements : List Text}
    (h : site.entityImports cs = (statements, none)) (hc : d.contribution file ∈ cs) {x : Entity}
    (hx : x ∈ d.entities) : site.Binds statements (d.contribution file) x.name := by
  refine Site.binds_of_entityImports h hc (hd.isWord_of_mem_names hcwd) (fun y hy => ?_)
    (List.mem_map_of_mem hx)
  exact hd.isWord_of_mem_names hcwd y (Document.mem_names_of_defaultName hy)

end Workspace.Holds

/-! ### The plans of a build -/

namespace Run

variable {w : Workspace} {settings : Settings} {output : Text}

/-- Whether an import block covers the plans of a direction: these are the plans of the shapes of
its two files, and the imports of the two files stand in the block and bind the two shapes that a
plan mentions. -/
def CoversPlans (w : Workspace) (settings : Settings) (output : Text) (imports : List Text)
    (f : Text × Text) (plans : List Plan) : Prop :=
  ∃ d e, w.Holds settings.visibility (w.location f.1) d ∧
    w.Holds settings.visibility (w.location f.2) e ∧
    plans = Plan.product d.entities e.entities ∧
    ∀ p ∈ plans, (settings.site w output).Binds imports (d.contribution f.1) p.source ∧
      (settings.site w output).Binds imports (e.contribution f.2) p.target

/-- Whether the plans of an artifact are those of some directions, one direction after the other,
and its import block covers them all. -/
def Covers (w : Workspace) (settings : Settings) (output : Text)
    (directions : List (Text × Text)) (a : Artifact) : Prop :=
  ∃ blocks, a.mappers = blocks.flatten ∧
    List.Forall₂ (CoversPlans w settings output a.imports) directions blocks

theorem CoversPlans.mono {imports more : List Text} {f : Text × Text} {plans : List Plan}
    (h : CoversPlans w settings output imports f plans) (hmore : ∀ t ∈ imports, t ∈ more) :
    CoversPlans w settings output more f plans := by
  obtain ⟨d, e, hd, he, hplans, hbinds⟩ := h
  exact ⟨d, e, hd, he, hplans, fun p hp =>
    ⟨(hbinds p hp).1.mono hmore, (hbinds p hp).2.mono hmore⟩⟩

theorem coversPlans_product (hcwd : Path.Rooted w.cwd) {f : Text × Text} {d e : Document}
    (hd : w.Holds settings.visibility (w.location f.1) d)
    (he : w.Holds settings.visibility (w.location f.2) e) {cs : List Contribution}
    {statements : List Text} (h : (settings.site w output).entityImports cs = (statements, none))
    (hsource : d.contribution f.1 ∈ cs) (htarget : e.contribution f.2 ∈ cs) :
    CoversPlans w settings output statements f (Plan.product d.entities e.entities) := by
  refine ⟨d, e, hd, he, rfl, fun p hp => ?_⟩
  obtain ⟨x, hx, y, hy, rfl⟩ := Plan.mem_product.1 hp
  exact ⟨hd.binds hcwd h hsource hx, he.binds hcwd h htarget hy⟩

/-- The statements of a request cover its plans, there and back. -/
theorem exists_coversPlans_between (hcwd : Path.Rooted w.cwd) {r : Request} {d e : Document}
    (hd : w.Holds settings.visibility (w.location r.source) d)
    (he : w.Holds settings.visibility (w.location r.target) e) {statements : List Text}
    (h : (settings.site w output).entityImports (contributions r d e) = (statements, none)) :
    ∃ blocks, Plan.between d.entities e.entities r.bothWays = blocks.flatten ∧
      List.Forall₂ (CoversPlans w settings output statements) r.directions blocks := by
  have htarget : e.contribution r.target ∈ contributions r d e := by
    rw [contributions_eq]
    split <;> simp
  -- if the files are named alike, the one contribution is that of both
  have hsource : d.contribution r.source ∈ contributions r d e := by
    rw [contributions_eq]
    split
    · next hsame =>
      rw [← hsame] at he ⊢
      rw [hd.contribution_eq hcwd he]
      exact List.mem_singleton_self _
    · exact List.mem_cons_self
  have hthere : CoversPlans w settings output statements (r.source, r.target)
      (Plan.product d.entities e.entities) := coversPlans_product hcwd hd he h hsource htarget
  have hback : CoversPlans w settings output statements (r.target, r.source)
      (Plan.product e.entities d.entities) := coversPlans_product hcwd he hd h htarget hsource
  unfold Plan.between Request.directions
  cases r.bothWays with
  | false => exact ⟨[_], by simp, .cons hthere .nil⟩
  | true => exact ⟨[_, _], by simp, .cons hthere (.cons hback .nil)⟩

/-- One more request covers its own directions, and leaves the others covered. -/
theorem Covers.extend (hcwd : Path.Rooted w.cwd) {directions : List (Text × Text)}
    {a b : Artifact} (ha : Covers w settings output directions a) {r : Request} {d e : Document}
    (hd : w.Holds settings.visibility (w.location r.source) d)
    (he : w.Holds settings.visibility (w.location r.target) e)
    (h : a.extend (settings.site w output) r d e = .ok b) :
    Covers w settings output (directions ++ r.directions) b := by
  obtain ⟨before, hbefore, hcovered⟩ := ha
  obtain ⟨entities, hentities, himports, hmappers⟩ := Artifact.exists_of_extend h
  obtain ⟨blocks, hblocks, hnew⟩ := exists_coversPlans_between hcwd hd he hentities
  have hkept : ∀ t ∈ a.imports, t ∈ b.imports := fun t ht =>
    himports ▸ ImportBlock.mem_insertAll.2 (.inl ht)
  have hadded : ∀ t ∈ entities, t ∈ b.imports := fun t ht =>
    himports ▸ ImportBlock.mem_insertAll.2 (.inr (List.mem_append_left _ ht))
  refine ⟨before ++ blocks, by rw [hmappers, hbefore, hblocks, List.flatten_append], ?_⟩
  exact List.rel_append (hcovered.imp fun f plans hf => hf.mono hkept)
    (hnew.imp fun f plans hf => hf.mono hadded)

/-- A request that is left out has no directions. -/
theorem ensures_covers_addRequest (hcwd : Path.Rooted w.cwd) {directions : List (Text × Text)}
    {a : Artifact} (ha : Covers w settings output directions a) (r : Request) :
    Ensures w settings.visibility
      (Covers w settings output (directions ++ Request.allDirections w [r]))
      (addRequest w settings.lookup (settings.site w output) a r) := by
  refine ensures_addRequest_of_extend settings.lookup (fun h => ?_) fun h d e b hd he hb => ?_
  · simpa [Request.allDirections, h] using ha
  · simpa [Request.allDirections, h] using ha.extend hcwd hd he hb

theorem ensures_covers_foldlM (hcwd : Path.Rooted w.cwd) {directions : List (Text × Text)}
    {a : Artifact} (ha : Covers w settings output directions a) (requests : List Request) :
    Ensures w settings.visibility
      (Covers w settings output (directions ++ Request.allDirections w requests))
      (requests.foldlM (addRequest w settings.lookup (settings.site w output)) a) := by
  induction requests generalizing directions a with
  | nil => exact ensures_pure (by simpa [Request.allDirections] using ha)
  | cons r requests ih =>
    rw [Request.allDirections_cons, ← List.append_assoc]
    exact (ensures_covers_addRequest hcwd ha r).bind fun b hb => ih hb

/-- The plans of an artifact are those of the directions of its requests, each covered by the
imports of the two files of its own direction, however many plans are equal. -/
theorem covers_of_build (hcwd : Path.Rooted w.cwd) {requests : List Request} {s t : Session}
    {a : Artifact} (hs : w.Faithful settings.visibility s.documents)
    (h : build w settings requests output s = .ok a t) :
    Covers w settings output (Request.allDirections w requests) a := by
  have hempty : Covers w settings output [] {} := ⟨[], rfl, .nil⟩
  exact (ensures_covers_foldlM hcwd hempty requests).of_ok hs h

/-- A file with a default export and another shape, and two files with one more shape each, of one
name. -/
def defaultExport : Workspace where
  files :=
    ((FileTree.insert ⟨fun _ => none⟩ ["p".toList, "a.ts".toList] (FileTree.textEntry
      ("export default interface A \x7b x: string \x7d\n".toList ++
        "export interface B \x7b y: A \x7d".toList))).insert
      ["p".toList, "b.ts".toList] (FileTree.textEntry
        "export interface C \x7b x: string \x7d".toList)).insert
      ["p".toList, "c.ts".toList] (FileTree.textEntry
        "export interface C \x7b x: string \x7d".toList)
  cwd := "/p".toList

/-- A request that goes both ways, one from a file to itself, one for a missing file and one whose
plans are there already. -/
def defaultExportRequests : List Request :=
  [{ source := "a.ts".toList, target := "b.ts".toList, bothWays := true },
    { source := "a.ts".toList, target := "a.ts".toList },
    { source := "a.ts".toList, target := "d.ts".toList },
    { source := "a.ts".toList, target := "c.ts".toList }]

/-- The default export is covered as such, and the other shapes in braces. The shape that two files
declare is imported from both. -/
theorem covers_defaultExport :
    Path.Rooted defaultExport.cwd ∧
      defaultExport.Faithful .exportedOnly ({} : Session).documents ∧
      ∃ a t, build defaultExport {} defaultExportRequests "m.ts".toList {} = .ok a t ∧
        a.imports = ["import A, \x7b B \x7d from './a'", "import \x7b C \x7d from './b'",
          "import \x7b C \x7d from './c'"].map String.toList ∧
        a.mappers.map Plan.pair = [("A", "C"), ("B", "C"), ("C", "A"), ("C", "B"), ("A", "A"),
          ("A", "B"), ("B", "A"), ("B", "B"), ("A", "C"), ("B", "C")].map
            (Prod.map String.toList String.toList) ∧
        Request.allDirections defaultExport defaultExportRequests =
          [("a.ts", "b.ts"), ("b.ts", "a.ts"), ("a.ts", "a.ts"), ("a.ts", "c.ts")].map
            (Prod.map String.toList String.toList) ∧
        Covers defaultExport {} "m.ts".toList
          (Request.allDirections defaultExport defaultExportRequests) a := by
  have hrun : ((build defaultExport {} defaultExportRequests "m.ts".toList).run' {}).map
      (fun a => (a.imports, a.mappers.map Plan.pair)) =
        some (["import A, \x7b B \x7d from './a'", "import \x7b C \x7d from './b'",
          "import \x7b C \x7d from './c'"].map String.toList,
          [("A", "C"), ("B", "C"), ("C", "A"), ("C", "B"), ("A", "A"), ("A", "B"), ("B", "A"),
            ("B", "B"), ("A", "C"), ("B", "C")].map (Prod.map String.toList String.toList)) := by
    decide +kernel
  obtain ⟨a, ha, hparts⟩ := Option.map_eq_some_iff.1 hrun
  obtain ⟨t, hbuild⟩ := exists_ok_of_run' ha
  obtain ⟨himports, hmappers⟩ := Prod.mk.inj hparts
  exact ⟨by decide, .nil, a, t, hbuild, himports, hmappers, by decide,
    covers_of_build (by decide) .nil hbuild⟩

end Run

end ShapeMapper
