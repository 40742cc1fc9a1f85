import ShapeMapper.CommandLine.Outcome
import ShapeMapper.Proofs.FileTree

/-!
# What a job does to the files

A job that fails leaves the files as they were, and one that succeeds says what became of them
(`Job.Leaves`). A part of a job that only reads may come before any other part
(`Job.Leaves.bind`), so generating mappers changes the generated file or nothing at all, and so
does the command: `Job.files_generateFrom`.
-/

namespace ShapeMapper

namespace FileTree

/-- A text that can be written goes to the place that the path names, and nowhere else. -/
theorem eq_set_of_writeText {files files' : FileTree} {cwd p t : Text}
    (h : files.writeText cwd p t = .ok files') :
    files' = files.set (Location.ofPath (Path.append cwd p)) (some (textEntry t)) := by
  unfold writeText at h
  cases hplace : files.locate cwd p with
  | error fault =>
    rw [hplace] at h
    cases h
  | ok place =>
    rw [hplace] at h
    simp only [bind, Except.bind] at h
    rw [← eq_ofPath_of_locate hplace]
    split at h
    · cases h
    · exact (Except.ok.inj h).symm
    · exact (Except.ok.inj h).symm
    · cases h

end FileTree

namespace Job

variable {α β : Type} {files : FileTree} {cwd : Text}

/-- On the given files, the job either fails and leaves them as they are, or its value and the
files afterwards are as `Q` says. -/
def Leaves (files : FileTree) (Q : α → FileTree → Prop) (x : Job α) : Prop :=
  ∀ s : State, s.files = files →
    match x.run s with
    | .ok a t => Q a t.files
    | .error _ t => t.files = files

/-- A job goes on after a part that only reads. -/
theorem Leaves.bind {R : α → Prop} {Q : β → FileTree → Prop} {x : Job α} {f : α → Job β}
    (hx : Leaves files (fun a t => t = files ∧ R a) x) (hf : ∀ a, R a → Leaves files Q (f a)) :
    Leaves files Q (x >>= f) := by
  intro s hs
  have hx := hx s hs
  show match EStateM.bind x f s with
    | .ok a t => Q a t.files
    | .error _ t => t.files = files
  unfold EStateM.bind
  cases hrun : x s with
  | error e t =>
    rw [EStateM.run, hrun] at hx
    exact hx
  | ok a t =>
    rw [EStateM.run, hrun] at hx
    exact hf a hx.2 t hx.1

theorem Leaves.mono {Q R : α → FileTree → Prop} {x : Job α} (hx : Leaves files Q x)
    (h : ∀ a t, Q a t → R a t) : Leaves files R x := by
  intro s hs
  have hx := hx s hs
  cases hrun : x.run s with
  | error failure t =>
    rw [hrun] at hx
    exact hx
  | ok a t =>
    rw [hrun] at hx
    exact h a t.files hx

/-- A run reads the files and leaves them as they are. -/
theorem leaves_ofRun (x : Workspace → Run α) :
    Leaves files (fun a t => t = files ∧
      ∃ before after : Session, (x { files, cwd }).run before = .ok a after) (ofRun cwd x) := by
  rintro s rfl
  simp only [EStateM.run, ofRun]
  cases hrun : x { files := s.files, cwd } s.session with
  | error failure session => rfl
  | ok a session => exact ⟨rfl, s.session, session, hrun⟩

/-- Nothing can fail after a text is written, for all that is left is to report it. -/
theorem leaves_write_report (output t : Text) (events : List Event) (a : α) :
    Leaves files (fun b files' => b = a ∧
        files' = files.set (Location.ofPath (Path.append cwd output))
          (some (FileTree.textEntry t)))
      (do write cwd output t
          ofRun cwd fun _ => Run.report events
          return a) := by
  rintro s rfl
  show match EStateM.bind (write cwd output t) _ s with
    | .ok b t' => b = a ∧ t'.files = _
    | .error _ t' => t'.files = s.files
  unfold EStateM.bind write
  cases hwrite : s.files.writeText cwd output t with
  | error fault => rfl
  | ok files' => exact ⟨rfl, FileTree.eq_set_of_writeText hwrite⟩

theorem eq_ok_of_run_render {w : Workspace} {template : Option Text} {a : Artifact} {t : Text}
    {before after : Session} (h : (Run.render w template a).run before = .ok t after) :
    (TemplateChoice.ofPath template).render w a = .ok t := by
  have hrun : (Run.render w template a).run before =
      Run.ofExcept ((TemplateChoice.ofPath template).render w a)
        (before.report [.rendering a.imports.length a.mappers.length
          (TemplateChoice.ofPath template).name]) := rfl
  rw [hrun] at h
  cases hrender : (TemplateChoice.ofPath template).render w a with
  | error failure =>
    rw [hrender] at h
    cases h
  | ok u =>
    rw [hrender] at h
    cases h
    rfl

/-- The file that the job is to write, in the files afterwards, holds the artifact as it is
rendered from the files before; nothing else differs. -/
def Written (files : FileTree) (cwd : Text) (settings : Settings) (output : Text) (a : Artifact)
    (files' : FileTree) : Prop :=
  ∃ text, (TemplateChoice.ofPath settings.template).render { files, cwd } a = .ok text ∧
    files' = files.set (Location.ofPath (Path.append cwd output)) (some (FileTree.textEntry text))

theorem leaves_generate (hcwd : Path.Rooted cwd) (settings : Settings) (requests : List Request)
    (output : Text) :
    Leaves files (Written files cwd settings output) (generate cwd settings requests output) := by
  have hplace : Location.ofPath (Path.append cwd (Path.absolute cwd output)) =
      Location.ofPath (Path.append cwd output) := by
    rw [Path.absolute, Path.ofPath_append_normalize,
      Path.append_of_rooted (Path.rooted_append hcwd output)]
  unfold generate
  apply (leaves_ofRun _).bind
  intro artifact _
  apply (leaves_ofRun _).bind
  rintro text ⟨before, after, hrun⟩
  apply (leaves_write_report (Path.absolute cwd output) text _ artifact).mono
  rintro a files' ⟨rfl, hfiles⟩
  exact ⟨text, eq_ok_of_run_render hrun, hplace ▸ hfiles⟩

theorem leaves_generateFrom (hcwd : Path.Rooted cwd) (settings : Settings)
    (config output : Text) :
    Leaves files (Written files cwd settings output)
      (generateFrom cwd settings config output) := by
  unfold generateFrom
  apply (leaves_ofRun _).bind
  intro requests _
  exact leaves_generate hcwd settings requests output

end Job

namespace CommandLine.Outcome

/-- The command writes only on its way to the exit code zero. -/
theorem files_ofOptions {w : Workspace} (hcwd : Path.Rooted w.cwd) {o : Options}
    (h : (ofOptions w o).ending ≠ .exit 0) : (ofOptions w o).files = w.files := by
  have hjob := Job.leaves_generateFrom hcwd (o.settings w.cwd) (Path.absolute w.cwd o.mappingFile)
    (Path.absolute w.cwd o.output) { files := w.files } rfl
  unfold ofOptions at h ⊢
  dsimp only at h ⊢
  split at h
  · exact absurd rfl h
  · next failure s hrun =>
    rw [hrun] at hjob
    cases hreport : failure.report? with
    | some message => exact hjob
    | none => exact hjob

end CommandLine.Outcome

/-- Generating mappers is all or nothing: a job that fails leaves the files as they were, and
after one that succeeds only the generated file differs, and holds the text of the artifact. So
the command changes a file only if it ends with the exit code zero. -/
theorem Job.files_generateFrom (w : Workspace) (hcwd : Path.Rooted w.cwd) :
    (∀ (settings : Settings) (config output : Text) (session : Session) (failure : Failure)
        (s : State),
      (generateFrom w.cwd settings config output).run { files := w.files, session } =
        .error failure s →
      s.files = w.files) ∧
    (∀ (settings : Settings) (config output : Text) (session : Session) (a : Artifact) (s : State),
      (generateFrom w.cwd settings config output).run { files := w.files, session } = .ok a s →
      ∃ text, (TemplateChoice.ofPath settings.template).render w a = .ok text ∧
        s.files.get? (w.location output) = some (.file (String.ofList text).toUTF8) ∧
        ∀ place ≠ w.location output, s.files.get? place = w.files.get? place) ∧
    ∀ arguments : List Text, (CommandLine.Outcome.of w arguments).ending ≠ .exit 0 →
      (CommandLine.Outcome.of w arguments).files = w.files := by
  have hjob (settings : Settings) (config output : Text) (session : Session) :=
    leaves_generateFrom hcwd settings config output { files := w.files, session } rfl
  refine ⟨?failed, ?written, ?command⟩
  case failed =>
    intro settings config output session failure s hrun
    have hjob := hjob settings config output session
    rw [hrun] at hjob
    exact hjob
  case written =>
    intro settings config output session a s hrun
    have hjob := hjob settings config output session
    rw [hrun] at hjob
    obtain ⟨text, htext, hfiles⟩ := hjob
    refine ⟨text, htext, ?_, fun place hplace => ?_⟩
    · rw [hfiles]
      exact FileTree.get?_set_self ..
    · rw [hfiles]
      exact FileTree.get?_set_of_ne hplace
  case command =>
    intro arguments h
    unfold CommandLine.Outcome.of at h ⊢
    split at h
    · rfl
    · exact CommandLine.Outcome.files_ofOptions hcwd h
    · rfl
    · rfl

/-- Whether a job succeeds. -/
def Job.succeeds {α : Type} (x : Job α) (s : State) : Bool :=
  match x.run s with
  | .ok _ _ => true
  | .error _ _ => false

theorem Job.exists_ok_of_succeeds {α : Type} {x : Job α} {s : State} (h : x.succeeds s) :
    ∃ a t, x.run s = .ok a t := by
  unfold succeeds at h
  split at h
  · next a t hrun => exact ⟨a, t, hrun⟩
  · cases h

/-- A directory with a declaration file, a configuration that maps its shapes to each other, and
a template that counts the imports. -/
def Job.oneRequest : Workspace where
  files :=
    ((FileTree.insert ⟨fun _ => none⟩ ["p".toList, "a.ts".toList]
      (FileTree.textEntry "export interface A \x7b x: string \x7d".toList)).insert
      ["p".toList, "m.json".toList]
      (FileTree.textEntry "[\x7b\"source\": \"a.ts\", \"target\": \"a.ts\"\x7d]".toList)).insert
      ["p".toList, "t.j2".toList]
      (FileTree.textEntry "\x7b\x7b imports | length \x7d\x7d".toList)
  cwd := "/p".toList

/-- A job that writes its file, and a run of the command that fails when it comes to write,
since the output is a directory. -/
theorem Job.files_generateFrom_oneRequest :
    let settings : Settings := { template := some "t.j2".toList }
    let arguments := ["-s", "m.json", "-t", "t.j2", "-o", "."].map String.toList
    Path.Rooted oneRequest.cwd ∧
    (∃ a s text, (generateFrom oneRequest.cwd settings "m.json".toList "b.ts".toList).run
        { files := oneRequest.files } = .ok a s ∧
      (TemplateChoice.ofPath settings.template).render oneRequest a = .ok text ∧
      s.files.get? (oneRequest.location "b.ts".toList) =
        some (.file (String.ofList text).toUTF8) ∧
      ∀ place ≠ oneRequest.location "b.ts".toList,
        s.files.get? place = oneRequest.files.get? place) ∧
    (CommandLine.Outcome.of oneRequest arguments).ending = .failure (.file .isADirectory) ∧
      (CommandLine.Outcome.of oneRequest arguments).files = oneRequest.files := by
  intro settings arguments
  have hcwd : Path.Rooted oneRequest.cwd := by decide
  obtain ⟨-, hwritten, hcommand⟩ := files_generateFrom oneRequest hcwd
  have hsucceeds : (generateFrom oneRequest.cwd settings "m.json".toList "b.ts".toList).succeeds
      { files := oneRequest.files } = true := by decide +kernel
  have hending : (CommandLine.Outcome.of oneRequest arguments).ending =
      .failure (.file .isADirectory) := by decide +kernel
  have hfailed : (CommandLine.Outcome.of oneRequest arguments).files = oneRequest.files := by
    apply hcommand
    rw [hending]
    exact nofun
  obtain ⟨a, s, hrun⟩ := exists_ok_of_succeeds hsucceeds
  obtain ⟨text, htext⟩ := hwritten settings _ _ {} a s hrun
  exact ⟨hcwd, ⟨a, s, text, hrun, htext⟩, hending, hfailed⟩

end ShapeMapper
