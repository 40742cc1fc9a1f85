import ShapeMapper.Proofs.Generator

/-!
# Builds without a memory

What a fresh session remembers does not show in what it builds: an artifact is made by adding one
request after the other, with the documents of its files as the files are (`Run.outcome_build`).
-/

namespace ShapeMapper

/-- The artifact with one more request, whose files are read as they are. -/
def Artifact.withRequest (w : Workspace) (settings : Settings) (output : Text) (a : Artifact)
    (r : Request) : Except Failure Artifact :=
  if r.missing w = [] then do
    let source ← (w.document settings.visibility r.source).1
    let target ← (w.document settings.visibility r.target).1
    a.extend (settings.site w output) r source target
  else return a

namespace Run

variable {α β : Type}

theorem ofExcept_bind (x : Except Failure α) (f : α → Except Failure β) :
    ofExcept (x >>= f) = ofExcept x >>= fun a => ofExcept (f a) := by
  cases x with
  | error e => rfl
  | ok a => rfl

theorem ofExcept_foldlM (f : β → α → Except Failure β) (l : List α) (b : β) :
    ofExcept (l.foldlM f b) = l.foldlM (fun b a => ofExcept (f b a)) b := by
  induction l generalizing b with
  | nil => rfl
  | cons a l ih => simp only [List.foldlM_cons, ofExcept_bind, ih]

theorem outcome_ofExcept (x : Except Failure α) : (ofExcept x).outcome = x := by
  cases x with
  | error e => rfl
  | ok a => rfl

variable {w : Workspace}

/-- However a file is read, it is read from the place where it is read as it is. -/
theorem related_document_now (lookup : Lookup) (hcwd : Path.Rooted w.cwd) {file : Text}
    (hfile : w.files.contains w.cwd file) :
    Related (fun m _ => w.Faithful lookup.visibility m)
      (fun d e => w.Holds lookup.visibility (w.location file) d ∧
        w.Holds lookup.visibility (w.location file) e)
      (document w lookup file) (ofExcept (w.document lookup.visibility file).1) := by
  intro s t hs
  have hspec := document_spec hfile hs
  cases hrun : document w lookup file s with
  | ok d s' =>
    rw [hrun] at hspec
    have hnow := hspec.1.document_eq_inFile hcwd hfile rfl
    rw [hnow]
    exact ⟨⟨hspec.1, Workspace.holds_of_document_eq hfile hnow⟩, hspec.2⟩
  | error e s' =>
    rw [hrun] at hspec
    rw [hspec.1]
    exact ⟨rfl, hspec.2⟩

theorem related_withRequest (hcwd : Path.Rooted w.cwd) (settings : Settings) (output : Text)
    (a : Artifact) (r : Request) :
    Related (fun m _ => w.Faithful settings.visibility m) Eq
      (addRequest w settings.lookup (settings.site w output) a r)
      (ofExcept (a.withRequest w settings output r)) := by
  unfold addRequest Artifact.withRequest
  split
  · next h =>
    have hcontains : ∀ file ∈ [r.source, r.target], w.files.contains w.cwd file := by
      simpa [Request.missing] using h
    rw [if_pos h, ofExcept_bind]
    have hread (file : Text) (hfile : file ∈ [r.source, r.target]) :=
      related_document_now settings.lookup hcwd (hcontains file hfile)
    refine (hread r.source (by simp)).bind fun d d' hd => ?_
    rw [ofExcept_bind]
    refine (hread r.target (by simp)).bind fun e e' he => ?_
    refine Related.report_left ?_ _
    rw [Artifact.extend_congr hcwd rfl hd.1 hd.2 he.1 he.2]
    cases a.extend (settings.site w output) r d' e' with
    | error failure => exact fun _ _ hs => ⟨rfl, hs⟩
    | ok b => exact related_pure rfl
  · next h =>
    rw [if_neg h]
    exact (related_pure rfl).report_left _

/-- An artifact is made request by request, from the files as they are. -/
theorem outcome_build (hcwd : Path.Rooted w.cwd) (settings : Settings) (requests : List Request)
    (output : Text) :
    (build w settings requests output).outcome =
      requests.foldlM (Artifact.withRequest w settings output) {} := by
  have hrelated : Related (fun m _ => w.Faithful settings.visibility m) Eq
      (build w settings requests output)
      (requests.foldlM (fun a r => ofExcept (a.withRequest w settings output r)) {}) :=
    Related.foldlM (fun a b r hab => hab ▸ related_withRequest hcwd settings output a r) requests
      rfl
  rw [← ofExcept_foldlM] at hrelated
  have houtcome := hrelated.outcome_eq (f := id) .nil
  rwa [outcome_ofExcept, Except.map_id, id] at houtcome

end Run

end ShapeMapper
