import ShapeMapper.Generator
import ShapeMapper.Proofs.Session

/-!
# What a run ensures

A run that starts with a faithful memory keeps it faithful, whether it succeeds or fails, and its
value is then as stated (`Run.Ensures`). What every step of a loop ensures holds after the loop
(`Run.Ensures.foldlM`), so what every request keeps true of an artifact is true of every artifact
that is built: `Run.ensures_build_of_extend`.
-/

namespace ShapeMapper.Run

variable {α β ι : Type} {w : Workspace} {visibility : Visibility} {Q : α → Prop} {R : β → Prop}

/-- With a faithful memory the run gives a value as stated or fails, and the memory stays
faithful. -/
def Ensures (w : Workspace) (visibility : Visibility) (Q : α → Prop) (x : Run α) : Prop :=
  ∀ s : Session, w.Faithful visibility s.documents →
    match x s with
    | .ok a t => Q a ∧ w.Faithful visibility t.documents
    | .error _ t => w.Faithful visibility t.documents

theorem ensures_pure {a : α} (h : Q a) : Ensures w visibility Q (pure a) :=
  fun _ hs => ⟨h, hs⟩

theorem Ensures.bind {x : Run α} {f : α → Run β} (hx : Ensures w visibility Q x)
    (hf : ∀ a, Q a → Ensures w visibility R (f a)) : Ensures w visibility R (x >>= f) := by
  intro s hs
  have hx := hx s hs
  show match EStateM.bind x f s with
    | .ok b t => R b ∧ w.Faithful visibility t.documents
    | .error _ t => w.Faithful visibility t.documents
  unfold EStateM.bind
  cases hrun : x s with
  | error failure t =>
    rw [hrun] at hx
    exact hx
  | ok a t =>
    rw [hrun] at hx
    exact hf a hx.1 t hx.2

/-- What a run reports does not matter. -/
theorem Ensures.report {x : Run α} (h : Ensures w visibility Q x) (events : List Event) :
    Ensures w visibility Q (do report events; x) :=
  fun s hs => h (s.report events) hs

theorem ensures_ofExcept {x : Except Failure α} (h : ∀ a, x = .ok a → Q a) :
    Ensures w visibility Q (ofExcept x) :=
  match x, h with
  | .ok a, h => ensures_pure (h a rfl)
  | .error _, _ => fun _ hs => hs

/-- What holds at the start of a loop and after each of its steps holds at its end. -/
theorem Ensures.foldlM {f : α → ι → Run α} {l : List ι}
    (hf : ∀ a, ∀ i ∈ l, Q a → Ensures w visibility Q (f a i)) {a : α} (ha : Q a) :
    Ensures w visibility Q (l.foldlM f a) := by
  induction l generalizing a with
  | nil => exact ensures_pure ha
  | cons i l ih =>
    have hlater := fun b hb => ih (fun a j hj => hf a j (List.mem_cons_of_mem i hj)) (a := b) hb
    exact (hf a i List.mem_cons_self ha).bind hlater

/-- A document that is read comes from the place of its file, from memory or not. -/
theorem ensures_document (lookup : Lookup) {file : Text}
    (hfile : w.files.contains w.cwd file) :
    Ensures w lookup.visibility (w.Holds lookup.visibility (w.location file))
      (document w lookup file) := by
  intro s hs
  have hdocument := @document_spec w lookup file s hfile hs
  cases hrun : document w lookup file s with
  | error failure t =>
    rw [hrun] at hdocument
    exact hdocument.2
  | ok d t =>
    rw [hrun] at hdocument
    exact hdocument

/-- An artifact is extended by the documents at the places of a request's files, or left as it is
where a file is missing. -/
theorem ensures_addRequest_of_extend (lookup : Lookup) {site : Site} {P : Artifact → Prop}
    {a : Artifact} {r : Request} (hmissing : r.missing w ≠ [] → P a)
    (hextend : r.missing w = [] → ∀ (d e : Document) (b : Artifact),
      w.Holds lookup.visibility (w.location r.source) d →
        w.Holds lookup.visibility (w.location r.target) e → a.extend site r d e = .ok b → P b) :
    Ensures w lookup.visibility P (addRequest w lookup site a r) := by
  unfold addRequest
  split
  · next h =>
    have hcontains : ∀ file ∈ [r.source, r.target], w.files.contains w.cwd file := by
      simpa [Request.missing] using h
    have hread : ∀ file ∈ [r.source, r.target], Ensures w lookup.visibility
        (w.Holds lookup.visibility (w.location file)) (document w lookup file) :=
      fun file hfile => ensures_document lookup (hcontains file hfile)
    refine (hread r.source (by simp)).bind fun d hd => ?_
    refine (hread r.target (by simp)).bind fun e he => ?_
    exact (ensures_ofExcept fun b hb => hextend h d e b hd he hb).report _
  · next h => exact (ensures_pure (hmissing h)).report _

/-- What holds of the empty artifact and is kept by every request holds of the artifact that is
built. -/
theorem ensures_build_of_extend {settings : Settings} {requests : List Request} {output : Text}
    {P : Artifact → Prop} (hempty : P {})
    (hextend : ∀ a : Artifact, P a → ∀ r ∈ requests, ∀ (d e : Document) (b : Artifact),
      w.Holds settings.visibility (w.location r.source) d →
        w.Holds settings.visibility (w.location r.target) e →
          a.extend (settings.site w output) r d e = .ok b → P b) :
    Ensures w settings.visibility P (build w settings requests output) := by
  refine Ensures.foldlM (fun a r hr ha => ?_) hempty
  exact ensures_addRequest_of_extend settings.lookup (fun _ => ha) fun _ => hextend a ha r hr

theorem Ensures.of_ok {x : Run α} (h : Ensures w visibility Q x) {s t : Session} {a : α}
    (hs : w.Faithful visibility s.documents) (hx : x s = .ok a t) : Q a := by
  have h := h s hs
  rw [hx] at h
  exact h.1

theorem Ensures.of_outcome {x : Run α} (h : Ensures w visibility Q x) {a : α}
    (hx : x.outcome = .ok a) : Q a := by
  unfold outcome at hx
  split at hx
  · next b t hrun =>
    cases hx
    exact h.of_ok .nil hrun
  · cases hx

end ShapeMapper.Run
