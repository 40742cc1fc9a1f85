import ShapeMapper.Proofs.Declaration.FileName
import ShapeMapper.Proofs.FileTree
import ShapeMapper.Session

/-!
# Sessions and their memory

A run is compared with another one step by step (`Run.Related`), whatever either reports. Each
document that a session remembers is the document of a file at its place
(`Workspace.Faithful`); so reading a file from memory and reading it again are alike
(`Run.related_document`).
-/

namespace ShapeMapper

/-- The documents that a session remembers, by the location of their file. -/
abbrev Memory := List (Location × Document)

namespace Run

variable {α β γ δ : Type} {P : Memory → Memory → Prop} {R : α → β → Prop} {S : γ → δ → Prop}

/-- Two runs that start with related memories end with related memories, either with related
values or with the same failure. -/
def Related (P : Memory → Memory → Prop) (R : α → β → Prop) (x : Run α) (y : Run β) : Prop :=
  ∀ s t : Session, P s.documents t.documents →
    match x s, y t with
    | .ok a s, .ok b t => R a b ∧ P s.documents t.documents
    | .error e s, .error f t => e = f ∧ P s.documents t.documents
    | _, _ => False

theorem related_pure {a : α} {b : β} (h : R a b) : Related P R (pure a) (pure b) :=
  fun _ _ hst => ⟨h, hst⟩

theorem Related.bind {x : Run α} {y : Run β} {f : α → Run γ} {g : β → Run δ}
    (hxy : Related P R x y) (hfg : ∀ a b, R a b → Related P S (f a) (g b)) :
    Related P S (x >>= f) (y >>= g) := by
  intro s t hst
  have hxy := hxy s t hst
  show match EStateM.bind x f s, EStateM.bind y g t with
    | .ok a s, .ok b t => S a b ∧ P s.documents t.documents
    | .error e s, .error f t => e = f ∧ P s.documents t.documents
    | _, _ => False
  unfold EStateM.bind
  cases hx : x s <;> cases hy : y t <;> simp only [hx, hy] at hxy ⊢
  · exact hfg _ _ hxy.1 _ _ hxy.2
  · exact hxy

/-- What a run reports does not matter. -/
theorem Related.report_left {x : Run α} {y : Run β} (h : Related P R x y)
    (events : List Event) : Related P R (do report events; x) y :=
  fun s t hst => h (s.report events) t hst

theorem Related.report_right {x : Run α} {y : Run β} (h : Related P R x y)
    (events : List Event) : Related P R x (do report events; y) :=
  fun s t hst => h s (t.report events) hst

theorem related_ofExcept {f : β → α} (hf : ∀ b, R (f b) b) (y : Except Failure β) :
    Related P R (ofExcept (y.map f)) (ofExcept y) :=
  match y with
  | .ok b => related_pure (hf b)
  | .error _ => fun _ _ hst => ⟨rfl, hst⟩

theorem Related.foldlM {ι : Type} {f : α → ι → Run α} {g : β → ι → Run β}
    (hfg : ∀ a b i, R a b → Related P R (f a i) (g b i)) (l : List ι) {a : α} {b : β}
    (h : R a b) : Related P R (l.foldlM f a) (l.foldlM g b) := by
  induction l generalizing a b with
  | nil => exact related_pure h
  | cons i l ih => exact (hfg a b i h).bind fun _ _ h => ih h

theorem Related.exists_ok {x : Run α} {y : Run β} (h : Related P R x y) {s s' t : Session}
    (hst : P s.documents t.documents) {a : α} (hx : x s = .ok a s') :
    ∃ b t', y t = .ok b t' ∧ R a b := by
  have h := h s t hst
  rw [hx] at h
  cases hy : y t with
  | ok b t' =>
    rw [hy] at h
    exact ⟨b, t', rfl, h.1⟩
  | error failure t' =>
    rw [hy] at h
    exact h.elim

theorem exists_ok_of_run' {x : Run α} {s : Session} {a : α} (h : x.run' s = some a) :
    ∃ t, x s = .ok a t := by
  unfold EStateM.run' at h
  split at h
  · next b t hrun =>
    cases h
    exact ⟨t, hrun⟩
  · cases h

/-! ### Fresh sessions -/

/-- What a run gives in a fresh session. -/
def outcome (x : Run α) : Except Failure α :=
  match x {} with
  | .ok a _ => .ok a
  | .error e _ => .error e

/-- What a fresh session remembers after a run, whether it succeeds or fails. -/
def memory (x : Run α) : Memory :=
  match x {} with
  | .ok _ s | .error _ s => s.documents

theorem Related.outcome_eq {f : β → α} {x : Run α} {y : Run β} (hP : P [] [])
    (h : Related P (fun a b => a = f b) x y) : x.outcome = y.outcome.map f := by
  have h := h {} {} hP
  unfold outcome
  cases hx : x {} <;> cases hy : y {} <;> simp only [hx, hy] at h ⊢
  · exact congrArg _ h.1
  · exact congrArg _ h.1

theorem Related.memory {x : Run α} {y : Run β} (hP : P [] []) (h : Related P R x y) :
    P x.memory y.memory := by
  have h := h {} {} hP
  unfold Run.memory
  cases hx : x {} <;> cases hy : y {} <;> simp only [hx, hy] at h ⊢
  · exact h.2
  · exact h.2

/-- A run of two parts, the second of which does not depend on what the first remembers. -/
theorem outcome_bind_eq {f : α → β → γ} {x : Run α} {g : α → Run γ} {y : Run β}
    (hx : P x.memory []) (h : ∀ a, Related P (fun c b => c = f a b) (g a) y) :
    (x >>= g).outcome = (do
      let a ← x.outcome
      let b ← y.outcome
      return f a b) := by
  have hbind : (x >>= g) {} = EStateM.bind x g {} := rfl
  unfold Run.memory at hx
  unfold outcome
  rw [hbind, EStateM.bind]
  cases hrun : x {} with
  | error e s => rfl
  | ok a s =>
    rw [hrun] at hx
    have h := h a s {} hx
    cases hg : g a s <;> cases hy : y {} <;> simp only [hg, hy] at h ⊢
    · exact congrArg _ h.1
    · exact congrArg _ h.1

/-- The elements that a loop passes over may be left out. -/
theorem related_foldlM_filter {ι : Type} {step : α → ι → Run α} {p : ι → Bool}
    (hself : ∀ a i, Related Eq Eq (step a i) (step a i))
    (hskip : ∀ a i, p i = false → Related Eq Eq (pure a) (step a i)) (l : List ι) (a : α) :
    Related Eq Eq ((l.filter p).foldlM step a) (l.foldlM step a) := by
  induction l generalizing a with
  | nil => exact related_pure rfl
  | cons i l ih =>
    rw [List.foldlM_cons]
    cases hi : p i with
    | true =>
      rw [List.filter_cons_of_pos hi, List.foldlM_cons]
      exact (hself a i).bind fun _ _ h => h ▸ ih _
    | false =>
      rw [List.filter_cons_of_neg (by simp [hi])]
      exact (hskip a i hi).bind (f := fun b => (l.filter p).foldlM step b) fun _ _ h => h ▸ ih _

end Run

namespace Workspace

variable {w : Workspace} {visibility : Visibility} {file : Text} {place : Location}
  {d : Document}

/-- Whether a document is read from a place, under some name of the file there. -/
structure Holds (w : Workspace) (visibility : Visibility) (place : Location) (d : Document) :
    Prop where
  contains : w.files.contains w.cwd d.file
  location_eq : w.location d.file = place
  document_eq : (w.document visibility d.file).1 = .ok d

/-- Whether every remembered document is read from its place. -/
def Faithful (w : Workspace) (visibility : Visibility) (m : Memory) : Prop :=
  ∀ place d, (Keyed.find? Prod.fst place m).map Prod.snd = some d → w.Holds visibility place d

/-- Whether two memories are faithful. -/
structure BothFaithful (w : Workspace) (visibility : Visibility) (m n : Memory) : Prop where
  left : w.Faithful visibility m
  right : w.Faithful visibility n

theorem file_of_document (h : (w.document visibility file).1 = .ok d) : d.file = file := by
  unfold document at h
  split at h
  · cases h
  · next source _ =>
    cases hd : (Document.ofSource visibility file source).1 with
    | error stuck => simp [hd, Except.mapError] at h
    | ok e =>
      obtain rfl : e = d := by simpa [hd, Except.mapError] using h
      exact Document.file_of_ofSource hd

/-- The document of an existing file is the one of the text at its place. -/
theorem document_eq_textAt (hcwd : Path.Rooted w.cwd) (hfile : w.files.contains w.cwd file) :
    (w.document visibility file).1 =
      match w.files.textAt (w.location file) with
      | .error fault => .error (.file fault)
      | .ok source => (Document.ofSource visibility file source).1.mapError .unreadable := by
  rw [document, FileTree.readText_tidy hcwd hfile, location]
  cases w.files.textAt (Location.ofPath (Path.append w.cwd file)) <;> rfl

theorem exists_ofSource_eq (hcwd : Path.Rooted w.cwd) (hfile : w.files.contains w.cwd file)
    (h : (w.document visibility file).1 = .ok d) :
    ∃ source, w.files.textAt (w.location file) = .ok source ∧
      (Document.ofSource visibility file source).1 = .ok d := by
  rw [document_eq_textAt hcwd hfile] at h
  split at h
  · cases h
  · next source hsource =>
    refine ⟨source, hsource, ?_⟩
    cases hd : (Document.ofSource visibility file source).1 <;> rw [hd] at h <;> cases h
    rfl

/-- A document that is read from a place is read there under every name of the place. -/
theorem Holds.document_eq_inFile (hcwd : Path.Rooted w.cwd) (h : w.Holds visibility place d)
    (hfile : w.files.contains w.cwd file) (hplace : w.location file = place) :
    (w.document visibility file).1 = .ok (d.inFile file) := by
  obtain ⟨source, hsource, hd⟩ := exists_ofSource_eq hcwd h.contains h.document_eq
  rw [document_eq_textAt hcwd hfile, hplace, ← h.location_eq, hsource]
  simp only [Document.ofSource_inFile hd file]
  rfl

theorem holds_of_document_eq (hfile : w.files.contains w.cwd file)
    (h : (w.document visibility file).1 = .ok d) : w.Holds visibility (w.location file) d := by
  obtain rfl : d.file = file := file_of_document h
  exact ⟨hfile, rfl, h⟩

theorem Faithful.nil : w.Faithful visibility [] :=
  fun _ _ h => by simp [Keyed.find?] at h

theorem BothFaithful.nil : w.BothFaithful visibility [] [] := ⟨.nil, .nil⟩

theorem Faithful.put {m : Memory} (hm : w.Faithful visibility m)
    (h : w.Holds visibility place d) :
    w.Faithful visibility (Keyed.put Prod.fst (place, d) m) := by
  intro other e he
  rw [Keyed.find?_put] at he
  split at he
  · next hplace =>
    cases he
    exact hplace ▸ h
  · exact hm other e he

end Workspace

namespace Run

variable {w : Workspace} {lookup : Lookup} {file : Text} {s : Session}

theorem get_bind_apply {α : Type} (f : Session → Run α) (s : Session) : (get >>= f) s = f s s :=
  rfl

theorem document_of_some {d : Document}
    (h : (if lookup.cache then s.document? (w.location file) else none) = some d) :
    document w lookup file s = .ok d (s.report [.documentReused (w.location file).path]) := by
  simp only [document, get_bind_apply, h]
  rfl

theorem document_of_none
    (h : (if lookup.cache then s.document? (w.location file) else none) = none) :
    match (w.document lookup.visibility file).1, document w lookup file s with
    | .ok d, .ok e t => e = d ∧ t.documents =
        if lookup.cache then Keyed.put Prod.fst (w.location file, d) s.documents
        else s.documents
    | .error e, .error f t => f = e ∧ t.documents = s.documents
    | _, _ => False := by
  simp only [document, get_bind_apply, h]
  cases (w.document lookup.visibility file).1 with
  | error e => exact ⟨rfl, rfl⟩
  | ok d => cases lookup.cache <;> exact ⟨rfl, rfl⟩

/-- However a document is read, it is read from its place, or the file has none. -/
theorem document_spec (hfile : w.files.contains w.cwd file)
    (hs : w.Faithful lookup.visibility s.documents) :
    match document w lookup file s with
    | .ok d t => w.Holds lookup.visibility (w.location file) d ∧
        w.Faithful lookup.visibility t.documents
    | .error e t => (w.document lookup.visibility file).1 = .error e ∧
        w.Faithful lookup.visibility t.documents := by
  cases h : (if lookup.cache then s.document? (w.location file) else none) with
  | some d =>
    rw [document_of_some h]
    split at h
    · exact ⟨hs _ _ h, hs⟩
    · cases h
  | none =>
    have hread := document_of_none h
    cases hdocument : (w.document lookup.visibility file).1 <;>
      cases hrun : document w lookup file s <;> simp only [hdocument, hrun] at hread ⊢
    · exact ⟨congrArg _ hread.1.symm, hread.2 ▸ hs⟩
    · have hholds := Workspace.holds_of_document_eq hfile hdocument
      obtain ⟨rfl, hmemory⟩ := hread
      refine ⟨hholds, ?_⟩
      rw [hmemory]
      split
      · exact hs.put hholds
      · exact hs

/-- Two ways to read a file are alike, whatever is remembered. -/
theorem related_document (hcwd : Path.Rooted w.cwd) (hfile : w.files.contains w.cwd file)
    {other : Lookup} (hother : other.visibility = lookup.visibility) :
    Related (w.BothFaithful lookup.visibility)
      (fun d e => w.Holds lookup.visibility (w.location file) d ∧
        w.Holds lookup.visibility (w.location file) e)
      (document w lookup file) (document w other file) := by
  intro s t ⟨hs, ht⟩
  have hleft := document_spec hfile hs
  have hright := document_spec hfile (hother ▸ ht)
  rw [hother] at hright
  cases hx : document w lookup file s <;> cases hy : document w other file t <;>
    simp only [hx, hy] at hleft hright ⊢
  · exact ⟨⟨hleft.1, hright.1⟩, ⟨hleft.2, hright.2⟩⟩
  -- what one way has read, under whatever name, the other one cannot fail to read
  · have hdocument := hleft.1.document_eq_inFile hcwd hfile rfl
    cases hdocument.symm.trans hright.1
  · have hdocument := hright.1.document_eq_inFile hcwd hfile rfl
    cases hdocument.symm.trans hleft.1
  · exact ⟨Except.error.inj (hleft.1.symm.trans hright.1), ⟨hleft.2, hright.2⟩⟩

/-- Reading a file does not look at what has been reported. -/
theorem related_document_self (w : Workspace) (lookup : Lookup) (file : Text) :
    Related Eq Eq (document w lookup file) (document w lookup file) := by
  intro s t hst
  have hlookup : s.document? (w.location file) = t.document? (w.location file) := by
    rw [Session.document?, hst]
    rfl
  cases h : (if lookup.cache then s.document? (w.location file) else none) with
  | some d =>
    rw [document_of_some h, document_of_some (hlookup ▸ h)]
    exact ⟨rfl, hst⟩
  | none =>
    have hleft := document_of_none h
    have hright := document_of_none (hlookup ▸ h)
    cases hdocument : (w.document lookup.visibility file).1 <;>
      cases hx : document w lookup file s <;> cases hy : document w lookup file t <;>
        simp only [hdocument, hx, hy] at hleft hright ⊢
    · exact ⟨hleft.1.trans hright.1.symm, by rw [hleft.2, hright.2, hst]⟩
    · exact ⟨hleft.1.trans hright.1.symm, by rw [hleft.2, hright.2, hst]⟩

end Run

end ShapeMapper
