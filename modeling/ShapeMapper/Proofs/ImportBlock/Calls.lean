import ShapeMapper.Proofs.ImportBlock.Insertion

/-!
# Filling an import block

A block is filled statement by statement, in calls that may fail at a file without a location, and
what a call added before it failed stays (`Filling`). What a call does to a block is told by the
statements that it produces up to its failure (`adds_perform`), so a run of calls leaves the
statements that they all produced, each once: `ImportBlock.follows_run`.
-/

namespace ShapeMapper

open ImportBlock

/-! ### Statements that are produced -/

namespace Site

/-- The imports of some files, up to the first file that cannot be imported from. -/
def made (s : Site) (cs : List Contribution) : List Text :=
  ((cs.map s.entityImport).takeWhile (·.isOk)).filterMap fun x => x.toOption.join

/-- How it ends to import from some files: it fails if one of them cannot be imported from. -/
def ending (s : Site) (cs : List Contribution) : Except EmptyLocation Unit :=
  if cs.all fun c => (s.entityImport c).isOk then .ok () else .error .emptyLocation

variable {s : Site} {c : Contribution} {statement : Option Text}

theorem made_cons_of_error {e : EmptyLocation} (h : s.entityImport c = .error e)
    (cs : List Contribution) : s.made (c :: cs) = [] ∧ s.ending (c :: cs) = .error e := by
  cases e
  simp [made, ending, h, Except.isOk, Except.toBool]

theorem made_cons_of_ok (h : s.entityImport c = .ok statement) (cs : List Contribution) :
    s.made (c :: cs) = statement.toList ++ s.made cs ∧ s.ending (c :: cs) = s.ending cs := by
  cases statement <;> simp [made, ending, h, Except.isOk, Except.toBool, Except.toOption]

/-- All statements at once are those that are made one after the other. -/
theorem entityImports_eq (s : Site) (cs : List Contribution) :
    s.entityImports cs =
      (s.made cs, match s.ending cs with | .ok _ => none | .error e => some e) := by
  induction cs with
  | nil => rfl
  | cons c cs ih =>
    cases h : s.entityImport c with
    | error e =>
      obtain ⟨hmade, hending⟩ := made_cons_of_error h cs
      simp only [entityImports, h, hmade, hending]
    | ok statement =>
      obtain ⟨hmade, hending⟩ := made_cons_of_ok h cs
      simp only [entityImports, h, ih, hmade, hending]

end Site

namespace ImportBlock

/-- A call that asks for a statement, or that adds some to a block. -/
inductive Call
  | specifier (file : Text)
  | entityImport (c : Contribution)
  | relocate (i : ImportStatement)
  | addEntities (cs : List Contribution)
  | addImports (imports : List ImportStatement)
  /-- The imports of some files' shapes, and then those which files make themselves. -/
  | add (imports : List ImportStatement) (cs : List Contribution)

namespace Call

/-- Whether a call only asks. -/
def isQuery : Call → Bool
  | specifier _ | entityImport _ | relocate _ => true
  | addEntities _ | addImports _ | add _ _ => false

/-- The statements that a call produces for the block, up to the place where it fails. -/
def produced (s : Site) : Call → List Text
  | specifier _ | entityImport _ | relocate _ => []
  | addEntities cs => s.made cs
  | addImports imports => imports.map s.relocate
  | add imports cs => s.made cs ++ if (s.ending cs).isOk then imports.map s.relocate else []

/-- What a call gives back, or its failure. -/
def result (s : Site) : Call → Except EmptyLocation (Option Text)
  | specifier file => (s.specifier? file).map some
  | entityImport c => s.entityImport c
  | relocate i => .ok (some (s.relocate i))
  | addImports _ => .ok none
  | addEntities cs | add _ cs => (s.ending cs).map fun _ => none

/-- The statements of a request are those that its call produces. -/
theorem statements_eq (s : Site) (imports : List ImportStatement) (cs : List Contribution) :
    s.statements imports cs = ((add imports cs).produced s,
      match (add imports cs).result s with | .ok _ => none | .error e => some e) := by
  rw [Site.statements, Site.entityImports_eq, produced, result]
  cases s.ending cs <;> simp [Except.map, Except.isOk, Except.toBool]

end Call

end ImportBlock

/-! ### Statements that are added -/

/-- A step that adds to an import block. What it added stays if it fails later. -/
abbrev Filling := EStateM EmptyLocation (List Text)

namespace Filling

variable {α β : Type} {x : Filling α} {f : α → Filling β} {a : α} {e : EmptyLocation}
  {xs ys : List Text} {result : Except EmptyLocation β}

/-- Inserts a statement, if there is one. -/
def insert? : Option Text → Filling Unit
  | some statement => modify (insert · statement)
  | none => pure ()

/-- Goes on with a value, or fails. -/
def given : Except EmptyLocation α → Filling α
  | .ok a => pure a
  | .error e => throw e

/-- Whether a step adds some statements, whatever the block is, and how it ends. -/
def Adds (x : Filling α) (statements : List Text) (result : Except EmptyLocation α) : Prop :=
  ∀ block, x block =
    match result with
    | .ok a => .ok a (insertAll block statements)
    | .error e => .error e (insertAll block statements)

theorem adds_pure (a : α) : Adds (pure a) [] (.ok a) :=
  fun _ => rfl

theorem adds_given (x : Except EmptyLocation α) : Adds (given x) [] x :=
  match x with
  | .ok _ | .error _ => fun _ => rfl

theorem adds_insert? (statement : Option Text) :
    Adds (insert? statement) statement.toList (.ok ()) :=
  match statement with
  | some _ | none => fun _ => rfl

theorem Adds.bind (hx : Adds x xs (.ok a)) (hf : Adds (f a) ys result) :
    Adds (x >>= f) (xs ++ ys) result := by
  intro block
  show EStateM.bind x f block = _
  rw [EStateM.bind, hx block, insertAll_append]
  exact hf _

theorem Adds.bind_pure (hx : Adds x xs (.ok a)) (b : β) :
    Adds (x >>= fun _ => pure b) xs (.ok b) := by
  have h := hx.bind (f := fun _ => pure b) (adds_pure b)
  rwa [List.append_nil] at h

/-- A step that fails adds nothing more. -/
theorem Adds.bind_error (hx : Adds x xs (.error e)) : Adds (x >>= f) xs (.error e) := by
  intro block
  show EStateM.bind x f block = _
  rw [EStateM.bind, hx block]

end Filling

namespace Site

open Filling

/-- Adds the imports of the shapes of some files, one after the other. -/
def addEntities (s : Site) (cs : List Contribution) : Filling Unit :=
  cs.forM fun c => do
    let statement ← given (s.entityImport c)
    insert? statement

/-- Adds some imports as they have to be written. -/
def addImports (s : Site) (imports : List ImportStatement) : Filling Unit :=
  imports.forM fun i => insert? (some (s.relocate i))

theorem adds_addEntities (s : Site) (cs : List Contribution) :
    Adds (s.addEntities cs) (s.made cs) (s.ending cs) := by
  induction cs with
  | nil => exact adds_pure ()
  | cons c cs ih =>
    cases h : s.entityImport c with
    | error e =>
      have hgiven : Adds (given (s.entityImport c)) [] (.error e) := h ▸ adds_given _
      obtain ⟨hmade, hending⟩ := made_cons_of_error h cs
      rw [hmade, hending]
      exact (hgiven.bind_error (f := insert?)).bind_error (f := fun _ => s.addEntities cs)
    | ok statement =>
      have hgiven : Adds (given (s.entityImport c)) [] (.ok statement) := h ▸ adds_given _
      obtain ⟨hmade, hending⟩ := made_cons_of_ok h cs
      rw [hmade, hending]
      exact (hgiven.bind (adds_insert? statement)).bind (f := fun _ => s.addEntities cs) ih

theorem adds_addImports (s : Site) (imports : List ImportStatement) :
    Adds (s.addImports imports) (imports.map s.relocate) (.ok ()) := by
  induction imports with
  | nil => exact adds_pure ()
  | cons i imports ih =>
    have hinsert := adds_insert? (some (s.relocate i))
    exact hinsert.bind (f := fun _ => s.addImports imports) ih

end Site

/-! ### Runs of calls -/

namespace ImportBlock

open Filling

/-- What a call does to a block, with what it gives back. -/
def Call.perform (s : Site) : Call → Filling (Option Text)
  | specifier file => given ((s.specifier? file).map some)
  | entityImport c => given (s.entityImport c)
  | relocate i => return some (s.relocate i)
  | addEntities cs => do
    s.addEntities cs
    return none
  | addImports imports => do
    s.addImports imports
    return none
  | add imports cs => do
    s.addEntities cs
    s.addImports imports
    return none

theorem Call.adds_perform (s : Site) (call : Call) :
    Adds (call.perform s) (call.produced s) (call.result s) := by
  cases call with
  | specifier file => exact adds_given _
  | entityImport c => exact adds_given _
  | relocate i => exact adds_pure _
  | addEntities cs =>
    have hadded := s.adds_addEntities cs
    rw [perform, produced, result]
    cases h : s.ending cs with
    | error e =>
      rw [h] at hadded
      exact hadded.bind_error
    | ok _ =>
      rw [h] at hadded
      exact hadded.bind_pure none
  | addImports imports => exact (s.adds_addImports imports).bind_pure none
  | add imports cs =>
    have hadded := s.adds_addEntities cs
    have hlater := (s.adds_addImports imports).bind_pure (none : Option Text)
    rw [perform, produced, result]
    cases h : s.ending cs with
    | error e =>
      rw [h] at hadded
      have hproduced : s.made cs ++ (if (Except.error e : Except EmptyLocation Unit).isOk then
          imports.map s.relocate else []) = s.made cs := List.append_nil _
      rw [hproduced]
      exact hadded.bind_error
    | ok _ =>
      rw [h] at hadded
      exact hadded.bind hlater

/-- The block after a call, whether it fails or not. -/
def after (s : Site) (block : List Text) (call : Call) : List Text :=
  match call.perform s block with
  | .ok _ block | .error _ block => block

/-- What a call gives back, or its failure. -/
def answer (s : Site) (block : List Text) (call : Call) : Except EmptyLocation (Option Text) :=
  match call.perform s block with
  | .ok a _ => .ok a
  | .error e _ => .error e

/-- The block after some calls. -/
def run (s : Site) (calls : List Call) : List Text :=
  calls.foldl (after s) []

theorem after_eq (s : Site) (block : List Text) (call : Call) :
    after s block call = insertAll block (call.produced s) := by
  rw [after, call.adds_perform s block]
  cases call.result s <;> rfl

theorem answer_eq (s : Site) (block : List Text) (call : Call) :
    answer s block call = call.result s := by
  rw [answer, call.adds_perform s block]
  cases call.result s <;> rfl

theorem foldl_after (s : Site) (calls : List Call) (block : List Text) :
    calls.foldl (after s) block = insertAll block (calls.flatMap (Call.produced s)) := by
  induction calls generalizing block with
  | nil => rfl
  | cons call calls ih =>
    rw [List.foldl_cons, ih, after_eq, List.flatMap_cons, insertAll_append]

/-- Whether a block is what some calls have to leave. -/
structure Follows (s : Site) (calls : List Call) (block : List Text) : Prop where
  /-- It has what all of them produced, in this order, each statement at its first place. -/
  eq_eraseDups : block = (calls.flatMap (Call.produced s)).eraseDups
  nodup : block.Nodup
  /-- Whatever the block was in between is its beginning. -/
  run_prefix : ∀ earlier later, calls = earlier ++ later → run s earlier <+: block
  after_query : ∀ call : Call, call.isQuery = true → after s block call = block
  /-- A request may be added at once. -/
  after_add : ∀ imports cs,
    after s block (.add imports cs) = insertAll block (s.statements imports cs).1
  /-- A call that was made before changes nothing, and ends as it ended then. -/
  after_again : ∀ earlier call later, calls = earlier ++ call :: later →
    after s block call = block ∧ answer s block call = answer s (run s earlier) call

/-- A run of calls leaves what it has to leave, wherever some of them fail. -/
theorem follows_run (s : Site) (calls : List Call) : Follows s calls (run s calls) where
  eq_eraseDups := by rw [run, foldl_after, insertAll_nil]
  nodup := by
    rw [run, foldl_after]
    exact nodup_insertAll List.nodup_nil _
  run_prefix earlier later h := by
    subst h
    rw [run, run, List.foldl_append, foldl_after s later, insertAll_eq_append]
    exact List.prefix_append _ _
  after_query call h := by
    rw [after_eq]
    cases call with
    | specifier file | entityImport c | relocate i => rfl
    | addEntities cs | addImports imports | add imports cs => cases h
  after_add imports cs := by rw [after_eq, Call.statements_eq]
  after_again earlier call later h := by
    subst h
    refine ⟨?_, by rw [answer_eq, answer_eq]⟩
    rw [after_eq, run, foldl_after]
    refine insertAll_of_subset fun statement hstatement => mem_insertAll.2 (.inr ?_)
    exact List.mem_flatMap.2 ⟨call, by simp, hstatement⟩

/-- The first of two calls fails at a file without a location, after it has added a statement. -/
example :
    let s : Site := { cwd := [], output := "/out.ts".toList }
    let a : Contribution := { file := "/a.ts".toList, names := [['A']] }
    let b : Contribution := { file := "/b.ts".toList, names := [['B']] }
    let nowhere : Contribution := { file := [], names := [['N']] }
    run s [.addEntities [a, nowhere, b], .addEntities [b, a]] =
      ["import \x7b A \x7d from './a'".toList, "import \x7b B \x7d from './b'".toList] := by
  decide +kernel

end ImportBlock

end ShapeMapper
