import Mathlib.Data.Finset.Card
import ShapeMapper.Proofs.Session

/-!
# Reading files through a session, over time

Between two readings of a file its contents may change. A session that may use its memory goes on
to give the document that it first read at the place of the file, whatever has become of the file
since; one that may not gives what the file holds now. So what a session remembers is told by
the readings so far (`Registry.Remembers`), and so are its answers: `Registry.consistent_run`.
-/

namespace ShapeMapper

/-- A session and the files that it reads, which may change. -/
structure Registry where
  files : FileTree
  session : Session := {}

namespace Registry

/-- What may happen to a registry. -/
inductive Action
  /-- The files change: one is written or deleted, or whatever else. -/
  | change (alter : FileTree → FileTree)
  | get (file : Text)
  /-- Whether a document is remembered for a file. -/
  | has (file : Text)

/-- A reading of a file: the files as they were, and the answer. -/
structure Reading where
  workspace : Workspace
  file : Text
  answer : Except Failure Document

/-- The place that a reading was about. -/
def Reading.place (x : Reading) : Location :=
  x.workspace.location x.file

variable (cwd : Text) (lookup : Lookup)

/-- The files as they are now. -/
def workspace (r : Registry) : Workspace where
  files := r.files
  cwd := cwd

/-- The document of a file, from memory if the session may use it. -/
def get (r : Registry) (file : Text) : Except Failure Document × Registry :=
  match Run.document (r.workspace cwd) lookup file r.session with
  | .ok d s => (.ok d, { r with session := s })
  | .error e s => (.error e, { r with session := s })

/-- One action, with the readings so far. -/
def act : Registry × List Reading → Action → Registry × List Reading
  | (r, history), .change alter => ({ r with files := alter r.files }, history)
  | (r, history), .get file =>
    ((r.get cwd lookup file).2,
      history ++ [⟨r.workspace cwd, file, (r.get cwd lookup file).1⟩])
  | (r, history), .has _ => (r, history)

/-- Some actions, one after the other, in a fresh session. -/
def run (files : FileTree) (actions : List Action) : Registry × List Reading :=
  actions.foldl (act cwd lookup) ({ files := files }, [])

/-- The document of the first reading of a place that was successful. -/
def firstAt (history : List Reading) (place : Location) : Option Document :=
  history.findSome? fun x => if x.place = place then x.answer.toOption else none

/-- The places of all successful readings. -/
def places (history : List Reading) : List Location :=
  (history.filter fun x => x.answer.isOk).map Reading.place

/-- The document that a place should be remembered with. -/
def remembered (history : List Reading) (place : Location) : Option Document :=
  if lookup.cache then firstAt history place else none

/-- Whether a document is what a file held when its place was first read with success. -/
def FirstRead (history : List Reading) (place : Location) (d : Document) : Prop :=
  ∃ before x after, history = before ++ x :: after ∧ firstAt before place = none ∧
    x.place = place ∧ x.answer = .ok d ∧
    (x.workspace.document lookup.visibility x.file).1 = .ok d

/-- Whether a registry answers as the readings so far tell, from the files as they are now. -/
structure Consistent (history : List Reading) (r : Registry) : Prop where
  /-- A file is answered with the document first read at its place; if there is none, with that of
  its present contents. -/
  get_eq : ∀ file, (r.get cwd lookup file).1 =
    match remembered lookup history ((r.workspace cwd).location file) with
    | some d => .ok d
    | none => ((r.workspace cwd).document lookup.visibility file).1
  /-- A document that is not remembered names the file as it is named now. -/
  file_eq : ∀ file d, remembered lookup history ((r.workspace cwd).location file) = none →
    (r.get cwd lookup file).1 = .ok d → d.file = file
  first : ∀ place d, remembered lookup history place = some d → FirstRead lookup history place d
  knows_eq : ∀ file, r.session.knows (r.workspace cwd) file =
    (remembered lookup history ((r.workspace cwd).location file)).isSome
  length_eq : r.session.documents.length =
    if lookup.cache then (places history).toFinset.card else 0
  /-- A reading that fails leaves everything as it was. -/
  unchanged : ∀ file e, (r.get cwd lookup file).1 = .error e →
    (r.get cwd lookup file).2.files = r.files ∧
      (r.get cwd lookup file).2.session.documents = r.session.documents

variable {cwd lookup} {r : Registry} {history : List Reading} {file : Text} {place : Location}
  {d : Document}

/-! ### One reading -/

theorem files_get (r : Registry) (file : Text) : (r.get cwd lookup file).2.files = r.files := by
  unfold get
  split <;> rfl

theorem get_of_some
    (h : (if lookup.cache then r.session.document? ((r.workspace cwd).location file) else none) =
      some d) :
    (r.get cwd lookup file).1 = .ok d ∧
      (r.get cwd lookup file).2.session.documents = r.session.documents := by
  rw [get, Run.document_of_some h]
  exact ⟨rfl, rfl⟩

theorem get_of_none
    (h : (if lookup.cache then r.session.document? ((r.workspace cwd).location file) else none) =
      none) :
    (r.get cwd lookup file).1 = ((r.workspace cwd).document lookup.visibility file).1 ∧
      (r.get cwd lookup file).2.session.documents =
        match ((r.workspace cwd).document lookup.visibility file).1 with
        | .ok d =>
          if lookup.cache then
            Keyed.put Prod.fst ((r.workspace cwd).location file, d) r.session.documents
          else r.session.documents
        | .error _ => r.session.documents := by
  have hread := Run.document_of_none h
  unfold get
  cases hfresh : ((r.workspace cwd).document lookup.visibility file).1 <;>
    cases hrun : Run.document (r.workspace cwd) lookup file r.session <;>
      simp only [hfresh, hrun] at hread ⊢
  · exact ⟨congrArg _ hread.1, hread.2⟩
  · exact ⟨congrArg _ hread.1, hread.2⟩

/-! ### What is remembered -/

theorem firstAt_append (history : List Reading) (x : Reading) (place : Location) :
    firstAt (history ++ [x]) place =
      (firstAt history place).or (if x.place = place then x.answer.toOption else none) := by
  rw [firstAt, List.findSome?_append, List.findSome?_singleton]
  rfl

theorem remembered_append (history : List Reading) (x : Reading) (place : Location) :
    remembered lookup (history ++ [x]) place =
      (remembered lookup history place).or
        (if lookup.cache ∧ x.place = place then x.answer.toOption else none) := by
  unfold remembered
  cases lookup.cache with
  | true => simp [firstAt_append]
  | false => rfl

theorem isSome_firstAt : (firstAt history place).isSome ↔ place ∈ places history := by
  simp only [firstAt, places, List.findSome?_isSome_iff, List.mem_map, List.mem_filter]
  refine exists_congr fun x => ?_
  cases x.answer <;> simp [Except.toOption, Except.isOk, Except.toBool]

theorem FirstRead.append (h : FirstRead lookup history place d) (x : Reading) :
    FirstRead lookup (history ++ [x]) place d := by
  obtain ⟨before, y, after, rfl, hy⟩ := h
  exact ⟨before, y, after ++ [x], by simp, hy⟩

/-- Whether a session remembers what the readings so far tell. -/
structure Remembers (lookup : Lookup) (history : List Reading) (s : Session) : Prop where
  document?_eq : ∀ place, s.document? place = remembered lookup history place
  nodup : (s.documents.map Prod.fst).Nodup
  first : ∀ place d, remembered lookup history place = some d → FirstRead lookup history place d

namespace Remembers

theorem nil : Remembers lookup [] {} where
  document?_eq place := by simp [Session.document?, Keyed.find?, remembered, firstAt]
  nodup := List.nodup_nil
  first place d h := by simp [remembered, firstAt] at h

theorem lookup_eq (h : Remembers lookup history r.session) (place : Location) :
    (if lookup.cache then r.session.document? place else none) =
      remembered lookup history place := by
  rw [h.document?_eq]
  unfold remembered
  split <;> rfl

theorem get_eq (h : Remembers lookup history r.session) (cwd file : Text) :
    (r.get cwd lookup file).1 =
      match remembered lookup history ((r.workspace cwd).location file) with
      | some d => .ok d
      | none => ((r.workspace cwd).document lookup.visibility file).1 := by
  have hlookup := h.lookup_eq ((r.workspace cwd).location file)
  cases hremembered : remembered lookup history ((r.workspace cwd).location file) with
  | some d => exact (get_of_some (hlookup.trans hremembered)).1
  | none => exact (get_of_none (hlookup.trans hremembered)).1

/-- A reading leaves all that is remembered as it was, or it is the first successful one of its
place. -/
theorem get_cases (h : Remembers lookup history r.session) (cwd file : Text) :
    let here := (r.workspace cwd).location file
    let x : Reading := ⟨r.workspace cwd, file, (r.get cwd lookup file).1⟩
    ((r.get cwd lookup file).2.session.documents = r.session.documents ∧
        ∀ place, remembered lookup (history ++ [x]) place = remembered lookup history place) ∨
      ∃ d, lookup.cache = true ∧ firstAt history here = none ∧ x.answer = .ok d ∧
        ((r.workspace cwd).document lookup.visibility file).1 = .ok d ∧
        (r.get cwd lookup file).2.session.documents =
          Keyed.put Prod.fst (here, d) r.session.documents := by
  intro here x
  have hlookup := h.lookup_eq here
  cases hremembered : remembered lookup history here with
  | some d =>
    obtain ⟨-, hdocuments⟩ := get_of_some (hlookup.trans hremembered)
    refine .inl ⟨hdocuments, fun place => ?_⟩
    rw [remembered_append]
    by_cases hplace : x.place = place
    · obtain rfl : here = place := hplace
      rw [hremembered, Option.some_or]
    · rw [if_neg fun hx => hplace hx.2, Option.or_none]
  | none =>
    obtain ⟨hanswer, hdocuments⟩ := get_of_none (hlookup.trans hremembered)
    cases hcache : lookup.cache with
    | false =>
      refine .inl ⟨?_, fun place => ?_⟩
      · rw [hdocuments, hcache]
        split <;> rfl
      · rw [remembered_append, hcache, if_neg fun hx => Bool.false_ne_true hx.1, Option.or_none]
    | true =>
      cases hfresh : ((r.workspace cwd).document lookup.visibility file).1 with
      | error e =>
        refine .inl ⟨?_, fun place => ?_⟩
        · rw [hdocuments, hfresh]
        · rw [remembered_append, show x.answer = .error e from hanswer.trans hfresh]
          simp [Except.toOption]
      | ok d =>
        refine .inr ⟨d, rfl, ?_, hanswer.trans hfresh, rfl, ?_⟩
        · rwa [remembered, if_pos hcache] at hremembered
        · rw [hdocuments, hfresh, hcache]
          rfl

/-- One more reading is remembered, if it is the first successful one of its place. -/
theorem get (h : Remembers lookup history r.session) (cwd file : Text) :
    Remembers lookup (history ++ [⟨r.workspace cwd, file, (r.get cwd lookup file).1⟩])
      (r.get cwd lookup file).2.session := by
  rcases h.get_cases cwd file with ⟨hsame, hkept⟩ | ⟨d, hcache, hnone, hok, hfresh, hput⟩
  · constructor
    case document?_eq =>
      intro place
      rw [Session.document?, hsame, hkept]
      exact h.document?_eq place
    case nodup =>
      rw [hsame]
      exact h.nodup
    case first =>
      intro place d hd
      rw [hkept] at hd
      exact (h.first place d hd).append _
  · constructor
    case document?_eq =>
      intro place
      rw [Session.document?, hput, Keyed.find?_put, remembered_append, hok]
      by_cases hplace : (r.workspace cwd).location file = place
      · rw [if_pos hplace, if_pos ⟨hcache, hplace⟩, ← hplace, remembered, if_pos hcache, hnone]
        rfl
      · rw [if_neg hplace, if_neg fun hx => hplace hx.2, Option.or_none]
        exact h.document?_eq place
    case nodup =>
      rw [hput]
      exact Keyed.nodup_put _ h.nodup
    case first =>
      intro place e he
      rw [remembered_append, Option.or_eq_some_iff] at he
      rcases he with he | ⟨-, he⟩
      · exact (h.first place e he).append _
      · split at he
        · next hx =>
          obtain rfl : d = e := by
            rw [hok] at he
            exact Option.some.inj he
          obtain rfl : (r.workspace cwd).location file = place := hx.2
          exact ⟨history, _, [], rfl, hnone, rfl, hok, hfresh⟩
        · cases he

/-- The session remembers as many documents as places have been read. -/
theorem length_eq (h : Remembers lookup history r.session) :
    r.session.documents.length =
      if lookup.cache then (places history).toFinset.card else 0 := by
  have hmem (place : Location) :
      place ∈ r.session.documents.map Prod.fst ↔ (remembered lookup history place).isSome := by
    rw [← h.document?_eq, Session.document?, Option.isSome_map, Keyed.find?, List.find?_isSome]
    simp
  split
  · next hcache =>
    have hplaces : (r.session.documents.map Prod.fst).toFinset = (places history).toFinset := by
      ext place
      rw [List.mem_toFinset, List.mem_toFinset, hmem, remembered, if_pos hcache, isSome_firstAt]
    rw [← hplaces, List.toFinset_card_of_nodup h.nodup, List.length_map]
  · next hcache =>
    have hnil : r.session.documents.map Prod.fst = [] := by
      refine List.eq_nil_iff_forall_not_mem.2 fun place hplace => ?_
      rw [hmem, remembered, if_neg hcache] at hplace
      cases hplace
    rw [← List.length_map (f := Prod.fst), hnil, List.length_nil]

/-- What is remembered tells how the registry answers. -/
theorem consistent (h : Remembers lookup history r.session) :
    Consistent cwd lookup history r where
  get_eq := h.get_eq cwd
  file_eq file d hnone hd := by
    rw [h.get_eq, hnone] at hd
    exact Workspace.file_of_document hd
  first := h.first
  knows_eq file := by rw [Session.knows, h.document?_eq]
  length_eq := h.length_eq
  unchanged file e herror := by
    refine ⟨files_get r file, ?_⟩
    rcases h.get_cases cwd file with ⟨hsame, -⟩ | ⟨d, -, -, hok, -⟩
    · exact hsame
    · rw [herror] at hok
      cases hok

end Remembers

theorem remembers_act (h : Remembers lookup history r.session) (action : Action) :
    Remembers lookup (act cwd lookup (r, history) action).2
      (act cwd lookup (r, history) action).1.session := by
  cases action with
  | change alter => exact h
  | get file => exact h.get cwd file
  | has file => exact h

/-- Whatever happens to the files meanwhile, a session remembers what was read first. -/
theorem remembers_run (files : FileTree) (actions : List Action) :
    Remembers lookup (run cwd lookup files actions).2 (run cwd lookup files actions).1.session := by
  suffices ∀ start : Registry × List Reading, Remembers lookup start.2 start.1.session →
      Remembers lookup (actions.foldl (act cwd lookup) start).2
        (actions.foldl (act cwd lookup) start).1.session from
    this ({ files := files }, []) .nil
  induction actions with
  | nil => exact fun _ h => h
  | cons action actions ih => exact fun start h => ih _ (remembers_act h action)

/-- A registry answers as the readings so far tell: with the document that was first read at the
place of a file, if it may use its memory and there is one, and otherwise with the document of the
file as it is now. -/
theorem consistent_run (cwd : Text) (lookup : Lookup) (files : FileTree) (actions : List Action) :
    Consistent cwd lookup (run cwd lookup files actions).2 (run cwd lookup files actions).1 :=
  (remembers_run files actions).consistent

/-- A file that is read, deleted, and named otherwise: only a memory still has its document. -/
example :
    let actions : List Action :=
      [.change (FileTree.insert · ["a.ts".toList] (FileTree.textEntry [])), .get "a.ts".toList,
        .change (FileTree.remove · ["a.ts".toList]), .get "b/../a.ts".toList]
    let named (cache : Bool) : List (Option Text) :=
      (run "/".toList { cache := cache } ⟨fun _ => none⟩ actions).2.map fun x =>
        x.answer.toOption.map Document.file
    named true = [some "a.ts".toList, some "a.ts".toList] ∧
      named false = [some "a.ts".toList, none] := by
  decide +kernel

end Registry

end ShapeMapper
