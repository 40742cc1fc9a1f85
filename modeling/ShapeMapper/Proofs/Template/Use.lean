import ShapeMapper.Generator
import ShapeMapper.Proofs.Template.Bundled
import ShapeMapper.Proofs.Template.Operand

/-!
# Uses of values in templates

Rendering comes to one operation after the other (`Tree.uses`) until one of them fails. Only an
operation on values that it does not take (`Use.Fits`) fails without words, so a template is
written out or its fault is told just if all operations fit (`Template.isReported_render_iff`).
What is not supported (`Unsupported`) has words. Nothing keeps a template from handing the filters
for property names what is no name.
-/

namespace ShapeMapper

/-- Whether a text comes out, or else a failure that has words. -/
def IsReported {ε : Type} (words : ε → Option Text) : Except ε Text → Prop
  | .ok _ => True
  | .error e => (words e).isSome = true

namespace Template

/-- An operation that does not take all values, with those that it is used on. -/
inductive Use
  | key (value : Value)
  | filter (value : Value) (name : Text) (arguments : List Value.Argument)
  | iteration (range : Value)
  /-- An inclusion, in a template that comes from a file or in another one. -/
  | inclusion (fromFile : Bool) (template : Value)

/-- Whether an operation takes the values that it is used on. -/
def Use.Fits : Use → Prop
  | key value => value.IsKey
  | filter value name arguments => value.IsFilterable name arguments
  | iteration range => range.IsMissing ∨ range.IsIterable
  | inclusion fromFile template => template.IsIncludable fromFile

variable {α β : Type}

/-- What comes after a result; nothing does after a fault. -/
def after (x : Except UseFault α) (uses : α → List Use) : List Use :=
  match x with
  | .ok a => uses a
  | .error _ => []

/-- The uses of all steps over a list, up to the first that fails. -/
def usesOfAll (step : α → Except UseFault β) (uses : α → List Use) : List α → List Use
  | [] => []
  | a :: l => uses a ++ after (step a) fun _ => usesOfAll step uses l

mutual

/-- The uses that the value of an expression comes to. -/
def Expr.uses (scope : Scope) : Expr → List Use
  | .name _ | .string _ | .number _ | .bool _ | .absent => []
  | .list items _ => items.uses scope
  | .record entries =>
    entries.uses scope ++ after (entries.eval scope) fun given =>
      usesOfAll (fun entry => entry.1.entryName) (fun entry => [.key entry.1]) given
  | .field object _ => object.uses scope
  | .item object key => object.uses scope ++ after (object.eval scope) fun _ => key.uses scope
  | .filtered value filter labels arguments =>
    value.uses scope ++ after (value.eval scope) fun v =>
      arguments.uses scope ++ after (arguments.eval scope) fun given =>
        [.filter v filter (labels.zip given)]
  | .negated value => value.uses scope
  | .choice test yes no =>
    test.uses scope ++ after (test.eval scope) fun v => after v.test fun b =>
      if b then yes.uses scope else no.uses scope

/-- The uses that the values of several expressions come to. -/
def Exprs.uses (scope : Scope) : Exprs → List Use
  | .nil => []
  | .cons e es => e.uses scope ++ after (e.eval scope) fun _ => es.uses scope

/-- The uses that the keys and values of the entries of a record come to. -/
def Entries.uses (scope : Scope) : Entries → List Use
  | .nil => []
  | .cons key value es =>
    key.uses scope ++ after (key.eval scope) fun _ =>
      value.uses scope ++ after (value.eval scope) fun _ => es.uses scope

end

/-- The uses that the text of a template comes to. -/
def Tree.uses (fromFile : Bool) (scope : Scope) : Tree → List Use
  | done => []
  | data _ next => next.uses fromFile scope
  | output value next =>
    value.uses scope ++ after (value.eval scope) fun v => after v.print fun _ =>
      next.uses fromFile scope
  | loop x range body orElse next =>
    range.uses scope ++ after (range.eval scope) fun v =>
      [.iteration v] ++ after v.items fun items =>
        if items.isEmpty then
          orElse.uses fromFile scope ++ after (orElse.render fromFile scope) fun _ =>
            next.uses fromFile scope
        else
          let text (i : Value × Nat) :=
            body.render fromFile (scope.atItem x i.1 i.2 items.length)
          usesOfAll text (fun i => body.uses fromFile (scope.atItem x i.1 i.2 items.length))
              (items.zipIdx 1) ++
            after ((items.zipIdx 1).mapM text) fun _ => next.uses fromFile scope
  | branch test yes no next =>
    test.uses scope ++ after (test.eval scope) fun v => after v.test fun b =>
      if b then
        yes.uses fromFile scope ++ after (yes.render fromFile scope) fun _ =>
          next.uses fromFile scope
      else
        no.uses fromFile scope ++ after (no.render fromFile scope) fun _ =>
          next.uses fromFile scope
  | inclusion template _ =>
    template.uses scope ++ after (template.eval scope) fun v => [.inclusion fromFile v]

/-! ### Uses and faults -/

/-- Whether a result is one of some uses: the fault is a value of the wrong kind just if one of them
does not fit. -/
def Explains (uses : List Use) (x : Except UseFault α) : Prop :=
  x = .error .wrongKind ↔ ∃ u ∈ uses, ¬u.Fits

namespace Explains

variable {us : List Use} {vs : α → List Use} {x : Except UseFault α} {f : α → Except UseFault β}

theorem ne_iff (h : Explains us x) : x ≠ .error .wrongKind ↔ ∀ u ∈ us, u.Fits := by
  unfold Explains at h
  rw [Ne, h]
  simp

theorem of_ne (h : x ≠ .error .wrongKind) : Explains [] x := by
  simp [Explains, h]

theorem ok (a : α) : Explains [] (.ok a : Except UseFault α) :=
  of_ne (by simp)

theorem of_iff {u : Use} (h : x = .error .wrongKind ↔ ¬u.Fits) : Explains [u] x := by
  simp [Explains, h]

theorem bind (h : Explains us x) (hf : ∀ a, x = .ok a → Explains (vs a) (f a)) :
    Explains (us ++ after x vs) (x >>= f) := by
  unfold Explains at *
  rw [bind_eq_error_iff, h]
  cases x with
  | error e => simp [after]
  | ok a =>
    have hus : ¬∃ u ∈ us, ¬u.Fits := fun hus => nomatch h.2 hus
    simp only [after, List.mem_append, or_and_right, exists_or, or_iff_right hus, ← hf a rfl]
    simp

theorem bind_of_ne (h : x ≠ .error .wrongKind) (hf : ∀ a, x = .ok a → Explains (vs a) (f a)) :
    Explains (after x vs) (x >>= f) :=
  bind (of_ne h) hf

theorem bind_ne (h : Explains us x) (hf : ∀ a, f a ≠ .error .wrongKind) :
    Explains us (x >>= f) := by
  unfold Explains at *
  rw [bind_eq_error_iff, h]
  simp [hf]

theorem bind_pure (h : Explains us x) (f : α → β) : Explains us (x >>= fun a => pure (f a)) :=
  h.bind_ne fun _ => nofun

theorem mapM {step : α → Except UseFault β} {uses : α → List Use} {l : List α}
    (h : ∀ a ∈ l, Explains (uses a) (step a)) : Explains (usesOfAll step uses l) (l.mapM step) := by
  induction l with
  | nil => exact ok []
  | cons a l ih =>
    rw [List.forall_mem_cons] at h
    rw [List.mapM_cons]
    exact h.1.bind fun b _ => (ih h.2).bind_pure _

end Explains

mutual

theorem Expr.explains_eval (scope : Scope) (e : Expr) : Explains (e.uses scope) (e.eval scope) := by
  cases e with
  | name n => exact .ok _
  | string s => exact .ok _
  | number n => exact .ok _
  | bool b => exact .ok _
  | absent => exact .ok _
  | list items fixed => exact (items.explains_eval scope).bind_pure _
  | record entries =>
    -- no key is looked at before all values are there
    exact (entries.explains_eval scope).bind fun given _ =>
      (Explains.mapM fun entry _ => .of_iff Value.entryName_eq_wrongKind_iff).bind_pure _
  | field object n =>
    exact (object.explains_eval scope).bind_ne fun v => v.field_ne_wrongKind n
  | item object key =>
    exact (object.explains_eval scope).bind fun v _ => (key.explains_eval scope).bind_ne fun k =>
      v.item_ne_wrongKind k
  | filtered value filter labels arguments =>
    exact (value.explains_eval scope).bind fun v _ => (arguments.explains_eval scope).bind
      fun given _ => .of_iff Value.filter_eq_wrongKind_iff
  | negated value =>
    exact (value.explains_eval scope).bind_ne fun v => by
      rw [Ne, bind_eq_error_iff]
      simp [v.test_ne_wrongKind, pure, Except.pure]
  | choice test yes no =>
    refine (test.explains_eval scope).bind fun v _ => .bind_of_ne v.test_ne_wrongKind fun b _ => ?_
    cases b with
    | true => exact yes.explains_eval scope
    | false => exact no.explains_eval scope

theorem Exprs.explains_eval (scope : Scope) (es : Exprs) :
    Explains (es.uses scope) (es.eval scope) := by
  cases es with
  | nil => exact .ok _
  | cons e es => exact (e.explains_eval scope).bind fun v _ => (es.explains_eval scope).bind_pure _

theorem Entries.explains_eval (scope : Scope) (es : Entries) :
    Explains (es.uses scope) (es.eval scope) := by
  cases es with
  | nil => exact .ok _
  | cons key value es =>
    exact (key.explains_eval scope).bind fun k _ => (value.explains_eval scope).bind fun v _ =>
      (es.explains_eval scope).bind_pure _

end

theorem Tree.explains_render (fromFile : Bool) (tree : Tree) (scope : Scope) :
    Explains (tree.uses fromFile scope) (tree.render fromFile scope) := by
  -- the body of a loop is rendered in other scopes
  induction tree generalizing scope with
  | done => exact .ok _
  | data t next ih => exact (ih scope).bind_pure _
  | output value next ih =>
    exact (value.explains_eval scope).bind fun v _ => .bind_of_ne v.print_ne_wrongKind fun t _ =>
      (ih scope).bind_pure _
  | loop x range body orElse next ihbody ihelse ihnext =>
    refine (range.explains_eval scope).bind fun v _ => ?_
    refine (Explains.of_iff (u := .iteration v) Value.items_eq_wrongKind_iff).bind fun items _ => ?_
    cases items.isEmpty with
    | true => exact (ihelse scope).bind fun t _ => (ihnext scope).bind_pure _
    | false =>
      -- joining the texts of the items comes to nothing
      rw [if_neg (by decide), if_neg (by decide), bind_map_left]
      exact (Explains.mapM fun i _ => ihbody _).bind fun texts _ => (ihnext scope).bind_pure _
  | branch test yes no next ihyes ihno ihnext =>
    refine (test.explains_eval scope).bind fun v _ => .bind_of_ne v.test_ne_wrongKind fun b _ => ?_
    cases b with
    | true => exact (ihyes scope).bind fun t _ => (ihnext scope).bind_pure _
    | false => exact (ihno scope).bind fun t _ => (ihnext scope).bind_pure _
  | inclusion template next ih =>
    refine (template.explains_eval scope).bind fun v _ => .of_iff ?_
    show Except.error (v.inclusionFault fromFile) = .error .wrongKind ↔ ¬v.IsIncludable fromFile
    rw [Except.error.injEq, v.inclusionFault_eq_wrongKind_iff]

/-! ### Words for faults -/

theorem isReported_mapError_use_iff {x : Except UseFault Text} {uses : List Use}
    (h : Explains uses x) :
    IsReported RenderFault.detail? (x.mapError .use) ↔ ∀ u ∈ uses, u.Fits := by
  rw [← h.ne_iff]
  rcases x with (_ | _ | _ | (_ | _) | _ | _) | t <;>
    simp [Except.mapError, IsReported, RenderFault.detail?]

/-- A template that cannot be read has a fault that is told. -/
theorem isReported_render_of_error {fromFile : Bool} {source : Text} {scope : Scope} {fault : Fault}
    (h : Tree.ofText source = .error fault) :
    IsReported RenderFault.detail? (render fromFile source scope) := by
  rw [render, h]
  exact rfl

theorem isReported_render_of_ok {fromFile : Bool} {source : Text} {scope : Scope} {tree : Tree}
    (h : Tree.ofText source = .ok tree) :
    IsReported RenderFault.detail? (render fromFile source scope) ↔
      selfName ∉ scope.map Prod.fst ∧ ∀ u ∈ tree.uses fromFile scope, u.Fits := by
  have hself : (Keyed.find? Prod.fst selfName scope).isSome = true ↔
      selfName ∈ scope.map Prod.fst := by
    simp [Keyed.find?]
  rw [render, h]
  by_cases hmem : selfName ∈ scope.map Prod.fst
  · rw [hself.2 hmem]
    exact ⟨fun hreported => absurd hreported Bool.false_ne_true, fun h => absurd hmem h.1⟩
  · rw [and_iff_right hmem, ← isReported_mapError_use_iff (tree.explains_render fromFile scope),
      eq_false_of_ne_true (mt hself.1 hmem)]
    rfl

theorem isReported_render_iff_forall {fromFile : Bool} {source : Text} {scope : Scope} :
    IsReported RenderFault.detail? (render fromFile source scope) ↔
      ∀ tree, Tree.ofText source = .ok tree →
        selfName ∉ scope.map Prod.fst ∧ ∀ u ∈ tree.uses fromFile scope, u.Fits := by
  cases h : Tree.ofText source with
  | error fault => simpa using isReported_render_of_error h
  | ok tree => simpa using isReported_render_of_ok h

/-- The name of the template itself is no name of an artifact. -/
theorem selfName_notMem_scope (a : Artifact) : selfName ∉ a.scope.map Prod.fst := by
  simp [Artifact.scope, selfName]

theorem isReported_renderBundled (w : Workspace) (a : Artifact) :
    IsReported Failure.report? ((TemplateChoice.ofPath none).render w a) := by
  show IsReported _ (a.renderBundled.mapError Failure.rendering)
  rw [a.renderBundled_eq]
  trivial

theorem isReported_mapError_rendering_iff (x : Except RenderFault Text) :
    IsReported Failure.report? (x.mapError Failure.rendering) ↔
      IsReported RenderFault.detail? x := by
  cases x with
  | error fault => simp [Except.mapError, IsReported, Failure.report?]
  | ok t => rfl

/-- A template from a path is reported missing unless there is a file. -/
theorem isReported_render_ofPath_iff (w : Workspace) (p : Text) (a : Artifact) :
    IsReported Failure.report? ((TemplateChoice.ofPath (some p)).render w a) ↔
      (w.files.isFile w.cwd (Path.tidy p) = true →
        ∃ source, w.files.readText w.cwd (Path.tidy p) = .ok source ∧
          IsReported RenderFault.detail? (a.render source)) := by
  cases hfile : w.files.isFile w.cwd (Path.tidy p) with
  | false =>
    simp only [TemplateChoice.ofPath, TemplateChoice.render, hfile]
    exact ⟨fun _ => nofun, fun _ => rfl⟩
  | true =>
    simp only [TemplateChoice.ofPath, TemplateChoice.render, hfile, if_true, true_imp_iff]
    cases w.files.readText w.cwd (Path.tidy p) with
    | error fault => exact ⟨fun h => absurd h Bool.false_ne_true, nofun⟩
    | ok source =>
      simp only [Except.ok.injEq, exists_eq_left']
      exact isReported_mapError_rendering_iff _

/-- A template fails with words, or not at all, just if it cannot be read, or else no value goes by
the name of the template itself and all operations that rendering comes to fit. With a template from
a path this is the same, where a file that is not there is a fault with words, too, and one that is
no text has none. -/
theorem isReported_render_iff (fromFile : Bool) (source : Text) (scope : Scope) (w : Workspace)
    (path : Option Text) (a : Artifact) :
    (IsReported RenderFault.detail? (render fromFile source scope) ↔
        ∀ tree, Tree.ofText source = .ok tree →
          selfName ∉ scope.map Prod.fst ∧ ∀ u ∈ tree.uses fromFile scope, u.Fits) ∧
      (IsReported Failure.report? ((TemplateChoice.ofPath path).render w a) ↔
        ∀ p, path = some p → w.files.isFile w.cwd (Path.tidy p) = true →
          ∃ source, w.files.readText w.cwd (Path.tidy p) = .ok source ∧
            ∀ tree, Tree.ofText source = .ok tree → ∀ u ∈ tree.uses true a.scope, u.Fits) := by
  refine ⟨isReported_render_iff_forall, ?_⟩
  cases path with
  | none => exact iff_of_true (isReported_renderBundled w a) nofun
  | some p =>
    rw [isReported_render_ofPath_iff]
    simp only [Option.some.injEq, forall_eq', Artifact.render, isReported_render_iff_forall,
      selfName_notMem_scope, not_false_eq_true, true_and]

/-- A name without a value, which is no property name, either. -/
theorem not_isReported_render_missing :
    render false "\x7b\x7b missing | ts_key \x7d\x7d".toList [] = .error (.use .wrongKind) ∧
      ¬IsReported RenderFault.detail?
        (render false "\x7b\x7b missing | ts_key \x7d\x7d".toList []) := by
  have htree : Tree.ofText "\x7b\x7b missing | ts_key \x7d\x7d".toList =
      .ok (.output (.filtered (.name "missing".toList) "ts_key".toList [] .nil) .done) := by
    decide +kernel
  have hrender : render false "\x7b\x7b missing | ts_key \x7d\x7d".toList [] =
      .error (.use .wrongKind) := by
    rw [render, htree]
    rfl
  rw [hrender]
  exact ⟨rfl, Bool.false_ne_true⟩

end Template

end ShapeMapper
