import ShapeMapper.Template.Render

/-!
# Rendering step by step

One lemma for each kind of node says what it puts before the text of the nodes after it; a loop
puts the texts of its items (`Tree.render_loop`).
-/

namespace ShapeMapper.Template

variable {α : Type} {fromFile : Bool} {scope : Scope}

/-- A name has the value that was bound to it last. -/
theorem Scope.value_cons (scope : Scope) (x y : Text) (v : Value) :
    Scope.value ((x, v) :: scope) y = if x = y then v else scope.value y := by
  unfold Scope.value Keyed.find?
  by_cases h : x = y <;> simp [h]

/-- The body of a loop sees the item, and everything but the state of the loop as it was. -/
theorem Scope.value_atItem (scope : Scope) (x y : Text) (item : Value) (index size : Nat) :
    (scope.atItem x item index size).value y =
      if x = y then item else if stateName = y then .loop index size else scope.value y := by
  rw [atItem, value_cons, value_cons]

namespace Expr

theorem eval_name (scope : Scope) (n : Text) : (name n).eval scope = .ok (scope.value n) :=
  rfl

theorem eval_field {object : Expr} {v : Value} (h : object.eval scope = .ok v) (n : Text) :
    (field object n).eval scope = v.field n := by
  show (do (← object.eval scope).field n) = v.field n
  rw [h]
  rfl

theorem eval_filtered {value : Expr} {v : Value} (h : value.eval scope = .ok v) (filter : Text)
    (labels : List (Option Text)) {arguments : Exprs} {given : List Value}
    (harguments : arguments.eval scope = .ok given) :
    (filtered value filter labels arguments).eval scope =
      v.filter filter (labels.zip given) := by
  show (do (← value.eval scope).filter filter (labels.zip (← arguments.eval scope))) = _
  rw [h, harguments]
  rfl

theorem eval_choice {test : Expr} {b : Bool} (h : test.eval scope = .ok (.bool b))
    (yes no : Expr) :
    (choice test yes no).eval scope = if b then yes.eval scope else no.eval scope := by
  show (do if ← (← test.eval scope).test then yes.eval scope else no.eval scope) = _
  rw [h]
  cases b with
  | true => rfl
  | false => rfl

end Expr

namespace Tree

variable {next : Tree} {rest : Text}

theorem render_done (fromFile : Bool) (scope : Scope) : done.render fromFile scope = .ok [] :=
  rfl

theorem render_data (t : Text) (h : next.render fromFile scope = .ok rest) :
    (data t next).render fromFile scope = .ok (t ++ rest) := by
  show (do return t ++ (← next.render fromFile scope)) = _
  rw [h]
  rfl

theorem render_output {value : Expr} {t : Text} (hvalue : value.eval scope = .ok (.text t))
    (h : next.render fromFile scope = .ok rest) :
    (output value next).render fromFile scope = .ok (t ++ rest) := by
  show (do
    let t ← (← value.eval scope).print
    return t ++ (← next.render fromFile scope)) = _
  rw [hvalue, h]
  rfl

theorem render_branch {test : Expr} {yes no : Tree} {b : Bool} {t : Text}
    (htest : test.eval scope = .ok (.bool b))
    (hbranch : (if b then yes else no).render fromFile scope = .ok t)
    (h : next.render fromFile scope = .ok rest) :
    (branch test yes no next).render fromFile scope = .ok (t ++ rest) := by
  rw [render, htest, h]
  cases b with
  | true =>
    show (do let t ← yes.render fromFile scope; _) = _
    rw [show yes.render fromFile scope = .ok t from hbranch]
    rfl
  | false =>
    show (do let t ← no.render fromFile scope; _) = _
    rw [show no.render fromFile scope = .ok t from hbranch]
    rfl

/-- The body of a loop at its items, from an item of some index on. -/
theorem mapM_render_atItem {x : Text} {body : Tree} {value : α → Value} {text : α → Text}
    (size : Nat) (hbody : ∀ a index,
      body.render fromFile (scope.atItem x (value a) index size) = .ok (text a))
    (l : List α) (n : Nat) :
    (((l.map value).zipIdx n).mapM fun (item, index) =>
      body.render fromFile (scope.atItem x item index size)) = .ok (l.map text) := by
  induction l generalizing n with
  | nil => rfl
  | cons a l ih =>
    rw [List.map_cons, List.zipIdx_cons, List.mapM_cons, ih]
    dsimp only
    rw [hbody]
    rfl

/-- A loop writes its body for every item, one after the other. -/
theorem render_loop {x : Text} {range : Expr} {body : Tree} {l : List α} {value : α → Value}
    {text : α → Text} {fixed : Bool} (hrange : range.eval scope = .ok (.list (l.map value) fixed))
    (hbody : ∀ a index size,
      body.render fromFile (scope.atItem x (value a) index size) = .ok (text a))
    (h : next.render fromFile scope = .ok rest) :
    (loop x range body .done next).render fromFile scope = .ok (l.flatMap text ++ rest) := by
  rw [render, hrange, h]
  cases l with
  | nil => rfl
  | cons a l =>
    have hitems := mapM_render_atItem (List.map value (a :: l)).length
      (fun a index => hbody a index _) (a :: l) 1
    show (Except.bind (Except.map List.flatten (List.mapM _ _)) fun texts => _) = _
    rw [hitems]
    rfl

end Tree

end ShapeMapper.Template
