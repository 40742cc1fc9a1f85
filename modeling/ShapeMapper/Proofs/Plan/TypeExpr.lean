import ShapeMapper.Plan.Basic
import ShapeMapper.Proofs.Declaration.Entity
import ShapeMapper.Proofs.Declaration.Word

/-!
# Type expressions

The types that a declaration may write (`TypeExpr`): unions of names, string literals, generic
applications and types in parentheses, and function types. A type is written with some text for
the bar of a union (`TypeExpr.write`), which has blanks around it in a source (`TypeExpr.text`).
Without these blanks a type can be read back, whatever follows it: `TypeExpr.readBack`.
-/

namespace ShapeMapper

open Written (Name)

theorem Written.Name.isWord (x : Name) : Text.IsWord x.text :=
  ⟨List.cons_ne_nil _ _, fun _ hc => x.isNameChar_of_mem hc⟩

theorem Written.Name.eq_of_text {x y : Name} (h : x.text = y.text) : x = y := by
  cases x
  cases y
  cases h
  rfl

mutual

/-- A type: a function type, or the union of one member or more. -/
inductive TypeExpr
  | function (parameters : List (Name × TypeExpr)) (result : TypeExpr)
  | union (first : UnionMember) (others : List UnionMember)

/-- A member of a union. -/
inductive UnionMember
  | name (x : Name)
  | literal (x : Source.Literal)
  | application (x : Name) (first : TypeExpr) (others : List TypeExpr)
  | group (e : TypeExpr)

end

/-! ### Types as texts -/

mutual

/-- A type as it is written, with some text for the bar between the members of a union. -/
def TypeExpr.write (bar : Text) : TypeExpr → Text
  | .function ps r => '(' :: ", ".toList.intercalate (writeParameters bar ps) ++
      ") => ".toList ++ r.write bar
  | .union m ms => bar.intercalate (m.write bar :: writeMembers bar ms)

def UnionMember.write (bar : Text) : UnionMember → Text
  | .name x => x.text
  | .literal x => x.text
  | .application x e es => x.text ++ '<' ::
      ", ".toList.intercalate (e.write bar :: writeArguments bar es) ++ ['>']
  | .group e => '(' :: e.write bar ++ [')']

def writeParameters (bar : Text) : List (Name × TypeExpr) → List Text
  | [] => []
  | (x, e) :: ps => (x.text ++ ": ".toList ++ e.write bar) :: writeParameters bar ps

def writeMembers (bar : Text) : List UnionMember → List Text
  | [] => []
  | m :: ms => m.write bar :: writeMembers bar ms

def writeArguments (bar : Text) : List TypeExpr → List Text
  | [] => []
  | e :: es => e.write bar :: writeArguments bar es

end

namespace TypeExpr

/-- A type as it is written in a source. -/
def text (e : TypeExpr) : Text :=
  e.write " | ".toList

/-- The members of the outermost union, each as a type. -/
def outermost : TypeExpr → List TypeExpr
  | function ps r => [function ps r]
  | union m ms => (m :: ms).map fun m => union m []

/-- Whether a type is one of the names for the absence of a value. -/
def isAbsence : TypeExpr → Bool
  | union (.name x) [] => UnionType.isAbsence x.text
  | _ => false

/-- What holds of a type and of a member if it holds of their parts holds of all. -/
theorem induct {P : TypeExpr → Prop} {Q : UnionMember → Prop}
    (function : ∀ ps r, (∀ p ∈ ps, P p.2) → P r → P (function ps r))
    (union : ∀ m ms, Q m → (∀ n ∈ ms, Q n) → P (union m ms))
    (name : ∀ x, Q (.name x)) (literal : ∀ x, Q (.literal x))
    (application : ∀ x e es, P e → (∀ f ∈ es, P f) → Q (.application x e es))
    (group : ∀ e, P e → Q (.group e)) : (∀ e, P e) ∧ ∀ m, Q m := by
  -- the parts are smaller, also where they stand in a list
  suffices ∀ n, (∀ e : TypeExpr, sizeOf e < n → P e) ∧ ∀ m : UnionMember, sizeOf m < n → Q m from
    ⟨fun e => (this _).1 e (Nat.lt_succ_self _), fun m => (this _).2 m (Nat.lt_succ_self _)⟩
  intro n
  induction n with
  | zero => exact ⟨fun _ h => absurd h (Nat.not_lt_zero _), fun _ h => absurd h (Nat.not_lt_zero _)⟩
  | succ n ih =>
    constructor
    · intro e he
      cases e with
      | function ps r =>
        rw [TypeExpr.function.sizeOf_spec] at he
        refine function ps r (fun p hp => ih.1 p.2 ?_) (ih.1 r (by omega))
        have hp := List.sizeOf_lt_of_mem hp
        rw [Prod.mk.sizeOf_spec] at hp
        omega
      | union m ms =>
        rw [TypeExpr.union.sizeOf_spec] at he
        refine union m ms (ih.2 m (by omega)) fun n hn => ih.2 n ?_
        have hn := List.sizeOf_lt_of_mem hn
        omega
    · intro m hm
      cases m with
      | name x => exact name x
      | literal x => exact literal x
      | application x e es =>
        rw [UnionMember.application.sizeOf_spec] at hm
        refine application x e es (ih.1 e (by omega)) fun f hf => ih.1 f ?_
        have hf := List.sizeOf_lt_of_mem hf
        omega
      | group e =>
        rw [UnionMember.group.sizeOf_spec] at hm
        exact group e (ih.1 e (by omega))

end TypeExpr

/-! ### Lists in a text -/

/-- A parameter as it is written. -/
def writeParameter (bar : Text) (p : Name × TypeExpr) : Text :=
  p.1.text ++ ": ".toList ++ p.2.write bar

theorem writeParameters_eq (bar : Text) (ps : List (Name × TypeExpr)) :
    writeParameters bar ps = ps.map (writeParameter bar) := by
  induction ps with
  | nil => rfl
  | cons p ps ih => rw [writeParameters, ih, List.map_cons, writeParameter]

theorem writeMembers_eq (bar : Text) (ms : List UnionMember) :
    writeMembers bar ms = ms.map (UnionMember.write bar) := by
  induction ms with
  | nil => rfl
  | cons m ms ih => rw [writeMembers, ih, List.map_cons]

theorem writeArguments_eq (bar : Text) (es : List TypeExpr) :
    writeArguments bar es = es.map (TypeExpr.write bar) := by
  induction es with
  | nil => rfl
  | cons e es ih => rw [writeArguments, ih, List.map_cons]

namespace TypeExpr

theorem write_function (bar : Text) (ps : List (Name × TypeExpr)) (r : TypeExpr) :
    (function ps r).write bar = '(' :: ", ".toList.intercalate (ps.map (writeParameter bar)) ++
      ") => ".toList ++ r.write bar := by
  rw [write, writeParameters_eq]

theorem write_union (bar : Text) (m : UnionMember) (ms : List UnionMember) :
    (union m ms).write bar = bar.intercalate ((m :: ms).map (UnionMember.write bar)) := by
  rw [write, writeMembers_eq, List.map_cons]

end TypeExpr

theorem UnionMember.write_application (bar : Text) (x : Name) (e : TypeExpr)
    (es : List TypeExpr) : (application x e es).write bar = x.text ++ '<' ::
      ", ".toList.intercalate ((e :: es).map (TypeExpr.write bar)) ++ ['>'] := by
  rw [write, writeArguments_eq, List.map_cons]

/-! ### Reading back -/

/-- Whether a writing can be read back where one of some texts follows it. -/
def ReadBefore {α : Type} (ends : Text → Prop) (write : α → Text) (a : α) : Prop :=
  ∀ b u v, ends u → ends v → write a ++ u = write b ++ v → a = b ∧ u = v

/-- Whether a writing can be read back where one of some characters, or nothing, follows it. -/
def ReadBack {α : Type} (ends : List Char) (write : α → Text) (a : α) : Prop :=
  ∀ b u v, (∀ c ∈ u.head?, c ∈ ends) → (∀ c ∈ v.head?, c ∈ ends) →
    write a ++ u = write b ++ v → a = b ∧ u = v

section lists

variable {α : Type} {write : α → Text} {sep u v : Text}

/-- What follows the first element of a list. -/
theorem intercalate_map_cons (a : α) (l : List α) :
    sep.intercalate ((a :: l).map write) = write a ++ l.flatMap fun b => sep ++ write b := by
  induction l generalizing a with
  | nil => simp
  | cons b l ih =>
    rw [List.map_cons, List.map_cons, List.intercalate_cons_cons, ← List.map_cons, ih,
      List.flatMap_cons, List.append_assoc, List.append_assoc]

section texts

variable {P : Text → Prop} (hsep : ∀ t, P (sep ++ t))

include hsep in
/-- What follows an element of a list is the next one, or what follows the list. -/
theorem ends_flatMap_append (hu : P u) (l : List α) :
    P ((l.flatMap fun a => sep ++ write a) ++ u) := by
  cases l with
  | nil => exact hu
  | cons a l =>
    rw [List.flatMap_cons, List.append_assoc, List.append_assoc]
    exact hsep _

variable (hu : P u ∧ ¬sep <+: u) (hv : P v ∧ ¬sep <+: v)
include hsep hu hv

theorem readBefore_flatMap {l l' : List α} (h : ∀ a ∈ l, ReadBefore P write a)
    (heq : (l.flatMap fun a => sep ++ write a) ++ u =
      (l'.flatMap fun a => sep ++ write a) ++ v) : l = l' ∧ u = v := by
  have hprefix (b : α) (m : List α) (w : Text) :
      sep <+: ((b :: m).flatMap fun a => sep ++ write a) ++ w := by
    rw [List.flatMap_cons, List.append_assoc, List.append_assoc]
    exact List.prefix_append _ _
  induction l generalizing l' with
  | nil =>
    cases l' with
    | nil => exact ⟨rfl, heq⟩
    | cons b l' => exact absurd (heq ▸ hprefix b l' v : sep <+: [] ++ u) hu.2
  | cons a l ih =>
    cases l' with
    | nil => exact absurd (heq ▸ hprefix a l u : sep <+: [] ++ v) hv.2
    | cons b l' =>
      simp only [List.flatMap_cons, List.append_assoc, List.append_cancel_left_eq] at heq
      obtain ⟨rfl, hrest⟩ := h a List.mem_cons_self b _ _ (ends_flatMap_append hsep hu.1 l)
        (ends_flatMap_append hsep hv.1 l') heq
      obtain ⟨rfl, rfl⟩ := ih (fun c hc => h c (List.mem_cons_of_mem a hc)) hrest
      exact ⟨rfl, rfl⟩

/-- A list is read back element by element, if what follows it does not begin like the text between
its elements. -/
theorem readBefore_intercalate {a b : α} {l l' : List α}
    (h : ∀ c ∈ a :: l, ReadBefore P write c)
    (heq : sep.intercalate ((a :: l).map write) ++ u =
      sep.intercalate ((b :: l').map write) ++ v) : a :: l = b :: l' ∧ u = v := by
  rw [intercalate_map_cons, intercalate_map_cons, List.append_assoc, List.append_assoc] at heq
  obtain ⟨rfl, hrest⟩ := h a List.mem_cons_self b _ _ (ends_flatMap_append hsep hu.1 l)
    (ends_flatMap_append hsep hv.1 l') heq
  obtain ⟨rfl, rfl⟩ := readBefore_flatMap hsep hu hv
    (fun c hc => h c (List.mem_cons_of_mem a hc)) hrest
  exact ⟨rfl, rfl⟩

end texts

variable {ends : List Char} {mark : Char} (hmark : mark ∈ ends)

include hmark in
theorem mem_of_head?_flatMap (hu : ∀ c ∈ u.head?, c ∈ ends ∧ c ≠ mark) (l : List α) :
    ∀ c ∈ ((l.flatMap fun a => mark :: sep ++ write a) ++ u).head?, c ∈ ends := by
  have hsep (t : Text) : ∀ c ∈ (mark :: sep ++ t).head?, c ∈ ends := by simpa using hmark
  exact ends_flatMap_append (P := fun t => ∀ c ∈ t.head?, c ∈ ends) hsep
    (fun c hc => (hu c hc).1) l

variable (hu : ∀ c ∈ u.head?, c ∈ ends ∧ c ≠ mark) (hv : ∀ c ∈ v.head?, c ∈ ends ∧ c ≠ mark)
include hmark hu hv

/-- A list is read back element by element, if no element begins like what may follow one. -/
theorem readBack_intercalate {l l' : List α} (h : ∀ a ∈ l, ReadBack ends write a)
    (hwrite : ∀ a : α, ∃ c t, write a = c :: t ∧ c ∉ ends)
    (heq : (mark :: sep).intercalate (l.map write) ++ u =
      (mark :: sep).intercalate (l'.map write) ++ v) : l = l' ∧ u = v := by
  have hends {w : Text} (hw : ∀ c ∈ w.head?, c ∈ ends ∧ c ≠ mark) :
      (∀ c ∈ w.head?, c ∈ ends) ∧ ¬mark :: sep <+: w := by
    refine ⟨fun c hc => (hw c hc).1, ?_⟩
    rintro ⟨t, rfl⟩
    exact (hw mark rfl).2 rfl
  cases l with
  | nil =>
    cases l' with
    | nil => exact ⟨rfl, heq⟩
    | cons b l' =>
      obtain ⟨c, t, ht, hc⟩ := hwrite b
      rw [intercalate_map_cons, ht] at heq
      exact absurd (hu c (by simp [show u = _ from heq])).1 hc
  | cons a l =>
    cases l' with
    | nil =>
      obtain ⟨c, t, ht, hc⟩ := hwrite a
      rw [intercalate_map_cons, ht] at heq
      exact absurd (hv c (by simp [← show _ = v from heq])).1 hc
    | cons b l' =>
      exact readBefore_intercalate (P := fun t => ∀ c ∈ t.head?, c ∈ ends)
        (fun t => by simpa using hmark) (hends hu) (hends hv) h heq

end lists

/-- What may follow a type, and what may follow a member of a union. -/
def typeEnds : List Char := [',', '>', ')']

def memberEnds : List Char := '|' :: typeEnds

theorem not_isNameChar_of_mem_memberEnds {c : Char} (h : c ∈ memberEnds) :
    Text.isNameChar c = false := by
  have hends : memberEnds.all (!Text.isNameChar ·) = true := by decide
  simpa using List.all_eq_true.1 hends c h

/-- A name begins with a character that follows no member. -/
theorem Written.Name.exists_append_eq_cons (x : Name) (u : Text) :
    ∃ c t, x.text ++ u = c :: t ∧ Text.isNameChar c = true ∧ c ∉ memberEnds := by
  obtain ⟨c, t, ht⟩ := List.exists_cons_of_ne_nil x.isWord.ne_nil
  have hc : Text.isNameChar c = true := x.isWord.isNameChar c (by simp [ht])
  refine ⟨c, t ++ u, by rw [ht, List.cons_append], hc, fun hmem => ?_⟩
  exact Bool.noConfusion (hc.symm.trans (not_isNameChar_of_mem_memberEnds hmem))

/-- What the first character of a member tells about it. -/
inductive UnionMember.Kind
  | word
  | literal
  | group
  deriving DecidableEq

namespace UnionMember

/-- The kind of member that begins with a character. -/
def Kind.of (c : Char) : Kind :=
  if Text.isNameChar c then .word else if c = '(' then .group else .literal

def kind : UnionMember → Kind
  | name _ | application _ _ _ => .word
  | literal _ => .literal
  | group _ => .group

/-- A member begins with a character of its kind, which follows no member. -/
theorem exists_write_eq_cons (bar : Text) (m : UnionMember) :
    ∃ c t, m.write bar = c :: t ∧ Kind.of c = m.kind ∧ c ∉ memberEnds := by
  have hword (x : Name) (u : Text) :
      ∃ c t, x.text ++ u = c :: t ∧ Kind.of c = .word ∧ c ∉ memberEnds := by
    obtain ⟨c, t, ht, hc, hends⟩ := x.exists_append_eq_cons u
    exact ⟨c, t, ht, if_pos hc, hends⟩
  cases m with
  | name x => simpa [write, kind] using hword x []
  | literal x =>
    have hquote : Kind.of x.quote = .literal ∧ x.quote ∉ memberEnds := by
      rcases Source.isQuote_iff.1 x.isQuote_quote with h | h | h <;> rw [h] <;> decide
    exact ⟨x.quote, x.rest, rfl, hquote⟩
  | application x e es => simpa [write_application, kind] using hword x _
  | group e =>
    have hparen : Kind.of '(' = .group ∧ '(' ∉ memberEnds := by decide
    exact ⟨'(', e.write bar ++ [')'], rfl, hparen⟩

end UnionMember

/-- A type begins with a character that follows no member of a union. -/
theorem TypeExpr.exists_write_eq_cons (bar : Text) (e : TypeExpr) :
    ∃ c t, e.write bar = c :: t ∧ c ∉ memberEnds := by
  cases e with
  | function ps r => exact ⟨'(', _, rfl, by decide⟩
  | union m ms =>
    obtain ⟨c, t, ht, -, hc⟩ := m.exists_write_eq_cons bar
    exact ⟨c, _, by rw [write_union, intercalate_map_cons, ht, List.cons_append], hc⟩

theorem mem_memberEnds_iff {c : Char} : c ∈ memberEnds ∧ c ≠ '|' ↔ c ∈ typeEnds := by
  have hbar : '|' ∉ typeEnds := by decide
  constructor
  · exact fun h => (List.mem_cons.1 h.1).resolve_left h.2
  · exact fun h => ⟨List.mem_cons_of_mem _ h, fun hc => hbar (hc ▸ h)⟩

theorem TypeExpr.exists_write_eq_cons_typeEnds (bar : Text) (e : TypeExpr) :
    ∃ c t, e.write bar = c :: t ∧ c ∉ typeEnds := by
  obtain ⟨c, t, ht, hc⟩ := e.exists_write_eq_cons bar
  exact ⟨c, t, ht, fun h => hc (mem_memberEnds_iff.2 h).1⟩

/-! ### Names and literals -/

/-- A name is read back if no character of a name follows it. -/
theorem Written.Name.readBack {x y : Name} {u v : Text}
    (hu : ∀ c ∈ u.head?, Text.isNameChar c = false) (hv : ∀ c ∈ v.head?, Text.isNameChar c = false)
    (h : x.text ++ u = y.text ++ v) : x = y ∧ u = v :=
  (Text.append_inj_of_isNameChar x.isWord.isNameChar y.isWord.isNameChar hu hv h).imp_left
    Written.Name.eq_of_text

/-- A literal is read back, whatever follows it. -/
theorem Source.Literal.readBack {x y : Literal} {u v : Text} (h : x.text ++ u = y.text ++ v) :
    x = y ∧ u = v := by
  have hquote : x.quote = y.quote := (List.cons.inj h).1
  have hrest : x.rest ++ u = y.rest ++ v := (List.cons.inj h).2
  have hclose := closeString?_append x.isQuote_quote x.closed u
  rw [hrest, hquote, closeString?_append y.isQuote_quote y.closed v] at hclose
  cases x
  cases y
  cases hquote
  cases hclose
  exact ⟨rfl, rfl⟩

/-! ### Types -/

/-- Types without the blanks around their bars. -/
abbrev bar : Text := ['|']

theorem not_isNameChar_of_mem_ends {u : Text} (hu : ∀ c ∈ u.head?, c ∈ memberEnds) :
    ∀ c ∈ u.head?, Text.isNameChar c = false :=
  fun c hc => not_isNameChar_of_mem_memberEnds (hu c hc)

namespace UnionMember

theorem kind_eq {m n : UnionMember} {u v : Text} (h : m.write bar ++ u = n.write bar ++ v) :
    m.kind = n.kind := by
  obtain ⟨c, t, ht, hc, -⟩ := m.exists_write_eq_cons bar
  obtain ⟨d, s, hs, hd, -⟩ := n.exists_write_eq_cons bar
  rw [ht, hs] at h
  rw [← hc, ← hd, (List.cons.inj h).1]

theorem write_application_append (x : Name) (e : TypeExpr) (es : List TypeExpr) (u : Text) :
    (application x e es).write bar ++ u = x.text ++ '<' ::
      (", ".toList.intercalate ((e :: es).map (TypeExpr.write bar)) ++ '>' :: u) := by
  rw [write_application]
  simp

theorem write_group_append (e : TypeExpr) (u : Text) :
    (group e).write bar ++ u = '(' :: (e.write bar ++ ')' :: u) := by
  rw [write]
  simp

/-- No member begins with the label of a parameter. -/
theorem write_append_ne_label (m : UnionMember) (x : Name) {u : Text}
    (hu : ∀ c ∈ u.head?, c ∈ memberEnds) (t : Text) :
    m.write bar ++ u ≠ x.text ++ ':' :: t := by
  intro h
  have hcolon := Text.not_isNameChar_head_cons (c := ':') (by decide) t
  have hkind : m.kind = .word := kind_eq (n := name x) h
  cases m with
  | name y =>
    -- no member is followed by a colon
    obtain ⟨-, rfl⟩ := Written.Name.readBack (not_isNameChar_of_mem_ends hu) hcolon h
    exact absurd (hu ':' rfl) (by decide)
  | application y e es =>
    rw [write_application_append] at h
    obtain ⟨-, h⟩ := Written.Name.readBack (Text.not_isNameChar_head_cons (by decide) _) hcolon h
    exact absurd (List.cons.inj h).1 (by decide)
  | literal y => cases hkind
  | group e => cases hkind

theorem readBack_name (x : Name) : ReadBack memberEnds (write bar) (name x) := by
  intro n u v hu hv h
  have hkind := kind_eq h
  have hname := not_isNameChar_of_mem_ends hu
  cases n with
  | name y =>
    obtain ⟨rfl, rfl⟩ := Written.Name.readBack hname (not_isNameChar_of_mem_ends hv) h
    exact ⟨rfl, rfl⟩
  | application y e es =>
    -- a name that is a member is not followed by its arguments
    rw [write_application_append] at h
    obtain ⟨-, rfl⟩ := Written.Name.readBack hname (Text.not_isNameChar_head_cons (by decide) _) h
    exact absurd (hu '<' rfl) (by decide)
  | literal y => cases hkind
  | group e => cases hkind

theorem readBack_literal (x : Source.Literal) : ReadBack memberEnds (write bar) (literal x) := by
  intro n u v hu hv h
  have hkind := kind_eq h
  cases n with
  | literal y =>
    obtain ⟨rfl, rfl⟩ := Source.Literal.readBack h
    exact ⟨rfl, rfl⟩
  | name y => cases hkind
  | application y e es => cases hkind
  | group e => cases hkind

theorem readBack_application (x : Name) {e : TypeExpr} {es : List TypeExpr}
    (h : ∀ f ∈ e :: es, ReadBack typeEnds (TypeExpr.write bar) f) :
    ReadBack memberEnds (write bar) (application x e es) := by
  intro n u v hu hv heq
  have hkind := kind_eq heq
  have hless : Text.isNameChar '<' = false := by decide
  rw [write_application_append] at heq
  cases n with
  | application y f fs =>
    rw [write_application_append] at heq
    obtain ⟨rfl, hlist⟩ := Written.Name.readBack (Text.not_isNameChar_head_cons hless _)
      (Text.not_isNameChar_head_cons hless _) heq
    have hends (w : Text) : ∀ c ∈ ('>' :: w).head?, c ∈ typeEnds ∧ c ≠ ',' := by
      simpa using (by decide : '>' ∈ typeEnds)
    obtain ⟨harguments, hrest⟩ := readBack_intercalate (by decide) (hends u) (hends v) h
      (fun f => f.exists_write_eq_cons_typeEnds bar) (List.cons.inj hlist).2
    cases harguments
    cases hrest
    exact ⟨rfl, rfl⟩
  | name y =>
    obtain ⟨-, rfl⟩ := Written.Name.readBack (Text.not_isNameChar_head_cons hless _)
      (not_isNameChar_of_mem_ends hv) heq
    exact absurd (hv '<' rfl) (by decide)
  | literal y => cases hkind
  | group e => cases hkind

theorem readBack_group {e : TypeExpr} (h : ReadBack typeEnds (TypeExpr.write bar) e) :
    ReadBack memberEnds (write bar) (group e) := by
  intro n u v hu hv heq
  have hkind := kind_eq heq
  rw [write_group_append] at heq
  cases n with
  | group f =>
    rw [write_group_append] at heq
    have hends (w : Text) : ∀ c ∈ (')' :: w).head?, c ∈ typeEnds := by
      simpa using (by decide : ')' ∈ typeEnds)
    obtain ⟨rfl, hrest⟩ := h f _ _ (hends u) (hends v) (List.cons.inj heq).2
    cases hrest
    exact ⟨rfl, rfl⟩
  | name y => cases hkind
  | application y f fs => cases hkind
  | literal y => cases hkind

/-- The members of a union are read back where the union may end. -/
theorem readBack_members {ms ns : List UnionMember} {u v : Text}
    (hu : ∀ c ∈ u.head?, c ∈ typeEnds) (hv : ∀ c ∈ v.head?, c ∈ typeEnds)
    (h : ∀ m ∈ ms, ReadBack memberEnds (write bar) m)
    (heq : bar.intercalate (ms.map (write bar)) ++ u = bar.intercalate (ns.map (write bar)) ++ v) :
    ms = ns ∧ u = v := by
  have hbegin (n : UnionMember) : ∃ c t, n.write bar = c :: t ∧ c ∉ memberEnds := by
    obtain ⟨c, t, ht, -, hc⟩ := n.exists_write_eq_cons bar
    exact ⟨c, t, ht, hc⟩
  exact readBack_intercalate (by decide) (fun c hc => mem_memberEnds_iff.2 (hu c hc))
    (fun c hc => mem_memberEnds_iff.2 (hv c hc)) h hbegin heq

end UnionMember

namespace TypeExpr

theorem write_function_append (ps : List (Name × TypeExpr)) (r : TypeExpr) (u : Text) :
    (function ps r).write bar ++ u =
      '(' :: (", ".toList.intercalate (ps.map (writeParameter bar)) ++
        ')' :: (" => ".toList ++ (r.write bar ++ u))) := by
  rw [write_function]
  simp

theorem writeParameter_append (p : Name × TypeExpr) (u : Text) :
    writeParameter bar p ++ u = p.1.text ++ ':' :: ' ' :: (p.2.write bar ++ u) := by
  rw [writeParameter]
  simp

theorem write_union_append (m : UnionMember) (ms : List UnionMember) (u : Text) :
    (union m ms).write bar ++ u =
      m.write bar ++ ((ms.flatMap fun n => '|' :: [] ++ n.write bar) ++ u) := by
  rw [write_union, intercalate_map_cons, List.append_assoc]

/-- What follows a member is the next one, or what follows the union. -/
theorem mem_memberEnds_of_head?_flatMap {u : Text} (hu : ∀ c ∈ u.head?, c ∈ typeEnds)
    (ms : List UnionMember) :
    ∀ c ∈ ((ms.flatMap fun n => '|' :: [] ++ n.write bar) ++ u).head?, c ∈ memberEnds :=
  mem_of_head?_flatMap (by decide) (fun c hc => mem_memberEnds_iff.2 (hu c hc)) ms

/-- No type begins with the label of a parameter. -/
theorem write_append_ne_label (e : TypeExpr) (x : Name) {u : Text}
    (hu : ∀ c ∈ u.head?, c ∈ typeEnds) (t : Text) :
    e.write bar ++ u ≠ x.text ++ ':' :: t := by
  cases e with
  | function ps r =>
    obtain ⟨c, name, hname⟩ := List.exists_cons_of_ne_nil x.isWord.ne_nil
    rw [write_function_append, hname]
    exact fun h => x.isWord.ne_of_mem (c := c) (d := '(') (by simp [hname]) (by decide)
      (List.cons.inj h).1.symm
  | union m ms =>
    rw [write_union_append]
    exact m.write_append_ne_label x (mem_memberEnds_of_head?_flatMap hu ms) t

/-- A function type is no union, whatever follows them. -/
theorem write_function_append_ne (ps : List (Name × TypeExpr)) (r : TypeExpr)
    (m : UnionMember) (ms : List UnionMember) (u v : Text) :
    (function ps r).write bar ++ u ≠ (union m ms).write bar ++ v := by
  intro h
  rw [write_function_append, write_union_append] at h
  have hkind : m.kind = .group := by
    obtain ⟨c, t, ht, hc, -⟩ := m.exists_write_eq_cons bar
    rw [ht] at h
    rw [← hc, ← (List.cons.inj h).1]
    rfl
  cases m with
  | group e =>
    -- in the parentheses there are parameters or a type
    rw [UnionMember.write_group_append] at h
    have h := (List.cons.inj h).2
    have hparen (w : Text) : ∀ c ∈ (')' :: w).head?, c ∈ typeEnds := by
      simpa using (by decide : ')' ∈ typeEnds)
    cases ps with
    | nil =>
      obtain ⟨c, t, ht, hc⟩ := e.exists_write_eq_cons_typeEnds bar
      rw [ht] at h
      exact hc (hparen [] c (congrArg List.head? h))
    | cons p ps =>
      rw [intercalate_map_cons, List.append_assoc, writeParameter_append] at h
      exact e.write_append_ne_label p.1 (hparen _) _ h.symm
  | name x => cases hkind
  | literal x => cases hkind
  | application x e es => cases hkind

theorem readBack_function {ps : List (Name × TypeExpr)} {r : TypeExpr}
    (hps : ∀ p ∈ ps, ReadBack typeEnds (write bar) p.2) (hr : ReadBack typeEnds (write bar) r) :
    ReadBack typeEnds (write bar) (function ps r) := by
  intro e u v hu hv h
  cases e with
  | union m ms => exact absurd h (write_function_append_ne ps r m ms u v)
  | function qs s =>
    rw [write_function_append, write_function_append] at h
    have hparameter : ∀ p ∈ ps, ReadBack typeEnds (writeParameter bar) p := by
      intro p hp q u v hu hv h
      rw [writeParameter_append, writeParameter_append] at h
      obtain ⟨hname, h⟩ := Written.Name.readBack
        (Text.not_isNameChar_head_cons (by decide) _)
        (Text.not_isNameChar_head_cons (by decide) _) h
      obtain ⟨htype, rfl⟩ := hps p hp q.2 u v hu hv (List.cons.inj (List.cons.inj h).2).2
      exact ⟨Prod.ext hname htype, rfl⟩
    have hbegin (p : Name × TypeExpr) :
        ∃ c t, writeParameter bar p = c :: t ∧ c ∉ typeEnds := by
      obtain ⟨c, t, ht, -, hc⟩ := p.1.exists_append_eq_cons (": ".toList ++ p.2.write bar)
      exact ⟨c, t, by rw [writeParameter, List.append_assoc, ht],
        fun h => hc (mem_memberEnds_iff.2 h).1⟩
    have hends (w : Text) : ∀ c ∈ (')' :: w).head?, c ∈ typeEnds ∧ c ≠ ',' := by
      simpa using (by decide : ')' ∈ typeEnds)
    obtain ⟨rfl, hrest⟩ := readBack_intercalate (by decide) (hends _) (hends _) hparameter hbegin
      (List.cons.inj h).2
    obtain ⟨rfl, rfl⟩ := hr s u v hu hv
      (List.append_cancel_left (List.cons.inj hrest).2)
    exact ⟨rfl, rfl⟩

theorem readBack_union {m : UnionMember} {ms : List UnionMember}
    (h : ∀ n ∈ m :: ms, ReadBack memberEnds (UnionMember.write bar) n) :
    ReadBack typeEnds (write bar) (union m ms) := by
  intro e u v hu hv heq
  cases e with
  | function ps r => exact absurd heq.symm (write_function_append_ne ps r m ms v u)
  | union n ns =>
    rw [write_union, write_union] at heq
    obtain ⟨hmembers, rfl⟩ := UnionMember.readBack_members hu hv h heq
    cases hmembers
    exact ⟨rfl, rfl⟩

/-- A type is read back where it may end, and a member where it may. -/
theorem readBack : (∀ e, ReadBack typeEnds (write bar) e) ∧
    ∀ m, ReadBack memberEnds (UnionMember.write bar) m :=
  induct (fun _ _ hps hr => readBack_function hps hr)
    (fun _ _ hm hms => readBack_union (List.forall_mem_cons.2 ⟨hm, hms⟩))
    UnionMember.readBack_name UnionMember.readBack_literal
    (fun x _ _ he hes => UnionMember.readBack_application x (List.forall_mem_cons.2 ⟨he, hes⟩))
    fun _ he => UnionMember.readBack_group he

theorem write_injective : Function.Injective (write bar) := by
  intro e f h
  exact (readBack.1 e f [] [] (by simp) (by simp) (by rw [h])).1

end TypeExpr

theorem UnionMember.intercalate_injective {ms ns : List UnionMember}
    (h : bar.intercalate (ms.map (write bar)) = bar.intercalate (ns.map (write bar))) : ms = ns :=
  (readBack_members (u := []) (v := []) (by simp) (by simp) (fun m _ => TypeExpr.readBack.2 m)
    (by rw [h])).1

end ShapeMapper
