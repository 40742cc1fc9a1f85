import ShapeMapper.Proofs.Plan.TypeExpr

/-!
# Types with conditional types

The types that a property may be declared with, conditional types among them (`TypeTerm`). Here
parentheses are no part of a type: they are written where it would be read as another one without
them (`TypeTerm.text`). What may follow a type depends on whether it is read as a member of a
union, as a type in front of `extends` or as any type. Where it may end, a type is read back from
its text: `TypeTerm.isReadBack`. So no two types are written in the same way.
-/

namespace ShapeMapper

open Written (Name)

/-- A type. A union has two members or more. -/
inductive TypeTerm
  | name (x : Name)
  | literal (x : Source.Literal)
  | application (x : Name) (first : TypeTerm) (others : List TypeTerm)
  | union (first second : TypeTerm) (others : List TypeTerm)
  | function (parameters : List (Name × TypeTerm)) (result : TypeTerm)
  | conditional (checked bound yes no : TypeTerm)

namespace TypeTerm

/-- Whether a type ends with another one that a bar behind it belongs to. -/
def isOpen : TypeTerm → Bool
  | function .. | conditional .. => true
  | _ => false

/-- Whether a type has to stand in parentheses as a member of a union. -/
def isCompound : TypeTerm → Bool
  | union .. | function .. | conditional .. => true
  | _ => false

/-- The members of the outermost union. Any other type is one member. -/
def outermost : TypeTerm → List TypeTerm
  | union e f es => e :: f :: es
  | e => [e]

/-- What holds of a type if it holds of its parts holds of all. -/
theorem induct {P : TypeTerm → Prop} (name : ∀ x, P (name x)) (literal : ∀ x, P (literal x))
    (application : ∀ x e es, P e → (∀ f ∈ es, P f) → P (application x e es))
    (union : ∀ e f es, P e → P f → (∀ g ∈ es, P g) → P (union e f es))
    (function : ∀ ps r, (∀ p ∈ ps, P p.2) → P r → P (function ps r))
    (conditional : ∀ c b y n, P c → P b → P y → P n → P (conditional c b y n)) (e : TypeTerm) :
    P e :=
  @TypeTerm.rec P (fun es => ∀ e ∈ es, P e) (fun ps => ∀ p ∈ ps, P p.2) (fun p => P p.2)
    name literal application union function conditional
    (List.forall_mem_nil _) (fun _ _ he hes => List.forall_mem_cons.2 ⟨he, hes⟩)
    (List.forall_mem_nil _) (fun _ _ hp hps => List.forall_mem_cons.2 ⟨hp, hps⟩)
    (fun _ _ he => he) e

/-! ### Types as texts -/

/-- A text in parentheses, if they are asked for. -/
def parenthesized (needed : Bool) (t : Text) : Text :=
  if needed then '(' :: t ++ [')'] else t

mutual

/-- A type as it is written. -/
def text : TypeTerm → Text
  | name x => x.text
  | literal x => x.text
  | application x e es => x.text ++ '<' :: ", ".toList.intercalate (e.text :: texts es) ++ ['>']
  | union e f es => " | ".toList.intercalate
      (parenthesized e.isCompound e.text :: parenthesized f.isCompound f.text :: memberTexts es)
  | function ps r => '(' :: ", ".toList.intercalate (parameterTexts ps) ++ ") => ".toList ++ r.text
  | conditional c b y n => parenthesized c.isOpen c.text ++ " extends ".toList ++
      parenthesized b.isOpen b.text ++ " ? ".toList ++ y.text ++ " : ".toList ++ n.text

def texts : List TypeTerm → List Text
  | [] => []
  | e :: es => e.text :: texts es

def memberTexts : List TypeTerm → List Text
  | [] => []
  | e :: es => parenthesized e.isCompound e.text :: memberTexts es

def parameterTexts : List (Name × TypeTerm) → List Text
  | [] => []
  | (x, e) :: ps => (x.text ++ ": ".toList ++ e.text) :: parameterTexts ps

end

/-- A type as a member of a union. -/
def memberText (e : TypeTerm) : Text :=
  parenthesized e.isCompound e.text

/-- A type where another one would go on behind it. -/
def closedText (e : TypeTerm) : Text :=
  parenthesized e.isOpen e.text

def parameterText (p : Name × TypeTerm) : Text :=
  p.1.text ++ ": ".toList ++ p.2.text

theorem texts_eq (es : List TypeTerm) : texts es = es.map text := by
  induction es with
  | nil => rfl
  | cons e es ih => rw [texts, ih, List.map_cons]

theorem memberTexts_eq (es : List TypeTerm) : memberTexts es = es.map memberText := by
  induction es with
  | nil => rfl
  | cons e es ih => rw [memberTexts, ih, List.map_cons, memberText]

theorem parameterTexts_eq (ps : List (Name × TypeTerm)) :
    parameterTexts ps = ps.map parameterText := by
  induction ps with
  | nil => rfl
  | cons p ps ih => rw [parameterTexts, ih, List.map_cons, parameterText]

theorem text_union (e f : TypeTerm) (es : List TypeTerm) :
    (union e f es).text = " | ".toList.intercalate ((e :: f :: es).map memberText) := by
  rw [text, memberTexts_eq]
  rfl

theorem text_application_append (x : Name) (e : TypeTerm) (es : List TypeTerm) (u : Text) :
    (application x e es).text ++ u =
      x.text ++ '<' :: (", ".toList.intercalate ((e :: es).map text) ++ '>' :: u) := by
  rw [text, texts_eq]
  simp

theorem text_function_append (ps : List (Name × TypeTerm)) (r : TypeTerm) (u : Text) :
    (function ps r).text ++ u = '(' :: (", ".toList.intercalate (ps.map parameterText) ++
      ')' :: (" => ".toList ++ (r.text ++ u))) := by
  rw [text, parameterTexts_eq]
  simp

theorem text_conditional_append (c b y n : TypeTerm) (u : Text) :
    (conditional c b y n).text ++ u = c.closedText ++ (" extends ".toList ++ (b.closedText ++
      (" ? ".toList ++ (y.text ++ (" : ".toList ++ (n.text ++ u)))))) := by
  rw [text, closedText, closedText]
  simp only [List.append_assoc]

theorem parameterText_append (p : Name × TypeTerm) (u : Text) :
    parameterText p ++ u = p.1.text ++ ':' :: ' ' :: (p.2.text ++ u) := by
  rw [parameterText]
  simp

theorem closedText_of_not_isOpen {e : TypeTerm} (h : e.isOpen = false) :
    e.closedText = e.text := by
  rw [closedText, h]
  rfl

theorem memberText_append_of_isCompound {e : TypeTerm} (h : e.isCompound = true) (u : Text) :
    e.memberText ++ u = '(' :: (e.text ++ ')' :: u) := by
  rw [memberText, h, parenthesized, if_pos rfl]
  simp

/-- A type that another one would not go on behind is written as the members of a union. -/
theorem closedText_eq (e : TypeTerm) :
    e.closedText = " | ".toList.intercalate (e.outermost.map memberText) := by
  cases e with
  | union e f es => rw [closedText_of_not_isOpen rfl, text_union, outermost]
  | name x => exact List.intercalate_singleton.symm
  | literal x => exact List.intercalate_singleton.symm
  | application x e es => exact List.intercalate_singleton.symm
  | function ps r => exact List.intercalate_singleton.symm
  | conditional c b y n => exact List.intercalate_singleton.symm

theorem exists_outermost_eq_cons (e : TypeTerm) : ∃ g gs, e.outermost = g :: gs := by
  cases e <;> exact ⟨_, _, rfl⟩

theorem outermost_injective : Function.Injective outermost := by
  intro e f h
  cases e <;> cases f <;> simp_all [outermost]

/-! ### What follows a type -/

/-- Whether a text may follow a member of a union. -/
def EndsMember (u : Text) : Prop :=
  ∀ c ∈ u.head?, c ∈ ' ' :: typeEnds

/-- Whether a text may follow a union. -/
def EndsUnion (u : Text) : Prop :=
  EndsMember u ∧ ¬" | ".toList <+: u

/-- Whether a text may follow any type. -/
def EndsType (u : Text) : Prop :=
  EndsUnion u ∧ ¬" extends ".toList <+: u

theorem endsMember_space (t : Text) : EndsMember (' ' :: t) :=
  fun _ hc => Option.some.inj hc ▸ List.mem_cons_self

theorem not_isPrefix_append {k w : Text} (h : ¬k <+: w ∧ ¬w <+: k) (t : Text) :
    ¬k <+: w ++ t :=
  fun hk => (List.prefix_or_prefix_of_prefix hk (List.prefix_append w t)).elim h.1 h.2

theorem endsUnion_extends (t : Text) : EndsUnion (" extends ".toList ++ t) :=
  ⟨endsMember_space _, not_isPrefix_append (by decide) t⟩

theorem endsType_question (t : Text) : EndsType (" ? ".toList ++ t) :=
  ⟨⟨endsMember_space _, not_isPrefix_append (by decide) t⟩, not_isPrefix_append (by decide) t⟩

theorem endsType_colon (t : Text) : EndsType (" : ".toList ++ t) :=
  ⟨⟨endsMember_space _, not_isPrefix_append (by decide) t⟩, not_isPrefix_append (by decide) t⟩

theorem endsType_of_head {u : Text} (h : ∀ c ∈ u.head?, c ∈ typeEnds) : EndsType u := by
  have hspace (w : Text) : ¬(' ' :: w <+: u) := by
    rintro ⟨t, rfl⟩
    exact absurd (h ' ' rfl) (by decide)
  exact ⟨⟨fun c hc => List.mem_cons_of_mem _ (h c hc), hspace _⟩, hspace _⟩

theorem endsType_paren (t : Text) : EndsType (')' :: t) :=
  endsType_of_head fun _ hc => Option.some.inj hc ▸ by decide

theorem not_isNameChar_of_endsMember {u : Text} (hu : EndsMember u) :
    ∀ c ∈ u.head?, Text.isNameChar c = false := by
  have hends : (' ' :: typeEnds).all (!Text.isNameChar ·) = true := by decide
  exact fun c hc => by simpa using List.all_eq_true.1 hends c (hu c hc)

/-! ### What a type begins with -/

/-- The kind of member that a type is. -/
def memberKind : TypeTerm → UnionMember.Kind
  | name _ | application _ _ _ => .word
  | literal _ => .literal
  | _ => .group

theorem isCompound_of_memberKind {e : TypeTerm} (h : e.memberKind = .group) :
    e.isCompound = true := by
  cases e <;> first | rfl | cases h

/-- A member begins with a character of its kind, which follows no member. -/
theorem exists_memberText_eq_cons (e : TypeTerm) :
    ∃ c t, e.memberText = c :: t ∧ UnionMember.Kind.of c = e.memberKind ∧ c ∉ typeEnds := by
  have hword (x : Name) (u : Text) :
      ∃ c t, x.text ++ u = c :: t ∧ UnionMember.Kind.of c = .word ∧ c ∉ typeEnds := by
    obtain ⟨c, t, ht, hc, hends⟩ := x.exists_append_eq_cons u
    exact ⟨c, t, ht, if_pos hc, fun h => hends (List.mem_cons_of_mem _ h)⟩
  have hparen : UnionMember.Kind.of '(' = .group ∧ '(' ∉ typeEnds := by decide
  cases e with
  | name x =>
    obtain ⟨c, t, ht, hc⟩ := hword x []
    rw [List.append_nil] at ht
    exact ⟨c, t, ht, hc⟩
  | literal x =>
    have hquote : UnionMember.Kind.of x.quote = .literal ∧ x.quote ∉ typeEnds := by
      rcases Source.isQuote_iff.1 x.isQuote_quote with h | h | h <;> rw [h] <;> decide
    exact ⟨x.quote, x.rest, rfl, hquote⟩
  | application x e es =>
    have happlication := text_application_append x e es []
    obtain ⟨c, t, ht, hc⟩ := hword x _
    rw [List.append_nil, ht] at happlication
    exact ⟨c, t, happlication, hc⟩
  | union e f es => exact ⟨'(', _, rfl, hparen⟩
  | function ps r => exact ⟨'(', _, rfl, hparen⟩
  | conditional c b y n => exact ⟨'(', _, rfl, hparen⟩

theorem memberKind_eq {e f : TypeTerm} {u v : Text} (h : e.memberText ++ u = f.memberText ++ v) :
    e.memberKind = f.memberKind := by
  obtain ⟨c, t, ht, hc, -⟩ := e.exists_memberText_eq_cons
  obtain ⟨d, s, hs, hd, -⟩ := f.exists_memberText_eq_cons
  rw [ht, hs] at h
  rw [← hc, ← hd, (List.cons.inj h).1]

/-- A type that begins with no parameters begins with a member of a union. -/
theorem exists_text_append_eq {e : TypeTerm} (h : ∀ ps r, e ≠ function ps r) {u : Text}
    (hu : EndsMember u) : ∃ g w, e.text ++ u = memberText g ++ w ∧ EndsMember w := by
  have hclosed (e : TypeTerm) {u : Text} (hu : EndsMember u) :
      ∃ g w, e.closedText ++ u = memberText g ++ w ∧ EndsMember w := by
    obtain ⟨g, gs, hgs⟩ := e.exists_outermost_eq_cons
    refine ⟨g, _, by rw [closedText_eq, hgs, intercalate_map_cons, List.append_assoc], ?_⟩
    exact ends_flatMap_append (fun t => endsMember_space _) hu gs
  cases e with
  | function ps r => exact absurd rfl (h ps r)
  | conditional c b y n =>
    rw [text_conditional_append]
    exact hclosed c (endsUnion_extends _).1
  | name x => exact hclosed (name x) hu
  | literal x => exact hclosed (literal x) hu
  | application x e es => exact hclosed (application x e es) hu
  | union e f es => exact hclosed (union e f es) hu

/-- A type begins with a character that follows no type. -/
theorem exists_text_eq_cons (e : TypeTerm) : ∃ c t, e.text = c :: t ∧ c ∉ typeEnds := by
  rcases Classical.em (∃ ps r, e = function ps r) with ⟨ps, r, rfl⟩ | hother
  · exact ⟨'(', _, rfl, by decide⟩
  · obtain ⟨g, w, hg, -⟩ := exists_text_append_eq (fun ps r he => hother ⟨ps, r, he⟩)
      (u := []) (by simp [EndsMember])
    obtain ⟨c, t, ht, -, hc⟩ := g.exists_memberText_eq_cons
    rw [List.append_nil, ht] at hg
    exact ⟨c, t ++ w, hg, hc⟩

/-- No member begins with the label of a parameter. -/
theorem memberText_append_ne_label (e : TypeTerm) (x : Name) {u : Text} (hu : EndsMember u)
    (t : Text) : e.memberText ++ u ≠ x.text ++ ':' :: t := by
  intro h
  have hcolon := Text.not_isNameChar_head_cons (c := ':') (by decide) t
  have hkind : e.memberKind = .word := memberKind_eq (f := name x) h
  cases e with
  | name y =>
    -- no member is followed by a colon
    obtain ⟨-, rfl⟩ := Written.Name.readBack (not_isNameChar_of_endsMember hu) hcolon h
    exact absurd (hu ':' rfl) (by decide)
  | application y e es =>
    replace h := (text_application_append y e es u).symm.trans h
    obtain ⟨-, h⟩ := Written.Name.readBack
      (Text.not_isNameChar_head_cons (by decide) _) hcolon h
    exact absurd (List.cons.inj h).1 (by decide)
  | _ => cases hkind

/-- Whether a text may stand behind the parenthesis that parameters begin with. -/
def OpensParameters (t : Text) : Prop :=
  (∃ u, t = ')' :: u) ∨ ∃ (x : Name) (u : Text), t = x.text ++ ':' :: u

theorem opensParameters (ps : List (Name × TypeTerm)) (u : Text) :
    OpensParameters (", ".toList.intercalate (ps.map parameterText) ++ ')' :: u) := by
  cases ps with
  | nil => exact .inl ⟨u, rfl⟩
  | cons p ps =>
    rw [intercalate_map_cons, List.append_assoc, parameterText_append]
    exact .inr ⟨p.1, _, rfl⟩

/-- No type stands there. -/
theorem not_opensParameters (e : TypeTerm) {u : Text} (hu : EndsMember u) :
    ¬OpensParameters (e.text ++ u) := by
  rintro (⟨t, ht⟩ | ⟨x, t, ht⟩)
  · obtain ⟨c, s, hs, hc⟩ := e.exists_text_eq_cons
    rw [hs] at ht
    rw [(List.cons.inj ht).1] at hc
    exact absurd hc (by decide)
  · rcases Classical.em (∃ ps r, e = function ps r) with ⟨ps, r, rfl⟩ | hother
    · obtain ⟨c, s, hs, hc, -⟩ := x.exists_append_eq_cons (':' :: t)
      rw [text_function_append, hs] at ht
      rw [← (List.cons.inj ht).1] at hc
      exact absurd hc (by decide)
    · obtain ⟨g, w, hg, hw⟩ := exists_text_append_eq (fun ps r he => hother ⟨ps, r, he⟩) hu
      exact g.memberText_append_ne_label x hw t (hg.symm.trans ht)

/-- A function type is no other type, whatever follows them. -/
theorem text_function_append_ne (ps : List (Name × TypeTerm)) (r : TypeTerm) {e : TypeTerm}
    (he : ∀ qs s, e ≠ function qs s) (u : Text) {v : Text} (hv : EndsMember v) :
    (function ps r).text ++ u ≠ e.text ++ v := by
  intro h
  obtain ⟨g, w, hg, hw⟩ := exists_text_append_eq he hv
  rw [hg, text_function_append] at h
  have hkind : g.memberKind = .group := by
    obtain ⟨c, t, ht, hc, -⟩ := g.exists_memberText_eq_cons
    rw [ht] at h
    rw [← hc, ← (List.cons.inj h).1]
    rfl
  -- in the parentheses there are parameters or a type
  rw [memberText_append_of_isCompound (isCompound_of_memberKind hkind)] at h
  have hopens := opensParameters ps (" => ".toList ++ (r.text ++ u))
  rw [(List.cons.inj h).2] at hopens
  exact g.not_opensParameters (endsType_paren w).1.1 hopens

/-! ### Members -/

theorem readBefore_name (x : Name) : ReadBefore EndsMember memberText (name x) := by
  intro f u v hu hv h
  have hkind := memberKind_eq h
  have hname := not_isNameChar_of_endsMember hu
  cases f with
  | name y =>
    obtain ⟨rfl, rfl⟩ := Written.Name.readBack hname (not_isNameChar_of_endsMember hv) h
    exact ⟨rfl, rfl⟩
  | application y e es =>
    -- a name that is a member is not followed by its arguments
    replace h := h.trans (text_application_append y e es v)
    obtain ⟨-, rfl⟩ := Written.Name.readBack hname
      (Text.not_isNameChar_head_cons (by decide) _) h
    exact absurd (hu '<' rfl) (by decide)
  | _ => cases hkind

theorem readBefore_literal (x : Source.Literal) :
    ReadBefore EndsMember memberText (literal x) := by
  intro f u v hu hv h
  have hkind := memberKind_eq h
  cases f with
  | literal y =>
    obtain ⟨rfl, rfl⟩ := Source.Literal.readBack h
    exact ⟨rfl, rfl⟩
  | _ => cases hkind

theorem readBack_of_readBefore {e : TypeTerm} (h : ReadBefore EndsType text e) :
    ReadBack typeEnds text e :=
  fun f u v hu hv => h f u v (endsType_of_head hu) (endsType_of_head hv)

theorem readBefore_application (x : Name) {e : TypeTerm} {es : List TypeTerm}
    (h : ∀ f ∈ e :: es, ReadBefore EndsType text f) :
    ReadBefore EndsMember memberText (application x e es) := by
  intro f u v hu hv heq
  have hkind := memberKind_eq heq
  have hless : Text.isNameChar '<' = false := by decide
  replace heq := (text_application_append x e es u).symm.trans heq
  cases f with
  | application y f fs =>
    replace heq := heq.trans (text_application_append y f fs v)
    obtain ⟨rfl, hlist⟩ := Written.Name.readBack (Text.not_isNameChar_head_cons hless _)
      (Text.not_isNameChar_head_cons hless _) heq
    have hends (w : Text) : ∀ c ∈ ('>' :: w).head?, c ∈ typeEnds ∧ c ≠ ',' := by
      simpa using (by decide : '>' ∈ typeEnds)
    obtain ⟨harguments, hrest⟩ := readBack_intercalate (by decide) (hends u) (hends v)
      (fun g hg => readBack_of_readBefore (h g hg)) exists_text_eq_cons (List.cons.inj hlist).2
    cases harguments
    cases hrest
    exact ⟨rfl, rfl⟩
  | name y =>
    obtain ⟨-, rfl⟩ := Written.Name.readBack (Text.not_isNameChar_head_cons hless _)
      (not_isNameChar_of_endsMember hv) heq
    exact absurd (hv '<' rfl) (by decide)
  | _ => cases hkind

/-- A type in parentheses is read back as the type is. -/
theorem readBefore_memberText {e : TypeTerm} (hcompound : e.isCompound = true)
    (h : ReadBefore EndsType text e) : ReadBefore EndsMember memberText e := by
  intro f u v hu hv heq
  have hgroup : f.memberKind = .group := by
    rw [← memberKind_eq heq]
    cases e <;> first | rfl | cases hcompound
  rw [memberText_append_of_isCompound hcompound,
    memberText_append_of_isCompound (isCompound_of_memberKind hgroup)] at heq
  obtain ⟨rfl, hrest⟩ := h f _ _ (endsType_paren u) (endsType_paren v) (List.cons.inj heq).2
  exact ⟨rfl, (List.cons.inj hrest).2⟩

/-! ### Types -/

variable {e : TypeTerm}

/-- A union is read back member by member. -/
theorem readBefore_closedText (h : ∀ g ∈ e.outermost, ReadBefore EndsMember memberText g) :
    ReadBefore EndsUnion closedText e := by
  intro f u v hu hv heq
  rw [closedText_eq, closedText_eq] at heq
  obtain ⟨g, gs, hgs⟩ := e.exists_outermost_eq_cons
  obtain ⟨k, ks, hks⟩ := f.exists_outermost_eq_cons
  rw [hgs] at h heq
  rw [hks] at heq
  obtain ⟨hmembers, rfl⟩ := readBefore_intercalate (fun t => endsMember_space _) hu hv h heq
  exact ⟨outermost_injective (by rw [hgs, hks, hmembers]), rfl⟩

theorem readBefore_closedText_of_member (hone : e.outermost = [e])
    (h : ReadBefore EndsMember memberText e) : ReadBefore EndsUnion closedText e := by
  refine readBefore_closedText ?_
  rw [hone]
  exact List.forall_mem_singleton.2 h

theorem readBefore_text (hopen : e.isOpen = false) (h : ReadBefore EndsUnion closedText e) :
    ReadBefore EndsType text e := by
  intro f u v hu hv heq
  cases hf : f.isOpen with
  | false =>
    rw [← closedText_of_not_isOpen hopen, ← closedText_of_not_isOpen hf] at heq
    exact h f u v hu.1 hv.1 heq
  | true =>
    cases f with
    | function ps r =>
      have hother (qs s) : e ≠ function qs s := by
        rintro rfl
        cases hopen
      exact absurd heq.symm (text_function_append_ne ps r hother v hu.1.1)
    | conditional c b y n =>
      -- a type that is all is not followed by its bound
      rw [← closedText_of_not_isOpen hopen, text_conditional_append] at heq
      obtain ⟨-, rfl⟩ := h c _ _ hu.1 (endsUnion_extends _) heq
      exact absurd (List.prefix_append _ _) hu.2
    | _ => cases hf

theorem readBefore_function {ps : List (Name × TypeTerm)} {r : TypeTerm}
    (hps : ∀ p ∈ ps, ReadBefore EndsType text p.2) (hr : ReadBefore EndsType text r) :
    ReadBefore EndsType text (function ps r) := by
  intro f u v hu hv heq
  rcases Classical.em (∃ qs s, f = function qs s) with ⟨qs, s, rfl⟩ | hother
  · rw [text_function_append, text_function_append] at heq
    have hparameter : ∀ p ∈ ps, ReadBack typeEnds parameterText p := by
      intro p hp q u v hu hv h
      rw [parameterText_append, parameterText_append] at h
      obtain ⟨hname, h⟩ := Written.Name.readBack
        (Text.not_isNameChar_head_cons (by decide) _)
        (Text.not_isNameChar_head_cons (by decide) _) h
      obtain ⟨htype, rfl⟩ := readBack_of_readBefore (hps p hp) q.2 u v hu hv
        (List.cons.inj (List.cons.inj h).2).2
      exact ⟨Prod.ext hname htype, rfl⟩
    have hbegin (p : Name × TypeTerm) : ∃ c t, parameterText p = c :: t ∧ c ∉ typeEnds := by
      obtain ⟨c, t, ht, -, hc⟩ := p.1.exists_append_eq_cons (": ".toList ++ p.2.text)
      exact ⟨c, t, by rw [parameterText, List.append_assoc, ht],
        fun h => hc (List.mem_cons_of_mem _ h)⟩
    have hends (w : Text) : ∀ c ∈ (')' :: w).head?, c ∈ typeEnds ∧ c ≠ ',' := by
      simpa using (by decide : ')' ∈ typeEnds)
    obtain ⟨rfl, hrest⟩ := readBack_intercalate (by decide) (hends _) (hends _) hparameter hbegin
      (List.cons.inj heq).2
    obtain ⟨rfl, rfl⟩ := hr s u v hu hv (List.append_cancel_left (List.cons.inj hrest).2)
    exact ⟨rfl, rfl⟩
  · exact absurd heq
      (text_function_append_ne ps r (fun qs s hf => hother ⟨qs, s, hf⟩) u hv.1.1)

theorem readBefore_conditional {c b y n : TypeTerm} (hc : ReadBefore EndsUnion closedText c)
    (hb : ReadBefore EndsUnion closedText b) (hy : ReadBefore EndsType text y)
    (hn : ReadBefore EndsType text n) : ReadBefore EndsType text (conditional c b y n) := by
  intro f u v hu hv heq
  cases hf : f.isOpen with
  | false =>
    rw [← closedText_of_not_isOpen hf, text_conditional_append] at heq
    obtain ⟨-, rfl⟩ := hc f _ _ (endsUnion_extends _) hv.1 heq
    exact absurd (List.prefix_append _ _) hv.2
  | true =>
    cases f with
    | function ps r =>
      exact absurd heq.symm (text_function_append_ne ps r (by rintro qs s ⟨⟩) v hu.1.1)
    | conditional c' b' y' n' =>
      rw [text_conditional_append, text_conditional_append] at heq
      obtain ⟨rfl, hbound⟩ := hc c' _ _ (endsUnion_extends _) (endsUnion_extends _) heq
      obtain ⟨rfl, hyes⟩ := hb b' _ _ (endsType_question _).1 (endsType_question _).1
        (List.append_cancel_left hbound)
      obtain ⟨rfl, hno⟩ := hy y' _ _ (endsType_colon _) (endsType_colon _)
        (List.append_cancel_left hyes)
      obtain ⟨rfl, rfl⟩ := hn n' u v hu hv (List.append_cancel_left hno)
      exact ⟨rfl, rfl⟩
    | _ => cases hf

/-- A type is read back from its text, as a member of a union, as a type in front of `extends` and
as any type. -/
structure IsReadBack (e : TypeTerm) : Prop where
  member : ReadBefore EndsMember memberText e
  closed : ReadBefore EndsUnion closedText e
  type : ReadBefore EndsType text e

namespace IsReadBack

theorem of_member (hopen : e.isOpen = false) (hone : e.outermost = [e])
    (h : ReadBefore EndsMember memberText e) : IsReadBack e := by
  have hclosed := readBefore_closedText_of_member hone h
  exact ⟨h, hclosed, readBefore_text hopen hclosed⟩

theorem of_members (hopen : e.isOpen = false) (hcompound : e.isCompound = true)
    (h : ∀ g ∈ e.outermost, IsReadBack g) : IsReadBack e := by
  have hclosed := readBefore_closedText fun g hg => (h g hg).member
  have htype := readBefore_text hopen hclosed
  exact ⟨readBefore_memberText hcompound htype, hclosed, htype⟩

theorem of_type (hcompound : e.isCompound = true) (hone : e.outermost = [e])
    (h : ReadBefore EndsType text e) : IsReadBack e := by
  have hmember := readBefore_memberText hcompound h
  exact ⟨hmember, readBefore_closedText_of_member hone hmember, h⟩

end IsReadBack

theorem isReadBack (e : TypeTerm) : e.IsReadBack := by
  induction e using induct with
  | name x => exact .of_member rfl rfl (readBefore_name x)
  | literal x => exact .of_member rfl rfl (readBefore_literal x)
  | application x e es he hes =>
    exact .of_member rfl rfl (readBefore_application x
      (List.forall_mem_cons.2 ⟨he.type, fun f hf => (hes f hf).type⟩))
  | union e f es he hf hes =>
    exact .of_members rfl rfl (List.forall_mem_cons.2 ⟨he, List.forall_mem_cons.2 ⟨hf, hes⟩⟩)
  | function ps r hps hr =>
    exact .of_type rfl rfl (readBefore_function (fun p hp => (hps p hp).type) hr.type)
  | conditional c b y n hc hb hy hn =>
    exact .of_type rfl rfl (readBefore_conditional hc.closed hb.closed hy.type hn.type)

/-- Types that are written in the same way are the same. -/
theorem text_injective : Function.Injective text := by
  intro e f h
  have hnil : EndsType [] := endsType_of_head nofun
  exact (e.isReadBack.type f [] [] hnil hnil (by rw [h])).1

end TypeTerm

end ShapeMapper
