import ShapeMapper.Proofs.Plan.Bars
import ShapeMapper.Proofs.Plan.TypeExpr

/-!
# Properties that are copied

The members of a type are compared after a split at every bar of its text, wherever it stands. If
no part that a member of the outermost union falls into stands for the absence of a value, and no
literal has a blank beside a bar (`TypeExpr.IsSeparable`), nothing of the type gets lost: a property
is copied only if the members of the outermost unions, `null` and `undefined` aside, are the same
(`TypeExpr.kept_eq_of_copied`). Otherwise different members may be taken for the same:
`TypeExpr.kept_ne_of_copied`.
-/

namespace ShapeMapper

open Text
open Written (Name)

/-! ### The literals of a type -/

mutual

/-- The string literals in a type. -/
def TypeExpr.literals : TypeExpr → List Source.Literal
  | .function ps r => parameterLiterals ps ++ r.literals
  | .union m ms => m.literals ++ memberLiterals ms

def UnionMember.literals : UnionMember → List Source.Literal
  | .name _ => []
  | .literal x => [x]
  | .application _ e es => e.literals ++ argumentLiterals es
  | .group e => e.literals

def parameterLiterals : List (Name × TypeExpr) → List Source.Literal
  | [] => []
  | (_, e) :: ps => e.literals ++ parameterLiterals ps

def memberLiterals : List UnionMember → List Source.Literal
  | [] => []
  | m :: ms => m.literals ++ memberLiterals ms

def argumentLiterals : List TypeExpr → List Source.Literal
  | [] => []
  | e :: es => e.literals ++ argumentLiterals es

end

theorem parameterLiterals_eq (ps : List (Name × TypeExpr)) :
    parameterLiterals ps = ps.flatMap fun p => p.2.literals := by
  induction ps with
  | nil => rfl
  | cons p ps ih => rw [parameterLiterals, ih, List.flatMap_cons]

theorem memberLiterals_eq (ms : List UnionMember) :
    memberLiterals ms = ms.flatMap UnionMember.literals := by
  induction ms with
  | nil => rfl
  | cons m ms ih => rw [memberLiterals, ih, List.flatMap_cons]

theorem argumentLiterals_eq (es : List TypeExpr) :
    argumentLiterals es = es.flatMap TypeExpr.literals := by
  induction es with
  | nil => rfl
  | cons e es ih => rw [argumentLiterals, ih, List.flatMap_cons]

/-- Whether no blank stands beside a bar in a literal. -/
def Source.Literal.IsTight (x : Literal) : Prop :=
  ∀ part ∈ x.text.splitOn '|', strip part = part

instance (x : Source.Literal) : Decidable x.IsTight :=
  inferInstanceAs (Decidable (∀ part ∈ x.text.splitOn '|', strip part = part))

theorem Source.Literal.IsTight.squeezed_text {x : Literal} (h : x.IsTight) :
    UnionType.squeezed x.text = x.text := by
  rw [UnionType.squeezed, UnionType.members, List.map_congr_left (g := id) h, List.map_id,
    List.intercalate_splitOn]

/-! ### The ends of a type -/

theorem Text.IsWord.beginsSolid {t : Text} (h : t.IsWord) : BeginsSolid t := by
  obtain ⟨c, u, rfl⟩ := List.exists_cons_of_ne_nil h.ne_nil
  exact ⟨c, u, rfl, h.not_isBlank c (by simp), h.ne_of_mem (by simp) (by decide)⟩

theorem Text.IsWord.endsSolid {t : Text} (h : t.IsWord) : EndsSolid t := by
  rcases List.eq_nil_or_concat t with rfl | ⟨u, c, rfl⟩
  · exact absurd rfl h.ne_nil
  · exact ⟨c, u, by simp, h.not_isBlank c (by simp), h.ne_of_mem (by simp) (by decide)⟩

theorem Source.Literal.solid_quote (x : Literal) : isBlank x.quote = false ∧ x.quote ≠ '|' := by
  rcases isQuote_iff.1 x.isQuote_quote with h | h | h <;> rw [h] <;> decide

theorem Source.Literal.endsSolid_text (x : Literal) : EndsSolid x.text := by
  have hend {quote : Char} {t : Text} (h : LiteralEnd quote t) : ∃ u, t = u ++ [quote] := by
    induction h with
    | close => exact ⟨[], rfl⟩
    | char _ _ _ _ ih =>
      obtain ⟨u, rfl⟩ := ih
      exact ⟨_ :: u, rfl⟩
    | escape _ ih =>
      obtain ⟨u, rfl⟩ := ih
      exact ⟨_ :: _ :: u, rfl⟩
  obtain ⟨u, hu⟩ := hend x.closed
  exact ⟨x.quote, x.quote :: u, by rw [text, hu]; rfl, x.solid_quote⟩

theorem UnionMember.beginsSolid_write (bar : Text) (m : UnionMember) :
    BeginsSolid (m.write bar) := by
  cases m with
  | name x => exact x.isWord.beginsSolid
  | literal x => exact ⟨x.quote, x.rest, rfl, x.solid_quote⟩
  | application x e es =>
    rw [write_application, List.append_assoc]
    exact x.isWord.beginsSolid.append _
  | group e => exact ⟨'(', _, rfl, by decide, by decide⟩

theorem TypeExpr.beginsSolid_write (bar : Text) (e : TypeExpr) : BeginsSolid (e.write bar) := by
  cases e with
  | function ps r => exact ⟨'(', _, rfl, by decide, by decide⟩
  | union m ms =>
    rw [write_union]
    refine beginsSolid_intercalate (by simp) fun t ht => ?_
    obtain ⟨n, -, rfl⟩ := List.mem_map.1 ht
    exact n.beginsSolid_write bar

theorem TypeExpr.endsSolid_write (bar : Text) : (∀ e : TypeExpr, EndsSolid (e.write bar)) ∧
    ∀ m : UnionMember, EndsSolid (m.write bar) := by
  apply TypeExpr.induct
  case function =>
    intro ps r _ hr
    rw [write_function]
    exact hr.append _
  case union =>
    intro m ms hm hms
    rw [write_union]
    refine endsSolid_intercalate (by simp) fun t ht => ?_
    obtain ⟨n, hn, rfl⟩ := List.mem_map.1 ht
    exact (List.mem_cons.1 hn).elim (fun h => h ▸ hm) (hms n)
  case name => exact fun x => x.isWord.endsSolid
  case literal => exact fun x => x.endsSolid_text
  case application => exact fun x e es _ _ => ⟨'>', _, rfl, by decide, by decide⟩
  case group => exact fun e _ => ⟨')', _, rfl, by decide, by decide⟩

/-! ### Squeezed types -/

open UnionType

/-- A name with a mark after it. -/
theorem squeezed_append_mark (x : Name) {c : Char} (hblank : isBlank c = false)
    (hbar : c ≠ '|') : squeezed (x.text ++ [c]) = x.text ++ [c] := by
  have hmem : '|' ∉ x.text ++ [c] := by
    simp only [List.mem_append, List.mem_singleton, not_or]
    exact ⟨fun h => x.isWord.ne_of_mem h (by decide) rfl, hbar.symm⟩
  exact squeezed_eq_self hmem (x.isWord.beginsSolid.append [c]) ⟨c, x.text, rfl, hblank, hbar⟩

theorem squeezed_writeParameter {p : Name × TypeExpr} (h : squeezed p.2.text = p.2.write bar) :
    squeezed (writeParameter " | ".toList p) = writeParameter bar p := by
  have hsplit (b : Text) : writeParameter b p = (p.1.text ++ [':']) ++ [' '] ++ p.2.write b := by
    simp [writeParameter]
  rw [hsplit, hsplit, squeezed_append_append Text.isBlank_of_mem_space
    ⟨':', _, rfl, by decide, by decide⟩ (p.2.beginsSolid_write _),
    squeezed_append_mark p.1 (by decide) (by decide), ← TypeExpr.text, h]

theorem squeezed_function {ps : List (Name × TypeExpr)} {r : TypeExpr}
    (hps : ∀ p ∈ ps, squeezed p.2.text = p.2.write bar) (hr : squeezed r.text = r.write bar) :
    squeezed (TypeExpr.function ps r).text = (TypeExpr.function ps r).write bar := by
  have hsplit (b : Text) : (TypeExpr.function ps r).write b =
      (['('] ++ ", ".toList.intercalate (ps.map (writeParameter b)) ++ ") =>".toList) ++
        [' '] ++ r.write b := by
    rw [TypeExpr.write_function]
    simp
  have hopen : EndsSolid ['('] := ⟨'(', [], rfl, by decide, by decide⟩
  have hclose : BeginsSolid ") =>".toList := ⟨')', " =>".toList, rfl, by decide, by decide⟩
  have harrow : EndsSolid ") =>".toList := ⟨'>', ") =".toList, rfl, by decide, by decide⟩
  have hbegin : ∀ t ∈ ps.map (writeParameter " | ".toList), BeginsSolid t := by
    intro t ht
    obtain ⟨p, -, rfl⟩ := List.mem_map.1 ht
    exact (p.1.isWord.beginsSolid.append _).append _
  have hend : ∀ t ∈ ps.map (writeParameter " | ".toList), EndsSolid t := by
    intro t ht
    obtain ⟨p, -, rfl⟩ := List.mem_map.1 ht
    exact ((TypeExpr.endsSolid_write _).1 p.2).append _
  have hparameters : (ps.map (writeParameter " | ".toList)).map squeezed =
      ps.map (writeParameter bar) := by
    rw [List.map_map]
    exact List.map_congr_left fun p hp => squeezed_writeParameter (hps p hp)
  rw [TypeExpr.text, hsplit, hsplit,
    squeezed_append_append Text.isBlank_of_mem_space (harrow.append _) (r.beginsSolid_write _),
    squeezed_enclosed hopen hclose hbegin hend, hparameters,
    ← TypeExpr.text, hr, show squeezed ['('] = ['('] by decide,
    show squeezed ") =>".toList = ") =>".toList by decide]

theorem squeezed_members {m : UnionMember} {ms : List UnionMember}
    (h : ∀ n ∈ m :: ms, squeezed (n.write " | ".toList) = n.write bar) :
    squeezed (TypeExpr.union m ms).text = (TypeExpr.union m ms).write bar := by
  rw [TypeExpr.text, TypeExpr.write_union, TypeExpr.write_union, squeezed_union (by simp),
    List.map_map]
  exact congrArg ['|'].intercalate (List.map_congr_left h)

theorem squeezed_application (x : Name) {e : TypeExpr} {es : List TypeExpr}
    (h : ∀ f ∈ e :: es, squeezed f.text = f.write bar) :
    squeezed ((UnionMember.application x e es).write " | ".toList) =
      (UnionMember.application x e es).write bar := by
  have hsplit (b : Text) : (UnionMember.application x e es).write b =
      (x.text ++ ['<']) ++ ", ".toList.intercalate ((e :: es).map (TypeExpr.write b)) ++
        ['>'] := by
    rw [UnionMember.write_application]
    simp
  have hopen : EndsSolid (x.text ++ ['<']) := ⟨'<', x.text, rfl, by decide, by decide⟩
  have hclose : BeginsSolid ['>'] := ⟨'>', [], rfl, by decide, by decide⟩
  have hbegin : ∀ t ∈ (e :: es).map (TypeExpr.write " | ".toList), BeginsSolid t := by
    intro t ht
    obtain ⟨f, -, rfl⟩ := List.mem_map.1 ht
    exact f.beginsSolid_write _
  have hend : ∀ t ∈ (e :: es).map (TypeExpr.write " | ".toList), EndsSolid t := by
    intro t ht
    obtain ⟨f, -, rfl⟩ := List.mem_map.1 ht
    exact (TypeExpr.endsSolid_write _).1 f
  have harguments : ((e :: es).map (TypeExpr.write " | ".toList)).map squeezed =
      (e :: es).map (TypeExpr.write bar) := by
    rw [List.map_map]
    exact List.map_congr_left h
  rw [hsplit, hsplit, squeezed_enclosed hopen hclose hbegin hend, harguments,
    squeezed_append_mark x (by decide) (by decide), show squeezed ['>'] = ['>'] by decide]

theorem squeezed_group {e : TypeExpr} (h : squeezed e.text = e.write bar) :
    squeezed ((UnionMember.group e).write " | ".toList) = (UnionMember.group e).write bar := by
  have hsplit (b : Text) : (UnionMember.group e).write b = ['('] ++ e.write b ++ [')'] := by
    rw [UnionMember.write]
    rfl
  have hopen : EndsSolid ['('] := ⟨'(', [], rfl, by decide, by decide⟩
  have hclose : BeginsSolid [')'] := ⟨')', [], rfl, by decide, by decide⟩
  rw [hsplit, hsplit, squeezed_append (((TypeExpr.endsSolid_write _).1 e).append _) hclose,
    squeezed_append hopen (e.beginsSolid_write _), ← TypeExpr.text, h,
    show squeezed ['('] = ['('] by decide, show squeezed [')'] = [')'] by decide]

/-- Without blanks beside the bars of its literals, a type is squeezed by taking the blanks from
its own bars. -/
theorem squeezed_write :
    (∀ e : TypeExpr, (∀ x ∈ e.literals, x.IsTight) → squeezed e.text = e.write bar) ∧
    ∀ m : UnionMember, (∀ x ∈ m.literals, x.IsTight) →
      squeezed (m.write " | ".toList) = m.write bar := by
  apply TypeExpr.induct
  case function =>
    intro ps r hps hr h
    rw [TypeExpr.literals, parameterLiterals_eq, List.forall_mem_append] at h
    exact squeezed_function
      (fun p hp => hps p hp fun x hx => h.1 x (List.mem_flatMap_of_mem hp hx)) (hr h.2)
  case union =>
    intro m ms hm hms h
    rw [TypeExpr.literals, memberLiterals_eq, List.forall_mem_append] at h
    exact squeezed_members (List.forall_mem_cons.2 ⟨hm h.1,
      fun n hn => hms n hn fun x hx => h.2 x (List.mem_flatMap_of_mem hn hx)⟩)
  case name =>
    intro x _
    exact squeezed_eq_self (fun hbar => x.isWord.ne_of_mem hbar (by decide) rfl)
      x.isWord.beginsSolid x.isWord.endsSolid
  case literal => exact fun x h => (h x (List.mem_singleton_self x)).squeezed_text
  case application =>
    intro x e es he hes h
    rw [UnionMember.literals, argumentLiterals_eq, List.forall_mem_append] at h
    exact squeezed_application x (List.forall_mem_cons.2 ⟨he h.1,
      fun f hf => hes f hf fun x hx => h.2 x (List.mem_flatMap_of_mem hf hx)⟩)
  case group => exact fun e he h => squeezed_group (he h)

/-! ### Copied properties -/

namespace TypeExpr

/-- Whether the bars in the text of a type may be taken for those of its outermost union: no blank
stands beside a bar in a literal, and no part that a member falls into at the bars stands for the
absence of a value, unless the member does itself. -/
structure IsSeparable (e : TypeExpr) : Prop where
  literals : ∀ x ∈ e.literals, x.IsTight
  parts : ∀ m ∈ e.outermost, m.isAbsence = false →
    ∀ part ∈ UnionType.members m.text, UnionType.isAbsence part = false

/-- The members of the outermost union that do not stand for the absence of a value. -/
def kept (e : TypeExpr) : List TypeExpr :=
  e.outermost.filter fun m => !m.isAbsence

/-- A union of one member is written as that member. -/
theorem write_single (bar : Text) (m : UnionMember) : (union m []).write bar = m.write bar := by
  rw [write_union, List.map_singleton, List.intercalate_singleton]

theorem map_write_single (bar : Text) (ms : List UnionMember) :
    (ms.map fun m => union m []).map (write bar) = ms.map (UnionMember.write bar) := by
  rw [List.map_map]
  exact List.map_congr_left fun m _ => write_single bar m

theorem text_eq (e : TypeExpr) : e.text = " | ".toList.intercalate (e.outermost.map text) := by
  cases e with
  | function ps r => simp [outermost]
  | union m ms => exact (write_union _ m ms).trans (congrArg _ (map_write_single _ (m :: ms)).symm)

theorem outermost_ne_nil (e : TypeExpr) : e.outermost ≠ [] := by
  cases e <;> simp [outermost]

theorem literals_of_mem_outermost {e m : TypeExpr} (hm : m ∈ e.outermost) :
    ∀ x ∈ m.literals, x ∈ e.literals := by
  cases e with
  | function ps r =>
    obtain rfl := List.mem_singleton.1 hm
    exact fun x hx => hx
  | union n ns =>
    obtain ⟨k, hk, rfl⟩ := List.mem_map.1 hm
    intro x hx
    have hx : x ∈ k.literals := by simpa [literals, memberLiterals] using hx
    rw [literals, memberLiterals_eq, ← List.flatMap_cons]
    exact List.mem_flatMap_of_mem hk hx

/-- The text of an absence is the one part of itself. -/
theorem isAbsence_of_mem_members {m : TypeExpr} (hm : m.isAbsence = true) :
    ∀ part ∈ UnionType.members m.text, UnionType.isAbsence part = true := by
  unfold isAbsence at hm
  split at hm
  · next x =>
    have hbar : '|' ∉ x.text := fun h => x.isWord.ne_of_mem h (by decide) rfl
    have htext : (union (.name x) []).text = x.text := write_single _ (.name x)
    rw [htext, members_of_notMem hbar, strip_eq_self x.isWord.beginsSolid x.isWord.endsSolid]
    simpa using hm
  · cases hm

end TypeExpr

theorem filter_flatMap_eq {α β : Type} {f : α → List β} {p : β → Bool} {q : α → Bool} {l : List α}
    (h : ∀ a ∈ l, ∀ b ∈ f a, p b = q a) : (l.flatMap f).filter p = (l.filter q).flatMap f := by
  induction l with
  | nil => rfl
  | cons a l ih =>
    have ha := h a List.mem_cons_self
    rw [List.flatMap_cons, List.filter_append, ih fun b hb => h b (List.mem_cons_of_mem a hb)]
    cases hq : q a with
    | true =>
      rw [List.filter_cons_of_pos hq, List.flatMap_cons,
        List.filter_eq_self.2 fun b hb => (ha b hb).trans hq]
    | false =>
      rw [List.filter_cons_of_neg (by simp [hq]),
        List.filter_eq_nil_iff.2 fun b hb => by simp [ha b hb, hq], List.nil_append]

namespace TypeExpr

/-- What is compared of a type are its members, without the blanks around bars. -/
theorem stripped_text {e : TypeExpr} (h : e.IsSeparable) :
    UnionType.stripped e.text = bar.intercalate (e.kept.map (write bar)) := by
  have hparts : ∀ m ∈ e.outermost, ∀ part ∈ UnionType.members m.text,
      (!UnionType.isAbsence part) = !m.isAbsence := by
    intro m hm part hpart
    cases habsence : m.isAbsence with
    | true => rw [isAbsence_of_mem_members habsence part hpart]
    | false => rw [h.parts m hm habsence part hpart]
  have hsqueezed : e.kept.map (fun m => squeezed m.text) = e.kept.map (write bar) := by
    refine List.map_congr_left fun m hm => squeezed_write.1 m fun x hx => h.literals x ?_
    exact literals_of_mem_outermost (List.mem_filter.1 hm).1 x hx
  calc UnionType.stripped e.text
      = bar.intercalate ((e.outermost.flatMap fun m => UnionType.members m.text).filter
          fun part => !UnionType.isAbsence part) := by
        rw [UnionType.stripped, text_eq, members_intercalate (by simpa using e.outermost_ne_nil),
          List.flatMap_map]
    _ = bar.intercalate (e.kept.flatMap fun m => UnionType.members m.text) := by
        rw [filter_flatMap_eq hparts, kept]
    _ = bar.intercalate (e.kept.map (write bar)) := by
        rw [intercalate_flatMap (fun m : TypeExpr => members_ne_nil m.text), ← hsqueezed]
        rfl

theorem kept_union (m : UnionMember) (ms : List UnionMember) :
    ∃ ns : List UnionMember, (union m ms).kept = ns.map fun n => union n [] := by
  rw [kept, outermost, List.filter_map]
  exact ⟨_, rfl⟩

/-- A function type is written as no list of members. -/
theorem write_function_ne_intercalate (ps : List (Name × TypeExpr)) (r : TypeExpr)
    (ms : List UnionMember) :
    (function ps r).write bar ≠ bar.intercalate (ms.map (UnionMember.write bar)) := by
  cases ms with
  | nil =>
    obtain ⟨c, t, ht, -⟩ := (function ps r).exists_write_eq_cons bar
    simp [ht]
  | cons m ms =>
    have hne := write_function_append_ne ps r m ms [] []
    rwa [List.append_nil, List.append_nil, write_union] at hne

/-- The members that are compared are the same if their texts are. -/
theorem kept_eq_of_intercalate {s t : TypeExpr} (h : bar.intercalate (s.kept.map (write bar)) =
    bar.intercalate (t.kept.map (write bar))) : s.kept = t.kept := by
  have hfunction (ps : List (Name × TypeExpr)) (r : TypeExpr) :
      (function ps r).kept = [function ps r] := rfl
  cases s with
  | function ps r =>
    cases t with
    | function qs q =>
      rw [hfunction, hfunction, List.map_singleton, List.map_singleton,
        List.intercalate_singleton, List.intercalate_singleton] at h
      rw [write_injective h]
    | union n ns =>
      obtain ⟨ks, hks⟩ := kept_union n ns
      rw [hfunction, hks, map_write_single] at h
      exact absurd (by simpa using h) (write_function_ne_intercalate ps r ks)
  | union m ms =>
    obtain ⟨ls, hls⟩ := kept_union m ms
    cases t with
    | function qs q =>
      rw [hfunction, hls, map_write_single] at h
      exact absurd (by simpa using h.symm) (write_function_ne_intercalate qs q ls)
    | union n ns =>
      obtain ⟨ks, hks⟩ := kept_union n ns
      rw [hls, hks, map_write_single, map_write_single] at h
      rw [hls, hks, UnionMember.intercalate_injective h]

/-- A property is copied only if the members of its two types, `null` and `undefined` aside, are
the same. -/
theorem kept_eq_of_copied {s t : TypeExpr} (hs : s.IsSeparable) (ht : t.IsSeparable)
    {target source : Text} {targetOptional sourceOptional : Bool}
    (h : (Slot.of ⟨target, t.text, targetOptional⟩ (some ⟨source, s.text, sourceOptional⟩)).route =
      .copied) : s.kept = t.kept := by
  have hcopyable : Property.copyable ⟨target, t.text, targetOptional⟩
      ⟨source, s.text, sourceOptional⟩ = true := by
    by_contra hcustom
    simp [Slot.of, hcustom] at h
  have hstripped : UnionType.stripped s.text = UnionType.stripped t.text :=
    of_decide_eq_true (Bool.and_eq_true_iff.1 hcopyable).1
  rw [stripped_text hs, stripped_text ht] at hstripped
  exact kept_eq_of_intercalate hstripped

/-- The names `string` and `null`. -/
def stringName : Name := ⟨'s', "tring".toList, by decide, List.all_eq_true.1 (by decide)⟩

def nullName : Name := ⟨'n', "ull".toList, by decide, List.all_eq_true.1 (by decide)⟩

/-- The type `Promise<string | null>`. -/
def promise : UnionMember :=
  .application ⟨'P', "romise".toList, by decide, List.all_eq_true.1 (by decide)⟩
    (union (.name stringName) [.name nullName]) []

/-- An absence that is an argument does not stand alone between bars. -/
theorem kept_eq_of_copied_promise :
    let s := union promise [.name nullName]
    let t := union (.name nullName) [promise]
    s.IsSeparable ∧ t.IsSeparable ∧
      (Slot.of ⟨"p".toList, t.text, true⟩ (some ⟨"p".toList, s.text, false⟩)).route = .copied ∧
      s.kept = t.kept := by
  intro s t
  have hs : s.IsSeparable := ⟨by decide, by decide⟩
  have ht : t.IsSeparable := ⟨by decide, by decide⟩
  have hcopied : (Slot.of ⟨"p".toList, t.text, true⟩
      (some ⟨"p".toList, s.text, false⟩)).route = .copied := by decide
  exact ⟨hs, ht, hcopied, kept_eq_of_copied hs ht hcopied⟩

/-- The string literals `'a | b'` and `'a|b'`. -/
def spacedLiteral : Source.Literal :=
  Written.Quoted.literal ⟨'\'', "a | b".toList, by decide, by simp⟩

def tightLiteral : Source.Literal :=
  Written.Quoted.literal ⟨'\'', "a|b".toList, by decide, by simp⟩

/-- The result of a function loses its absence, and a literal its blanks. -/
theorem kept_ne_of_copied :
    (let s := function [] (union (.name stringName) [.name nullName])
      let t := function [] (union (.name stringName) [])
      (Slot.of ⟨"f".toList, t.text, true⟩ (some ⟨"f".toList, s.text, false⟩)).route = .copied ∧
        s.kept ≠ t.kept) ∧
    (let s := union (.literal spacedLiteral) []
      let t := union (.literal tightLiteral) []
      (Slot.of ⟨"f".toList, t.text, false⟩ (some ⟨"f".toList, s.text, false⟩)).route = .copied ∧
        s.kept ≠ t.kept) := by
  refine ⟨⟨by decide, fun h => ?_⟩, ⟨by decide, fun h => ?_⟩⟩
  · exact absurd (congrArg (List.map text) h) (by decide)
  · exact absurd (congrArg (List.map text) h) (by decide)

end TypeExpr

end ShapeMapper
