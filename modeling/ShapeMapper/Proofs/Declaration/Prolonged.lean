import ShapeMapper.Proofs.Declaration.Heritage
import ShapeMapper.Proofs.Declaration.Scan
import ShapeMapper.Proofs.Source.Prolonged

/-!
# Declaration files that go on

A statement is read as before if the text goes on on the next line, unless the text ends in the
midst of it (`isUnfinished`, `statement?_append`). So a scan of a text that ends outside of all
braces and statements (`endsOutside`) finds the same when the text goes on, and then what there is
in the rest: `scan_append`.
-/

namespace ShapeMapper.Declaration

open Source Written

variable {file before t u : Text} {depth : Nat}

/-! ### From the head to the body -/

theorem closeTypeParameters_append_of_ok {torn torn' rest : Text} {pieces more : List Piece}
    (htorn : textOf more ++ torn' = torn ++ u)
    (h : closeTypeParameters torn depth pieces = .ok rest) :
    closeTypeParameters torn' depth (pieces ++ more) = .ok (rest ++ u) := by
  fun_induction closeTypeParameters torn depth pieces with
  | case1 => cases h
  | case2 =>
    cases h
    simp only [List.cons_append, closeTypeParameters, textOf, List.flatMap_append,
      List.append_assoc] at htorn ⊢
    rw [htorn]
  | case3 depth pieces ih => exact ih h
  | case4 depth piece pieces hclose ih =>
    rw [List.cons_append, closeTypeParameters]
    · exact ih h
    · exact hclose

theorem openBody_append_of_ok {torn torn' rest : Text} {angle : Int} {pieces more : List Piece}
    (htorn : textOf more ++ torn' = torn ++ u) (h : openBody torn angle pieces = .ok rest) :
    openBody torn' angle (pieces ++ more) = .ok (rest ++ u) := by
  fun_induction openBody torn angle pieces with
  | case1 => cases h
  | case2 angle pieces ih =>
    rw [List.cons_append, Bracketed.openBody_open]
    exact ih h
  | case3 angle pieces ih =>
    rw [List.cons_append, Bracketed.openBody_close]
    exact ih h
  | case4 => cases h
  | case5 angle pieces hangle ih =>
    rw [List.cons_append, Bracketed.openBody_cons (by decide) (by decide) (by decide)
      (fun _ => hangle)]
    exact ih h
  | case6 pieces =>
    cases h
    simp only [List.cons_append, openBody, if_true, textOf, List.flatMap_append,
      List.append_assoc] at htorn ⊢
    rw [htorn]
  | case7 angle pieces hangle body rest' hclosing ih =>
    rw [List.cons_append, Bracketed.openBody_braces hangle
      (Piece.closing?_append_of_some hclosing more)]
    exact ih h
  | case8 => cases h
  | case9 angle piece pieces hopen hclose hend hbrace ih =>
    rw [List.cons_append, Bracketed.openBody_cons hopen hclose hbrace (fun h => absurd h hend)]
    exact ih h

/-! #### Blanks -/

/-- A text of blanks goes on with the next line. -/
theorem trimStart_append_nextLine (hu : NextLine u) (ht : Text.trimStart t = []) :
    ∃ c v, Text.trimStart (t ++ u) = c :: v ∧ Text.isNameChar c = true ∧
      c ∉ ['d', 'e', 'f', 'i', 't'] := by
  cases hu with
  | @intro c v hname hhead hslash =>
    refine ⟨c, v, ?_, hname, hhead⟩
    have hblank := Text.not_isBlank_of_isNameChar hname
    rw [Text.trimStart, List.dropWhile_append, if_pos]
    · have hnewline : Text.isBlank '\n' = true := by decide
      simp [hnewline, hblank]
    · simpa [Text.trimStart] using ht

theorem afterTypeParameters_append_of_ok (hu : NextLine u) {rest : Text}
    (ht : Text.trimStart t ≠ []) (h : afterTypeParameters t = .ok rest) :
    afterTypeParameters (t ++ u) = .ok (rest ++ u) := by
  unfold afterTypeParameters at h ⊢
  rw [Text.trimStart_append_of_ne_nil ht]
  split at h
  · next v hv =>
    obtain ⟨more, hpieces, htorn⟩ := exists_ofText_append hu v
    rw [hv]
    have hclose := closeTypeParameters_append_of_ok htorn h
    rwa [← hpieces] at hclose
  · next hangle =>
    cases h
    split
    · next v hv =>
      obtain ⟨w, hw⟩ : ∃ w, Text.trimStart t = '<' :: w := by
        cases htrim : Text.trimStart t with
        | nil => exact absurd htrim ht
        | cons d w =>
          rw [htrim] at hv
          exact ⟨w, by rw [(List.cons.inj hv).1]⟩
      exact absurd hw (hangle w)
    · rfl

theorem openAlias_brace {v w : Text} (ht : Text.trimStart t = '=' :: v)
    (hv : Text.trimStart v = '{' :: w) : openAlias t = .ok w := by
  simp only [openAlias, ht, hv]

theorem openAlias_equals {v : Text} (ht : Text.trimStart t = '=' :: v)
    (hv : ∀ w, Text.trimStart v ≠ '{' :: w) : openAlias t = .error (Text.trimStart v) := by
  simp only [openAlias, ht]

theorem openAlias_other (ht : ∀ v, Text.trimStart t ≠ '=' :: v) :
    openAlias t = .error (Text.trimStart t) := by
  rw [openAlias]
  split
  · next v hv => exact absurd hv (ht v)
  · rfl

/-- The body of an alias is opened as before, and what is none stays none. -/
theorem openAlias_append (h : openAlias t ≠ .error []) (u : Text) :
    openAlias (t ++ u) = ((openAlias t).map (· ++ u)).mapError (· ++ u) := by
  have hne : Text.trimStart t ≠ [] := by
    intro htrim
    rw [openAlias, htrim] at h
    exact h rfl
  obtain ⟨d, v, htrim⟩ := List.exists_cons_of_ne_nil hne
  have hlonger := Text.trimStart_append_of_ne_nil hne u
  rw [htrim, List.cons_append] at hlonger
  by_cases hequals : d = '='
  · subst hequals
    have hne' : Text.trimStart v ≠ [] := by
      intro hv
      rw [openAlias_equals htrim (by simp [hv]), hv] at h
      exact h rfl
    obtain ⟨e, w, hv⟩ := List.exists_cons_of_ne_nil hne'
    have hvlonger := Text.trimStart_append_of_ne_nil hne' u
    rw [hv, List.cons_append] at hvlonger
    by_cases hbrace : e = '{'
    · subst hbrace
      rw [openAlias_brace htrim hv, openAlias_brace hlonger hvlonger]
      rfl
    · rw [openAlias_equals htrim (by simp [hv, hbrace]),
        openAlias_equals hlonger (by simp [hvlonger, hbrace]), hv, hvlonger]
      rfl
  · have hother : openAlias t = .error (Text.trimStart t) :=
      openAlias_other (by simp [htrim, hequals])
    rw [openAlias_other (by simp [hlonger, hequals]), hother, htrim, hlonger]
    rfl

theorem isComposite_append (hu : NextLine u) (t : Text) :
    isComposite (t ++ u) = isComposite t := by
  unfold isComposite
  cases htrim : Text.trimStart t with
  | nil =>
    obtain ⟨c, v, hlonger, hname, -⟩ := trimStart_append_nextLine hu htrim
    have hoperators : ∀ d ∈ ['&', '|', '['], Text.isNameChar d = false :=
      Text.forall_mem_of_all (by decide)
    rw [hlonger]
    have hnot : c ∉ ['&', '|', '['] := fun hmem => by
      rw [hoperators c hmem] at hname
      cases hname
    simpa using hnot
  | cons d v =>
    have hne : Text.trimStart t ≠ [] := by rw [htrim]; exact List.cons_ne_nil _ _
    rw [Text.trimStart_append_of_ne_nil hne, htrim]
    rfl

/-- What an interface declares, given what follows its type parameters. -/
def ofInterface (header : Header) (t : Text) : Except Stuck (Option Item × Text) := do
  let cut := Cut.ofText t
  let (body, rest) ← enclosed (← openBody cut.torn 0 cut.pieces)
  return (some (Item.ofBody header (← members body)), rest)

/-- What an alias declares, given what follows its type parameters. -/
def ofAlias (header : Header) (t : Text) : Except Stuck (Option Item × Text) :=
  match openAlias t with
  | .error rest => .ok (none, rest)
  | .ok t => do
    let (body, rest) ← enclosed t
    if isComposite rest then return (some (.composite header.name), rest)
    return (some (Item.ofBody header (← members body)), rest)

/-- What a declaration declares, given what follows its type parameters. -/
def ofForm (header : Header) (t : Text) : Except Stuck (Option Item × Text) :=
  if header.form = .interface then ofInterface header t else ofAlias header t

theorem declared_eq (header : Header) (t : Text) :
    declared header t = (afterTypeParameters t).bind (ofForm header) := by
  obtain ⟨exported, isDefault, form, name⟩ := header
  cases form <;> rfl

/-- With nothing behind its head an interface cannot be read, and an alias declares nothing. -/
theorem ofForm_nil {header : Header} {found : Option Item × Text}
    (h : ofForm header [] = .ok found) : found = (none, []) := by
  unfold ofForm at h
  split at h
  · obtain ⟨w, hw, -⟩ := exists_ok_of_bind h
    rw [Cut.ofText, openBody] at hw
    cases hw
  · cases h
    rfl

section forms

variable {header : Header} {item : Option Item} {rest : Text}

theorem ofInterface_append (hu : NextLine u) (h : ofInterface header t = .ok (item, rest)) :
    ofInterface header (t ++ u) = .ok (item, rest ++ u) := by
  obtain ⟨v, hv, h⟩ := exists_ok_of_bind h
  obtain ⟨⟨body, r⟩, hbody, h⟩ := exists_ok_of_bind h
  obtain ⟨m, hm, h⟩ := exists_ok_of_bind h
  cases h
  obtain ⟨more, hpieces, htorn⟩ := exists_ofText_append hu t
  have hopen := openBody_append_of_ok htorn hv
  rw [← hpieces] at hopen
  simp only [ofInterface, hopen, enclosed_append_of_ok hu hbody, hm, bind, Except.bind, pure,
    Except.pure]

/-- An alias that has no type would find one in the rest. -/
theorem ofAlias_append (hu : NextLine u) (h : ofAlias header t = .ok (item, rest))
    (hne : (item, rest) ≠ (none, [])) : ofAlias header (t ++ u) = .ok (item, rest ++ u) := by
  have halias : openAlias t ≠ .error [] := by
    intro halias
    rw [ofAlias, halias] at h
    cases h
    exact hne rfl
  have hlonger := openAlias_append halias u
  rw [ofAlias] at h ⊢
  cases hopen : openAlias t with
  | error v =>
    rw [hopen] at h hlonger
    cases h
    rw [hlonger]
    rfl
  | ok v =>
    rw [hopen] at h hlonger
    obtain ⟨⟨body, r⟩, hbody, h⟩ := exists_ok_of_bind h
    simp only [hlonger, Except.map, Except.mapError, enclosed_append_of_ok hu hbody,
      isComposite_append hu, bind, Except.bind]
    dsimp only at h
    split at h
    · next hcomposite =>
      cases h
      rw [if_pos hcomposite]
      rfl
    · next hcomposite =>
      obtain ⟨m, hm, h⟩ := exists_ok_of_bind h
      cases h
      rw [if_neg hcomposite, hm]
      rfl

/-- What a declaration declares it declares as well if the text goes on. -/
theorem declared_append (hu : NextLine u) (h : declared header t = .ok (item, rest))
    (hne : (item, rest) ≠ (none, [])) : declared header (t ++ u) = .ok (item, rest ++ u) := by
  rw [declared_eq] at h ⊢
  obtain ⟨v, hv, h⟩ := exists_ok_of_bind h
  have htrim : Text.trimStart t ≠ [] := by
    intro htrim
    rw [afterTypeParameters, htrim] at hv
    cases hv
    exact hne (ofForm_nil h)
  rw [afterTypeParameters_append_of_ok hu htrim hv]
  show ofForm header (v ++ u) = _
  unfold ofForm at h ⊢
  split
  · next hform =>
    rw [if_pos hform] at h
    exact ofInterface_append hu h
  · next hform =>
    rw [if_neg hform] at h
    exact ofAlias_append hu h hne

end forms

/-! ### Words -/

theorem after?_append {word : Text} (hu : NextLine u) (hword : '\n' ∉ word) (t : Text) :
    Text.after? word (t ++ u) = (Text.after? word t).map (· ++ u) := by
  induction word generalizing t with
  | nil => rfl
  | cons d word ih =>
    rw [List.mem_cons, not_or] at hword
    obtain ⟨hd, hword⟩ := hword
    cases t with
    | nil =>
      cases hu with
      | intro => exact if_neg (Ne.symm hd)
    | cons c t =>
      rw [List.cons_append, Text.after?, Text.after?]
      split
      · exact ih hword t
      · rfl

/-- Whether a text is a word with nothing but blanks after it. -/
def isOnlyWord (word t : Text) : Bool :=
  (Text.after? word t).any (·.all Text.isBlank)

theorem afterWord?_append_of_not_isOnlyWord (hu : NextLine u) {word : Text} (hword : '\n' ∉ word)
    (ht : isOnlyWord word t = false) :
    afterWord? word (t ++ u) = (afterWord? word t).map (· ++ u) := by
  unfold isOnlyWord at ht
  simp only [afterWord?, after?_append hu hword]
  cases hafter : Text.after? word t with
  | none => rfl
  | some v =>
    rw [hafter] at ht
    cases v with
    | nil => cases ht
    | cons c v =>
      dsimp only [Option.map_some, List.cons_append]
      split
      · next hc =>
        have hne : Text.trimStart v ≠ [] := by
          intro hv
          have hblank : ∀ d ∈ c :: v, Text.isBlank d = true :=
            List.forall_mem_cons.2 ⟨hc, List.dropWhile_eq_nil_iff.1 hv⟩
          rw [Option.any_some, List.all_eq_true.2 hblank] at ht
          cases ht
        rw [Text.trimStart_append_of_ne_nil hne]
        rfl
      · rfl

theorem optionalWord_append_of_not_isOnlyWord (hu : NextLine u) {word : Text}
    (hword : '\n' ∉ word) (ht : isOnlyWord word t = false) :
    optionalWord word (t ++ u) = ((optionalWord word t).1, (optionalWord word t).2 ++ u) := by
  unfold optionalWord
  rw [afterWord?_append_of_not_isOnlyWord hu hword ht]
  cases afterWord? word t <;> rfl

/-- A word that ends the text finds the next line behind it. -/
theorem exists_afterWord?_of_isOnlyWord (hu : NextLine u) {word : Text}
    (ht : isOnlyWord word t = true) (hword : '\n' ∉ word) :
    ∃ c v, afterWord? word (t ++ u) = some (c :: v) ∧ Text.isNameChar c = true ∧
      c ∉ ['d', 'e', 'f', 'i', 't'] ∧
      (afterWord? word t = none ∧ t = word ∨ afterWord? word t = some []) := by
  obtain ⟨v, hv, hblank⟩ := (Option.any_eq_true _ _).1 ht
  rw [List.all_eq_true] at hblank
  have hlonger := after?_append hu hword t
  rw [hv, Option.map_some] at hlonger
  cases v with
  | nil =>
    cases hu with
    | @intro c w hname hhead =>
      refine ⟨c, w, ?_, hname, hhead, .inl ⟨?_, by simpa using Text.after?_eq_some_iff.1 hv⟩⟩
      · have hnot := Text.not_isBlank_of_isNameChar hname
        simp only [afterWord?, hlonger, List.nil_append]
        rw [if_pos (by decide), Text.trimStart_eq_self (by simpa using hnot)]
      · simp only [afterWord?, hv]
  | cons d v =>
    have hd := hblank d List.mem_cons_self
    have htrim : Text.trimStart v = [] :=
      List.dropWhile_eq_nil_iff.2 fun e he => hblank e (List.mem_cons_of_mem d he)
    obtain ⟨c, w, htrim', hname, hhead⟩ := trimStart_append_nextLine hu htrim
    refine ⟨c, w, ?_, hname, hhead, .inr ?_⟩
    · simp only [afterWord?, hlonger, List.cons_append]
      rw [if_pos hd, htrim']
    · simp only [afterWord?, hv]
      rw [if_pos hd, htrim]

/-! #### The head of a declaration -/

/-- The words that may follow the first one in the head of a declaration. -/
def headWords : List Text :=
  ["default", "declare", "interface", "type"].map String.toList

/-- Whether none of these words stands first. -/
def Barren (t : Text) : Prop :=
  ∀ word ∈ headWords, afterWord? word t = none

theorem barren_cons {c : Char} (hc : c ∉ ['d', 'e', 'f', 'i', 't']) (t : Text) :
    Barren (c :: t) := by
  have hheads : ∀ word ∈ headWords, ∃ d v, word = d :: v ∧ d ∈ ['d', 'e', 'f', 'i', 't'] := by
    simp [headWords]
  intro word hword
  obtain ⟨d, v, rfl, hd⟩ := hheads word hword
  have hne : d ≠ c := by
    rintro rfl
    exact hc hd
  exact afterWord?_cons_of_ne hne v t

/-- The part of a head from the word for its form on. -/
def declarer? (exported isDefault : Bool) (t : Text) : Option (Header × Text) :=
  let named (form : Form) (t : Text) : Option (Header × Text) :=
    (Text.name? t).map fun (name, rest) => ({ exported, isDefault, form, name }, rest)
  ((afterWord? "interface".toList t).bind (named .interface)).or
    ((afterWord? "type".toList t).bind (named .alias))

theorem declarer?_of_barren (ht : Barren t) (exported isDefault : Bool) :
    declarer? exported isDefault t = none := by
  have hinterface := ht "interface".toList (by decide)
  have htype := ht "type".toList (by decide)
  simp only [declarer?, hinterface, htype, Option.bind_none, Option.or_none]

theorem optionalWord_of_some {word rest : Text} (h : afterWord? word t = some rest) :
    optionalWord word t = (true, rest) := by
  rw [optionalWord, h]

/-- An optional word is read as before, or nothing is declared with it and without it. -/
theorem optionalWord_append_or (hu : NextLine u) (word : Text)
    (hword : word ∈ ["export", "default", "declare"].map String.toList) (t : Text) :
    optionalWord word (t ++ u) = ((optionalWord word t).1, (optionalWord word t).2 ++ u) ∨
      Barren (optionalWord word t).2 ∧ Barren (optionalWord word (t ++ u)).2 := by
  have hnewline : ∀ word ∈ ["export", "default", "declare"].map String.toList, '\n' ∉ word := by
    decide
  cases honly : isOnlyWord word t with
  | false => exact .inl (optionalWord_append_of_not_isOnlyWord hu (hnewline word hword) honly)
  | true =>
    have hwords : ∀ word ∈ ["export", "default", "declare"].map String.toList, Barren word := by
      unfold Barren
      decide
    have hnil : Barren [] := by
      unfold Barren
      decide
    obtain ⟨c, v, hlonger, -, hhead, hshorter⟩ := exists_afterWord?_of_isOnlyWord hu honly
      (hnewline word hword)
    rw [optionalWord_of_some hlonger]
    refine .inr ⟨?_, barren_cons hhead v⟩
    rcases hshorter with ⟨hnone, rfl⟩ | hsome
    · rw [optionalWord_of_none hnone]
      exact hwords t hword
    · rwa [optionalWord_of_some hsome]

/-- A text after the optional words of a head, with what they say. -/
def afterModifiers (t : Text) : (Bool × Bool) × Text :=
  let (exported, t) := optionalWord "export".toList t
  let (isDefault, t) := if exported then optionalWord "default".toList t else (false, t)
  ((exported, isDefault), (optionalWord "declare".toList t).2)

theorem header?_eq (t : Text) :
    header? t = declarer? (afterModifiers t).1.1 (afterModifiers t).1.2 (afterModifiers t).2 := rfl

/-- Whether a text is the head of a declaration without its name. -/
def isNameless (t : Text) : Bool :=
  isOnlyWord "interface".toList (afterModifiers t).2 ||
    isOnlyWord "type".toList (afterModifiers t).2

theorem afterModifiers_of_barren (h : Barren (optionalWord "export".toList t).2) :
    Barren (afterModifiers t).2 := by
  have hdefault := optionalWord_of_none (h "default".toList (by decide))
  have hdeclare := optionalWord_of_none (h "declare".toList (by decide))
  unfold afterModifiers
  dsimp only
  split
  · rw [hdefault, hdeclare]
    exact h
  · rw [hdeclare]
    exact h

/-- The optional words are read as before, or nothing is declared with them and without them. -/
theorem afterModifiers_append_or (hu : NextLine u) (t : Text) :
    afterModifiers (t ++ u) = ((afterModifiers t).1, (afterModifiers t).2 ++ u) ∨
      Barren (afterModifiers t).2 ∧ Barren (afterModifiers (t ++ u)).2 := by
  have hdeclare (v : Text) : (optionalWord "declare".toList (v ++ u)).2 =
      (optionalWord "declare".toList v).2 ++ u ∨
        Barren (optionalWord "declare".toList v).2 ∧
          Barren (optionalWord "declare".toList (v ++ u)).2 := by
    rcases optionalWord_append_or hu "declare".toList (by decide) v with h | h
    · exact .inl (congrArg Prod.snd h)
    · exact .inr h
  have hbarren {v : Text} (h : Barren v) : Barren (optionalWord "declare".toList v).2 := by
    rw [optionalWord_of_none (h "declare".toList (by decide))]
    exact h
  rcases optionalWord_append_or hu "export".toList (by decide) t with h | ⟨h, h'⟩
  · unfold afterModifiers
    rw [h]
    generalize optionalWord "export".toList t = found
    obtain ⟨exported, v⟩ := found
    cases exported with
    | false =>
      rcases hdeclare v with h | h
      · exact .inl (Prod.ext rfl h)
      · exact .inr h
    | true =>
      dsimp only
      rw [if_pos rfl, if_pos rfl]
      rcases optionalWord_append_or hu "default".toList (by decide) v with h | ⟨h, h'⟩
      · rw [h]
        generalize optionalWord "default".toList v = found
        obtain ⟨isDefault, w⟩ := found
        rcases hdeclare w with h | h
        · exact .inl (Prod.ext rfl h)
        · exact .inr h
      · exact .inr ⟨hbarren h, hbarren h'⟩
  · exact .inr ⟨afterModifiers_of_barren h, afterModifiers_of_barren h'⟩

theorem name?_append (hu : NextLine u) (t : Text) :
    Text.name? (t ++ u) = (Text.name? t).map fun (name, rest) => (name, rest ++ u) := by
  cases t with
  | nil =>
    cases hu with
    | intro => rfl
  | cons c t =>
    obtain ⟨htake, hdrop⟩ := Text.while_append hu.not_isNameChar_head t
    rw [List.cons_append, Text.name?, Text.name?, htake, hdrop]
    split <;> rfl

theorem declarer?_append (hu : NextLine u)
    (hinterface : isOnlyWord "interface".toList t = false)
    (htype : isOnlyWord "type".toList t = false) (exported isDefault : Bool) :
    declarer? exported isDefault (t ++ u) =
      (declarer? exported isDefault t).map fun (header, rest) => (header, rest ++ u) := by
  have hnamed (form : Form) (found : Option Text) :
      ((found.map (· ++ u)).bind fun t => (Text.name? t).map fun (name, rest) =>
        (({ exported, isDefault, form, name } : Header), rest)) =
      (found.bind fun t => (Text.name? t).map fun (name, rest) =>
        (({ exported, isDefault, form, name } : Header), rest)).map
          fun (header, rest) => (header, rest ++ u) := by
    cases found with
    | none => rfl
    | some v => simp [name?_append hu, Function.comp_def]
  unfold declarer?
  dsimp only
  rw [afterWord?_append_of_not_isOnlyWord hu (by decide) hinterface,
    afterWord?_append_of_not_isOnlyWord hu (by decide) htype, hnamed, hnamed, Option.map_or]

/-- The head of a declaration is read as before, if it has its name. -/
theorem header?_append (hu : NextLine u) (ht : isNameless t = false) :
    header? (t ++ u) = (header? t).map fun (header, rest) => (header, rest ++ u) := by
  obtain ⟨hinterface, htype⟩ := Bool.or_eq_false_iff.1 ht
  rw [header?_eq, header?_eq]
  rcases afterModifiers_append_or hu t with h | ⟨h, h'⟩
  · rw [h]
    exact declarer?_append hu hinterface htype _ _
  · rw [declarer?_of_barren h, declarer?_of_barren h']
    rfl

/-! #### Imports -/

/-- Whether a text is an import that ends before its specifier. -/
def isOpenImport (t : Text) : Bool :=
  (Text.after? "import".toList t).any fun v => v.head?.all Text.isBlank && v.all isClauseChar

/-- A longer word begins no import. -/
theorem import?_eq_none_of_after? {c : Char} {v : Text}
    (h : Text.after? "import".toList t = some (c :: v)) (hc : Text.isBlank c = false) :
    Declaration.import? file t = none := by
  refine Written.import?_eq_none fun w hw => ?_
  obtain rfl := Option.some.inj (h.symm.trans hw)
  exact hc

theorem import?_append (hu : NextLine u) (ht : isOpenImport t = false) : import? file (t ++ u) =
    (import? file t).map fun (i, rest) => (i, rest ++ u) := by
  cases hafter : Text.after? "import".toList t with
  | none =>
    simp only [import?, after?_append hu (by decide : '\n' ∉ "import".toList), hafter]
    rfl
  | some v =>
    have hlonger : Text.after? "import".toList (t ++ u) = some (v ++ u) := by
      rw [after?_append hu (by decide), hafter]
      rfl
    rw [isOpenImport, hafter, Option.any_some, Bool.and_eq_false_iff] at ht
    rcases ht with hhead | hall
    · cases v with
      | nil => cases hhead
      | cons c v =>
        rw [import?_eq_none_of_after? hafter hhead, import?_eq_none_of_after? hlonger hhead]
        rfl
    have hne : v.dropWhile isClauseChar ≠ [] := by
      intro hv
      rw [List.all_eq_true.2 (List.dropWhile_eq_nil_iff.1 hv)] at hall
      cases hall
    obtain ⟨htake, hdrop⟩ := Text.while_append_of_ne_nil hne u
    obtain ⟨quote, w, hquote⟩ := List.exists_cons_of_ne_nil hne
    have hend : ∀ c ∈ u.head?, (!(c = '\'' || c = '"' || c = '\n')) = false := by
      cases hu with
      | intro =>
        intro c hc
        obtain rfl : '\n' = c := Option.some.inj hc
        decide
    obtain ⟨htake', hdrop'⟩ := Text.while_append hend w
    simp only [import?, hafter, hlonger, Option.bind_eq_bind, Option.bind_some, htake, hdrop,
      hquote, List.cons_append, htake', hdrop']
    cases hclosing : w.dropWhile fun c => !(c = '\'' || c = '"' || c = '\n') with
    | nil =>
      -- the specifier would have to end on the next line
      cases hu with
      | intro =>
        refine if_neg fun h => ?_
        obtain ⟨hquote, -, -, rfl⟩ := h
        revert hquote
        decide
    | cons closing rest =>
      dsimp only [List.cons_append]
      split <;> rfl

/-! ### Statements -/

/-- Whether a text begins a statement and ends in the midst of it: an import without its
specifier, a declaration without its name, or an alias without its type. -/
def isUnfinished (file t : Text) : Bool :=
  isOpenImport t || isNameless t ||
    match statement? file t with
    | .ok (some (none, [])) => true
    | _ => false

/-- A statement is read as before. -/
theorem statement?_append (hu : NextLine u) (ht : isUnfinished file t = false)
    {found : Option (Option Item × Text)} (h : statement? file t = .ok found) :
    statement? file (t ++ u) = .ok (found.map fun (item, rest) => (item, rest ++ u)) := by
  simp only [isUnfinished, Bool.or_eq_false_iff] at ht
  obtain ⟨⟨himport, hheader⟩, halias⟩ := ht
  have hread := h
  unfold statement? at h ⊢
  rw [import?_append hu himport, header?_append hu hheader]
  cases hi : import? file t with
  | some parts =>
    rw [hi] at h
    cases h
    rfl
  | none =>
    rw [hi] at h
    cases hh : header? t with
    | none =>
      rw [hh] at h
      cases h
      rfl
    | some parts =>
      obtain ⟨header, v⟩ := parts
      rw [hh] at h
      obtain ⟨⟨item, rest⟩, hdeclared, rfl⟩ := exists_ok_of_map h
      have hne : (item, rest) ≠ (none, []) := by
        rintro heq
        cases heq
        rw [hread] at halias
        cases halias
      show (declared header (v ++ u)).map some = _
      rw [declared_append hu hdeclared hne]
      rfl

/-! ### Scans -/

theorem further_le_of_step {c : Char} {s : Step} (h : step file before depth c t = .ok s) :
    s.further ≤ t.length := by
  unfold step at h
  split at h
  · split at h
    · next body rest hclose =>
      cases h
      rw [eq_append_of_closeString? hclose, List.length_append]
      exact Nat.le_add_right _ _
    · cases h
  split at h
  · cases h
    cases hread : Pattern.read? before t with
    | none => exact Nat.zero_le _
    | some parts =>
      rw [Pattern.eq_append_of_read? hread, List.length_append]
      exact Nat.le_add_right _ _
  split at h
  · cases h
    exact Nat.zero_le _
  split at h
  · cases h
    exact Nat.zero_le _
  split at h
  · obtain ⟨found, -, h⟩ := exists_ok_of_bind h
    split at h
    · cases h
      exact Nat.sub_le _ _
    · cases h
      exact Nat.zero_le _
  · cases h
    exact Nat.zero_le _

/-- A step is as before. -/
theorem step_append (hu : NextLine u) {c : Char} {s : Step}
    (h : step file before depth c t = .ok s)
    (hfinished : depth = 0 → before.head?.any Text.isNameChar = false →
      isUnfinished file (c :: t) = false) :
    step file before depth c (t ++ u) = .ok s := by
  unfold step at h ⊢
  split
  · next hquote =>
    rw [if_pos hquote] at h
    cases hclose : closeString? c t with
    | none =>
      rw [hclose] at h
      cases h
    | some parts =>
      rw [hclose] at h
      rw [closeString?_append_of_some hquote hclose]
      exact h
  next hquote =>
  rw [if_neg hquote] at h
  split
  · next hslash =>
    rw [if_pos hslash] at h
    rw [Pattern.read?_append hu, ← h]
    cases Pattern.read? before t <;> rfl
  next hslash =>
  rw [if_neg hslash] at h
  split
  · next hopen => rwa [if_pos hopen] at h
  next hopen =>
  rw [if_neg hopen] at h
  split
  · next hclose => rwa [if_pos hclose] at h
  next hclose =>
  rw [if_neg hclose] at h
  split
  · next hplace =>
    rw [if_pos hplace] at h
    obtain ⟨found, hfound, h⟩ := exists_ok_of_bind h
    have hname : before.head?.any Text.isNameChar = false := by simpa using hplace.2
    have hlonger := statement?_append hu (hfinished hplace.1 hname) hfound
    rw [← List.cons_append, hlonger]
    cases found with
    | none => exact h
    | some parts =>
      dsimp only [bind, Except.bind, Option.map_some] at h ⊢
      rw [List.length_append, List.length_append, Nat.add_sub_add_right]
      exact h
  · next hplace => rwa [if_neg hplace] at h

/-- Whether a scan gets to the end of a text, and is then outside of all braces and not in the
midst of a statement. -/
def endsOutside (file before : Text) (depth : Nat) : Text → Bool
  | [] => depth = 0
  | c :: t =>
    match step file before depth c t with
    | .error _ => false
    | .ok s =>
      !(depth = 0 && !before.head?.any Text.isNameChar && isUnfinished file (c :: t)) &&
        endsOutside file ((t.take s.further).reverse ++ c :: before) s.depth (t.drop s.further)
termination_by t => t.length
decreasing_by exact Text.length_drop_lt ..

/-- A scan finds what there is in a text, and then what there is in the rest. -/
theorem scan_append (hu : NextLine u) (ht : endsOutside file before depth t = true) :
    (scan file before depth t).stuck = none ∧
      scan file before depth (t ++ u) = {
        items := (scan file before depth t).items ++
          (scan file (t.reverse ++ before) 0 u).items
        stuck := (scan file (t.reverse ++ before) 0 u).stuck } := by
  fun_induction endsOutside file before depth t with
  | case1 before depth =>
    obtain rfl : depth = 0 := of_decide_eq_true ht
    rw [scan]
    exact ⟨rfl, rfl⟩
  | case2 => cases ht
  | case3 before depth c t s hs ih =>
    obtain ⟨hplace, hrest⟩ := Bool.and_eq_true_iff.1 ht
    obtain ⟨hstuck, hscan⟩ := ih hrest
    have hfinished (hdepth : depth = 0) (hbefore : before.head?.any Text.isNameChar = false) :
        isUnfinished file (c :: t) = false := by
      simpa [hdepth, hbefore] using hplace
    have hlength := further_le_of_step hs
    have hbefore : (t.drop s.further).reverse ++ ((t.take s.further).reverse ++ c :: before) =
        (c :: t).reverse ++ before := by
      rw [← List.append_assoc, ← List.reverse_append, List.take_append_drop, List.reverse_cons,
        List.append_assoc]
      rfl
    rw [hbefore] at hscan
    rw [List.cons_append, scan_of_step hs, scan_of_step (step_append hu hs hfinished),
      List.take_append_of_le_length hlength, List.drop_append_of_le_length hlength, hscan]
    refine ⟨hstuck, ?_⟩
    simp only [Scan.after, List.append_assoc]

end ShapeMapper.Declaration
