import ShapeMapper.Proofs.Declaration.Member
import ShapeMapper.Proofs.Declaration.Word

/-!
# Members on lines of their own

A member ends at a semicolon, at a comma, or at a line end, as long as it does not want to go on:
a line end is passed over after an operator that wants an operand, and before one
(`trimmedFrom_separated`). So members need no separators but the line ends between them:
`splitMembers_lines`.
-/

namespace ShapeMapper.Declaration

open Source

/-! ### Operands -/

/-- The operators after which a type goes on. -/
def operators : List Text :=
  ["|", "&", ":", "=>", "?", ","].map String.toList

/-- A text that is complete at its end: no operator and no word `extends` stands there. -/
structure IsComplete (t : Text) : Prop where
  not_operator : ∀ operator ∈ operators, ¬operator <:+ t
  not_extends : ∀ u, t = u ++ "extends".toList → ∃ c ∈ u.getLast?, Text.isNameChar c = true

/-- What stands before the word `extends` at the end of a text. -/
theorem head?_drop_extends (u : Text) :
    ((u ++ "extends".toList).reverse.drop 7).head? = u.getLast? := by
  rw [List.reverse_append]
  exact List.head?_reverse

theorem wantsOperand_eq_false {t : Text} (h : IsComplete t) : wantsOperand t = false := by
  have hoperator : ["|", "&", ":", "=>", "?", ","].any (fun s => Text.endsWith s.toList t) =
      false := by
    rw [List.any_eq_false]
    intro s hs
    simpa [Text.endsWith] using h.not_operator s.toList (List.mem_map_of_mem hs)
  have hextends : (Text.endsWith "extends".toList t &&
      !((t.reverse.drop 7).head?.any Text.isNameChar)) = false := by
    cases hends : Text.endsWith "extends".toList t with
    | false => rfl
    | true =>
      obtain ⟨u, rfl⟩ : "extends".toList <:+ t := List.isSuffixOf_iff_suffix.1 hends
      obtain ⟨c, hc, hname⟩ := h.not_extends u rfl
      rw [head?_drop_extends, hc]
      simp [hname]
  rw [wantsOperand, hoperator, hextends]
  rfl

theorem wantsOperand_of_suffix {operator t : Text} (hoperator : operator ∈ operators)
    (h : operator <:+ t) : wantsOperand t = true := by
  obtain ⟨s, hs, rfl⟩ := List.mem_map.1 hoperator
  have hany : ["|", "&", ":", "=>", "?", ","].any (fun s => Text.endsWith s.toList t) = true :=
    List.any_eq_true.2 ⟨s, hs, List.isSuffixOf_iff_suffix.2 h⟩
  rw [wantsOperand, hany, Bool.true_or]

theorem wantsOperand_extends {u : Text} (hu : ∀ c ∈ u.getLast?, Text.isNameChar c = false) :
    wantsOperand (u ++ "extends".toList) = true := by
  have hends : Text.endsWith "extends".toList (u ++ "extends".toList) = true :=
    List.isSuffixOf_iff_suffix.2 (List.suffix_append u _)
  have hword : u.getLast?.any Text.isNameChar = false := by
    cases hlast : u.getLast? with
    | none => rfl
    | some c => exact hu c hlast
  rw [wantsOperand, hends, head?_drop_extends, hword, Bool.not_false, Bool.and_self, Bool.or_true]

/-- What stands without a blank at the end of a text stands in its last part. -/
theorem suffix_of_suffix_append {w t u : Text} {b : Char} (hb : Text.isBlank b = true)
    (hw : ∀ c ∈ w, Text.isBlank c = false) (h : w <:+ u ++ b :: t) : w <:+ t := by
  have hmem : b ∉ w := fun hmem => by
    rw [hw b hmem] at hb
    cases hb
  rcases List.suffix_or_suffix_of_suffix h (List.suffix_append u (b :: t)) with hshort | hlong
  · rcases List.suffix_cons_iff.1 hshort with rfl | hsuffix
    · exact absurd List.mem_cons_self hmem
    · exact hsuffix
  · exact absurd (hlong.subset List.mem_cons_self) hmem

/-- A text is complete if what stands after a blank of it is. -/
theorem IsComplete.append {t : Text} (h : IsComplete t) (u : Text) {b : Char}
    (hb : Text.isBlank b = true) : IsComplete (u ++ b :: t) where
  not_operator operator hoperator hsuffix := by
    have hblank : ∀ operator ∈ operators, operator.all fun c => Text.isBlank c = false := by decide
    exact h.not_operator operator hoperator (suffix_of_suffix_append hb
      (Text.forall_mem_of_all (hblank operator hoperator)) hsuffix)
  not_extends v hv := by
    have hword : ∀ c ∈ "extends".toList, Text.isBlank c = false :=
      Text.forall_mem_of_all (by decide)
    obtain ⟨v', rfl⟩ := suffix_of_suffix_append hb hword ⟨v, hv.symm⟩
    obtain ⟨c, hc, hname⟩ := h.not_extends v' rfl
    have hsplit : v = u ++ b :: v' := by
      rw [← List.cons_append, ← List.append_assoc] at hv
      exact (List.append_cancel_right hv).symm
    refine ⟨c, ?_, hname⟩
    rw [hsplit, List.getLast?_append, List.getLast?_cons, Option.mem_def.1 hc]
    rfl

/-- A text is complete if its last character ends no operator. -/
theorem isComplete_concat {t : Text} {c : Char} (hc : c ∉ ['|', '&', ':', '?', ',', 's'])
    (harrow : c = '>' → t.getLast? ≠ some '=') : IsComplete (t ++ [c]) where
  not_operator operator hoperator hsuffix := by
    have hshape : ∀ operator ∈ operators, operator = ['='] ++ ['>'] ∨
        operator ∈ ['|', '&', ':', '?', ',', 's'].map fun d => [d] := by decide
    obtain ⟨u, hu⟩ := hsuffix
    rcases hshape operator hoperator with rfl | hsingle
    · rw [← List.append_assoc] at hu
      obtain ⟨rfl, hlast⟩ := List.append_inj' hu rfl
      exact harrow (List.singleton_inj.1 hlast).symm List.getLast?_concat
    · obtain ⟨d, hd, rfl⟩ := List.mem_map.1 hsingle
      obtain ⟨-, hlast⟩ := List.append_inj' hu rfl
      exact hc (by rwa [← List.singleton_inj.1 hlast])
  not_extends u hu := by
    have hlast : (u ++ "extends".toList).getLast? = some 's' := by
      rw [List.getLast?_append_of_ne_nil _ (by decide)]
      rfl
    rw [← hu, List.getLast?_concat] at hlast
    exact absurd (by rw [Option.some.inj hlast]; decide) hc

/-! ### Members that are split off -/

/-- Whether a character neither is a separator of members nor ends a line. -/
def isWithin (c : Char) : Prop := c ≠ ';' ∧ c ≠ ',' ∧ c ≠ '\n'

instance : DecidablePred isWithin := fun c =>
  inferInstanceAs (Decidable (c ≠ ';' ∧ c ≠ ',' ∧ c ≠ '\n'))

/-- A text that is one member where it stands on a line of its own. -/
structure IsLine (inner : Char → Prop) (t : Text) : Prop where
  bracketed : Bracketed inner isWithin t
  ne_nil : t ≠ []
  not_isBlank_head : ∀ c ∈ t.head?, Text.isBlank c = false
  not_isBlank_last : ∀ c ∈ t.getLast?, Text.isBlank c = false
  not_operator_head : ∀ c ∈ t.head?, c ∉ ['|', '&', '?', ':']
  isComplete : IsComplete t

variable {inner : Char → Prop} {pending before after t u : Text}

theorem IsLine.strip_eq (h : IsLine inner t) : Text.strip t = t :=
  Text.strip_of_not_isBlank h.not_isBlank_head h.not_isBlank_last

/-- Whether no operator stands where a text begins, apart from blanks. -/
def StartsFresh (t : Text) : Prop :=
  ∀ c ∈ (Text.trimStart t).head?, c ∉ ['|', '&', '?', ':']

theorem StartsFresh.blank_append (hb : ∀ c ∈ before, Text.isBlank c = true)
    (h : StartsFresh t) : StartsFresh (before ++ t) := by
  rwa [StartsFresh, Text.trimStart_append hb]

theorem startsFresh_cons {c : Char} (hblank : Text.isBlank c = false)
    (h : c ∉ ['|', '&', '?', ':']) (t : Text) : StartsFresh (c :: t) := by
  have htrim : Text.trimStart (c :: t) = c :: t := Text.trimStart_eq_self <| by
    rintro d ⟨⟩
    exact hblank
  rw [StartsFresh, htrim]
  rintro d ⟨⟩
  exact h

theorem startsFresh_append (hne : t ≠ []) (hblank : ∀ c ∈ t.head?, Text.isBlank c = false)
    (h : ∀ c ∈ t.head?, c ∉ ['|', '&', '?', ':']) (u : Text) : StartsFresh (t ++ u) := by
  obtain ⟨c, t, rfl⟩ := List.exists_cons_of_ne_nil hne
  exact startsFresh_cons (hblank c rfl) (h c rfl) (t ++ u)

/-- No type goes on in a text that starts fresh. -/
theorem StartsFresh.goesOn_eq (h : StartsFresh t) : goesOn (Cut.ofText t).pieces = false := by
  unfold goesOn
  split
  · next c rest hc =>
    -- what begins the pieces begins the text
    have hpieces : Text.trimStart (textOf (Cut.ofText t).pieces) = c :: rest := hc
    have htext := Text.trimStart_append_of_ne_nil (by rw [hpieces]; exact List.cons_ne_nil c rest)
      (Cut.ofText t).torn
    rw [Cut.textOf_ofText, hpieces] at htext
    simpa using h c (by rw [htext]; rfl)
  · rfl

/-- The members of a text, where `pending` has been read before it. -/
def trimmedFrom (pending t : Text) : List Text :=
  ((splitFrom pending 0 (Cut.ofText t).pieces).map Text.strip).filter (· ≠ [])

theorem splitMembers_eq (t : Text) : splitMembers (Cut.ofText t).pieces = trimmedFrom [] t := rfl

theorem trimmedFrom_nil (pending : Text) :
    trimmedFrom pending [] = [Text.strip pending].filter (· ≠ []) := by
  simp [trimmedFrom, Cut.ofText, splitFrom]

/-- The blanks before a member do not matter. -/
theorem trimmedFrom_blank_append (hb : ∀ c ∈ before, Text.isBlank c = true) (pending t : Text) :
    trimmedFrom (before ++ pending) t = trimmedFrom pending t := by
  suffices ∀ (pieces : List Piece) (depth : Int) (pending : Text),
      (splitFrom (before ++ pending) depth pieces).map Text.strip =
        (splitFrom pending depth pieces).map Text.strip by
    rw [trimmedFrom, this, trimmedFrom]
  intro pieces
  induction pieces with
  | nil => exact fun _ pending => by simp [splitFrom, Text.strip_blank_append pending hb]
  | cons piece pieces ih =>
    intro depth pending
    have hseparates : separates (before ++ pending) piece pieces =
        separates pending piece pieces := by
      simp only [separates, endsMember, Text.strip_blank_append pending hb]
    simp only [splitFrom, hseparates]
    split
    · rw [List.map_cons, List.map_cons, Text.strip_blank_append pending hb]
    · rw [List.append_assoc, ih]

/-- A text without separators is read to its end. -/
theorem trimmedFrom_append (h : Bracketed inner isWithin t) (pending u : Text) :
    trimmedFrom pending (t ++ u) = trimmedFrom (pending ++ t) u := by
  rw [trimmedFrom, h.ofText_append, splitFrom_append h (Int.le_refl 0) fun _ c hc => hc]
  rfl

theorem trimmedFrom_cons {c : Char} (hc : IsPlain c) (pending t : Text) :
    trimmedFrom pending (c :: t) =
      if separates pending (.char c) (Cut.ofText t).pieces = true then
        [Text.strip pending].filter (· ≠ []) ++ trimmedFrom [] t
      else trimmedFrom (pending ++ [c]) t := by
  rw [trimmedFrom, ofText_char hc.isQuote_eq hc.ne_equals, Cut.pieces_cons, splitFrom,
    bracketDepth_of_isPlain hc]
  split
  · next h => rw [if_pos h.2, List.map_cons, List.filter_cons]; split <;> simp_all [trimmedFrom]
  · next h => rw [if_neg fun hseparates => h ⟨rfl, hseparates⟩]; rfl

/-! ### Between members -/

/-- Whether a character stands between members only: a blank or a separator. -/
def IsFiller (c : Char) : Prop :=
  Text.isBlank c = true ∨ c = ';' ∨ c = ','

theorem IsFiller.isPlain {c : Char} (h : IsFiller c) : IsPlain c := by
  rcases h with h | rfl | rfl
  · exact isPlain_of_isBlank h
  · decide
  · decide

theorem bracketed_of_isFiller (hu : ∀ c ∈ u, IsFiller c) : Bracketed inner (fun _ => True) u :=
  .of_forall fun c hc => ⟨(hu c hc).isPlain, trivial⟩

theorem isFiller_newline : ∀ c ∈ ['\n'], IsFiller c :=
  List.forall_mem_singleton.2 (.inl (by decide))

/-- Without a member before it, what stands between members is passed over. -/
theorem trimmedFrom_blank_filler (hpending : ∀ c ∈ pending, Text.isBlank c = true)
    (hu : ∀ c ∈ u, IsFiller c) (t : Text) : trimmedFrom pending (u ++ t) = trimmedFrom [] t := by
  induction u generalizing pending with
  | nil =>
    have hblank := trimmedFrom_blank_append hpending [] t
    rwa [List.append_nil] at hblank
  | cons c u ih =>
    have hrest : ∀ d ∈ u, IsFiller d := fun d hd => hu d (List.mem_cons_of_mem c hd)
    have hc := hu c List.mem_cons_self
    have hnil : Text.strip pending = [] := Text.strip_eq_nil hpending
    rw [List.cons_append, trimmedFrom_cons hc.isPlain]
    split
    · rw [hnil, ih (by simp) hrest]
      rfl
    · next hseparates =>
      -- what separates nothing is a blank
      refine ih (fun d hd => ?_) hrest
      rcases List.mem_append.1 hd with hd | hd
      · exact hpending d hd
      · rw [List.mem_singleton.1 hd]
        rcases hc with hc | rfl | rfl
        · exact hc
        · exact absurd rfl hseparates
        · exact absurd rfl hseparates

theorem trimmedFrom_filler (hu : ∀ c ∈ u, IsFiller c) (t : Text) :
    trimmedFrom [] (u ++ t) = trimmedFrom [] t :=
  trimmedFrom_blank_filler (List.forall_mem_nil _) hu t

/-- Whether a character ends the member before it. -/
def IsMark (c : Char) : Prop :=
  c = ';' ∨ c = ',' ∨ c = '\n'

theorem separates_of_isMark {c : Char} (hc : IsMark c) (hne : t ≠ [])
    (hpending : Text.strip pending = t) (ht : IsComplete t) (hu : StartsFresh u) :
    separates pending (.char c) (Cut.ofText u).pieces = true := by
  rcases hc with rfl | rfl | rfl
  · rfl
  · rfl
  · simp [separates, endsMember, hpending, hne, wantsOperand_eq_false ht, hu.goesOn_eq]

theorem StartsFresh.filler_append (hu : ∀ c ∈ u, IsFiller c) (h : StartsFresh t) :
    StartsFresh (u ++ t) := by
  induction u with
  | nil => exact h
  | cons c u ih =>
    have hrest := ih fun d hd => hu d (List.mem_cons_of_mem c hd)
    rcases hu c List.mem_cons_self with hc | rfl | rfl
    · have hblank : ∀ d ∈ [c], Text.isBlank d = true := List.forall_mem_singleton.2 hc
      exact (hrest.blank_append hblank : StartsFresh ([c] ++ (u ++ t)))
    · exact startsFresh_cons (by decide) (by decide) (u ++ t)
    · exact startsFresh_cons (by decide) (by decide) (u ++ t)

/-- A complete member ends where the first separator stands after it. -/
theorem trimmedFrom_separated (hne : t ≠ []) (hpending : Text.strip pending = t)
    (ht : IsComplete t) (hafter : ∀ c ∈ after, IsFiller c) (hmark : ∃ c ∈ after, IsMark c)
    (hu : StartsFresh u) : trimmedFrom pending (after ++ u) = t :: trimmedFrom [] u := by
  induction after generalizing pending with
  | nil => simp at hmark
  | cons c after ih =>
    have hrest : ∀ d ∈ after, IsFiller d := fun d hd => hafter d (List.mem_cons_of_mem c hd)
    have hc := hafter c List.mem_cons_self
    rw [List.cons_append, trimmedFrom_cons hc.isPlain]
    split
    · rw [hpending, trimmedFrom_filler hrest, List.filter_cons_of_pos (by simpa using hne)]
      rfl
    · next hseparates =>
      have hnot : ¬IsMark c := fun hmark => hseparates
        (separates_of_isMark hmark hne hpending ht (hu.filler_append hrest))
      have hblank : Text.isBlank c = true :=
        hc.resolve_right fun hc => hnot (hc.imp_right .inl)
      refine ih ?_ hrest ?_
      · rwa [Text.strip_append_blank pending (List.forall_mem_singleton.2 hblank)]
      · obtain ⟨d, hd, hmark⟩ := hmark
        rcases List.mem_cons.1 hd with rfl | hd
        · exact absurd hmark hnot
        · exact ⟨d, hd, hmark⟩

/-- A complete member ends with its text, whether a separator stands there or not. -/
theorem trimmedFrom_ended (hne : t ≠ []) (hpending : Text.strip pending = t)
    (ht : IsComplete t) (hafter : ∀ c ∈ after, IsFiller c) : trimmedFrom pending after = [t] := by
  by_cases hmark : ∃ c ∈ after, IsMark c
  · have hseparated := trimmedFrom_separated (u := []) hne hpending ht hafter hmark
      (by simp [StartsFresh, Text.trimStart])
    rw [List.append_nil] at hseparated
    rw [hseparated, trimmedFrom_nil]
    rfl
  · have hblank : ∀ c ∈ after, Text.isBlank c = true := fun c hc =>
      (hafter c hc).resolve_right fun h => hmark ⟨c, hc, h.imp_right .inl⟩
    have hwithin : Bracketed (fun _ => True) isWithin after :=
      .of_forall fun c hc => ⟨isPlain_of_isBlank (hblank c hc), fun h => hmark ⟨c, hc, .inl h⟩,
        fun h => hmark ⟨c, hc, .inr (.inl h)⟩, fun h => hmark ⟨c, hc, .inr (.inr h)⟩⟩
    have hread := trimmedFrom_append hwithin pending []
    rw [List.append_nil] at hread
    rw [hread, trimmedFrom_nil, Text.strip_append_blank pending hblank, hpending,
      List.filter_cons_of_pos (by simpa using hne)]
    rfl

namespace IsLine

theorem startsFresh_append (h : IsLine inner t) (u : Text) : StartsFresh (t ++ u) :=
  Declaration.startsFresh_append h.ne_nil h.not_isBlank_head h.not_operator_head u

/-- A member on a line is split off before a separator. -/
theorem trimmedFrom_append (h : IsLine inner t) (hbefore : ∀ c ∈ before, IsFiller c)
    (hafter : ∀ c ∈ after, IsFiller c) (hmark : ∃ c ∈ after, IsMark c) (hu : StartsFresh u) :
    trimmedFrom [] (before ++ (t ++ (after ++ u))) = t :: trimmedFrom [] u := by
  rw [trimmedFrom_filler hbefore, Declaration.trimmedFrom_append h.bracketed,
    List.nil_append, trimmedFrom_separated h.ne_nil h.strip_eq h.isComplete hafter hmark hu]

/-- The last member needs no separator. -/
theorem trimmedFrom_last (h : IsLine inner t) (hbefore : ∀ c ∈ before, IsFiller c)
    (hafter : ∀ c ∈ after, IsFiller c) : trimmedFrom [] (before ++ (t ++ after)) = [t] := by
  rw [trimmedFrom_filler hbefore, Declaration.trimmedFrom_append h.bracketed, List.nil_append,
    trimmedFrom_ended h.ne_nil h.strip_eq h.isComplete hafter]

theorem trimmedFrom_eq (h : IsLine inner t) : trimmedFrom [] t = [t] := by
  have hlast := h.trimmedFrom_last (List.forall_mem_nil _) (List.forall_mem_nil _)
  rwa [List.nil_append, List.append_nil] at hlast

end IsLine

/-! ### Lines -/

variable {indent : Nat}

/-- Lines with the same spaces in front of them. -/
def linesOf (indent : Nat) (ts : List Text) : Text :=
  ts.flatMap fun t => List.replicate indent ' ' ++ t ++ ['\n']

theorem linesOf_cons (t : Text) (ts : List Text) :
    linesOf indent (t :: ts) =
      List.replicate indent ' ' ++ (t ++ (['\n'] ++ linesOf indent ts)) := by
  simp [linesOf]

theorem isBlank_of_mem_indent : ∀ c ∈ List.replicate indent ' ', Text.isBlank c = true := by
  intro c hc
  rw [List.eq_of_mem_replicate hc]
  decide

theorem bracketed_linesOf {ts : List Text} (h : ∀ t ∈ ts, IsLine inner t) :
    Bracketed inner (fun _ => True) (linesOf indent ts) := by
  have hindent : ∀ c ∈ List.replicate indent ' ', IsFiller c := fun c hc =>
    .inl (isBlank_of_mem_indent c hc)
  exact .flatMap fun t ht => ((bracketed_of_isFiller hindent).append
    ((h t ht).bracketed.mono fun _ _ => trivial)).append (bracketed_of_isFiller isFiller_newline)

/-- No line goes on with the next one. -/
theorem startsFresh_linesOf {ts : List Text} (h : ∀ t ∈ ts, IsLine inner t) :
    StartsFresh (linesOf indent ts) := by
  cases ts with
  | nil => simp [linesOf, StartsFresh, Text.trimStart]
  | cons t ts =>
    rw [linesOf_cons]
    exact ((h t List.mem_cons_self).startsFresh_append _).blank_append isBlank_of_mem_indent

/-- Lines are split into what stands on them. -/
theorem trimmedFrom_linesOf {ts : List Text} (h : ∀ t ∈ ts, IsLine inner t) :
    trimmedFrom [] (linesOf indent ts) = ts := by
  induction ts with
  | nil => exact trimmedFrom_nil []
  | cons t ts ih =>
    have hts : ∀ t ∈ ts, IsLine inner t := fun u hu => h u (List.mem_cons_of_mem t hu)
    rw [linesOf_cons, (h t List.mem_cons_self).trimmedFrom_append
      (fun c hc => .inl (isBlank_of_mem_indent c hc)) isFiller_newline
      ⟨'\n', by simp, .inr (.inr rfl)⟩ (startsFresh_linesOf hts), ih hts]

/-- Members on lines of their own are split into the members. -/
theorem splitMembers_lines {ts : List Text} (h : ∀ t ∈ ts, IsLine inner t) :
    splitMembers (Cut.ofText ('\n' :: linesOf indent ts)).pieces = ts := by
  rw [splitMembers_eq, ← List.singleton_append, trimmedFrom_filler isFiller_newline,
    trimmedFrom_linesOf h]

/-- A body of lines has a member for each of them. -/
theorem members_lines {ts : List Text} (h : ∀ t ∈ ts, IsLine inner t) :
    members ('\n' :: linesOf indent ts) = .ok (ts.map Member.ofText) := by
  have htorn : (Cut.ofText ('\n' :: linesOf indent ts)).torn = [] := by
    rw [ofText_char (by decide) (by decide)]
    exact (bracketed_linesOf h).torn_ofText
  simp only [members, htorn, if_true, splitMembers_lines h]

end ShapeMapper.Declaration
