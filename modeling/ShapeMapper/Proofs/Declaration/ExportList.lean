import ShapeMapper.Proofs.Declaration.Scan
import ShapeMapper.Proofs.Text.Infix

/-!
# Export lists of a written file

Export lists are looked for at every character of a file. In a file of quiet items they begin
at the export lists among the items only (`exportEntries_item_append`), and each is read as its
bindings (`entries_listed`). So the entries of a file are the bindings of its items:
`exportEntries_print`.
-/

namespace ShapeMapper.Written

open Source Declaration

variable {t u : Text}

/-! ### Heads of export lists -/

theorem exists_gap_of_afterWord? {word : Text} (h : afterWord? word t = some u) :
    ∃ gap, IsGap gap ∧ t = word ++ (gap ++ u) := by
  unfold afterWord? at h
  split at h
  · next c rest hafter =>
    rw [Text.after?_eq_some_iff] at hafter
    split at h
    · next hc =>
      cases h
      refine ⟨c :: rest.takeWhile Text.isBlank, ⟨by simp, ?_⟩, ?_⟩
      · intro d hd
        rcases List.mem_cons.1 hd with rfl | hd
        · exact hc
        · exact List.mem_takeWhile_imp hd
      · rw [hafter, List.cons_append, Text.trimStart, List.takeWhile_append_dropWhile]
    · cases h
  · cases h

/-- Where no export list begins, none is read. -/
theorem exportList?_eq_none (h : ∀ head, ListHead head → ¬head <+: t) : exportList? t = none := by
  cases hexport : afterWord? "export".toList t with
  | none => simp only [exportList?, hexport, Option.bind_eq_bind, Option.bind_none]
  | some u =>
    obtain ⟨gap, hgap, rfl⟩ := exists_gap_of_afterWord? hexport
    have hbrace : Text.after? ['{'] (optionalWord "type".toList u).2 = none := by
      rw [Option.eq_none_iff_forall_ne_some]
      intro v hv
      rw [Text.after?_eq_some_iff] at hv
      cases htype : afterWord? "type".toList u with
      | none =>
        rw [optionalWord_of_none htype] at hv
        obtain rfl : u = '{' :: v := hv
        exact h _ (.plain hgap) ⟨v, by simp⟩
      | some w =>
        obtain ⟨gap', hgap', rfl⟩ := exists_gap_of_afterWord? htype
        rw [optionalWord, htype] at hv
        obtain rfl : w = '{' :: v := hv
        exact h _ (.typeOnly hgap hgap') ⟨v, by simp⟩
    simp only [exportList?, hexport, hbrace, Option.bind_eq_bind, Option.bind_some,
      Option.bind_none]

theorem exportEntries_cons (c : Char) (t : Text) :
    exportEntries (c :: t) =
      ((exportList? (c :: t)).elim [] fun names =>
        (names.splitOn ',').filterMap ExportEntry.ofText?) ++ exportEntries t := by
  rw [exportEntries]
  cases exportList? (c :: t) <;> rfl

/-- A text in which no list begins has no entries. -/
theorem exportEntries_append (h : ∀ c q, c :: q <:+ t → exportList? (c :: q ++ u) = none) :
    exportEntries (t ++ u) = exportEntries u := by
  induction t with
  | nil => rfl
  | cons c t ih =>
    have hc : exportList? (c :: (t ++ u)) = none := h c t List.suffix_rfl
    rw [List.cons_append, exportEntries_cons, hc,
      ih fun d q hq => h d q (hq.trans (List.suffix_cons c t))]
    rfl

/-! ### Line ends -/

/-- A line end in front of some blanks or among them. -/
theorem exists_blanks_of_newline {gap q x : Text} (hgap : IsGap gap)
    (h : gap ++ t = q ++ '\n' :: x) :
    (∃ blanks : Text, (∀ c ∈ blanks, Text.isBlank c = true) ∧ x = blanks ++ t) ∨
      ∃ a, t = a ++ '\n' :: x := by
  rcases List.append_eq_append_iff.1 h with ⟨a, -, ht⟩ | ⟨c, hc, hx⟩
  · exact .inr ⟨a, ht⟩
  · cases c with
    | nil => exact .inr ⟨[], hx.symm⟩
    | cons d c =>
      refine .inl ⟨c, fun e he => hgap.2 e ?_, (List.cons.inj hx).2⟩
      rw [hc]
      simp [he]

/-- What follows a line end in the head of an export list. -/
theorem ListHead.after_newline {q x : Text} (h : ListHead (q ++ '\n' :: x)) :
    ∃ blanks : Text, (∀ c ∈ blanks, Text.isBlank c = true) ∧ (x = blanks ++ ['{'] ∨
      ∃ gap, IsGap gap ∧ x = blanks ++ ("type".toList ++ (gap ++ ['{']))) := by
  have hbrace {a : Text} : ['{'] ≠ a ++ '\n' :: x := by
    intro ha
    have hmem : '\n' ∈ ['{'] := by rw [ha]; simp
    exact absurd hmem (by decide)
  generalize hhead : q ++ '\n' :: x = head at h
  cases h with
  | @plain gap hgap =>
    -- the line end stands behind the word, so it is one of the blanks
    obtain ⟨a, ha⟩ := Text.exists_append_of_notMem (by decide) hhead.symm
    rcases exists_blanks_of_newline hgap ha with ⟨blanks, hblanks, hx⟩ | ⟨b, hb⟩
    · exact ⟨blanks, hblanks, .inl hx⟩
    · exact absurd hb hbrace
  | @typeOnly gap gap' hgap hgap' =>
    obtain ⟨a, ha⟩ := Text.exists_append_of_notMem (by decide) hhead.symm
    rcases exists_blanks_of_newline hgap ha with ⟨blanks, hblanks, hx⟩ | ⟨b, hb⟩
    · exact ⟨blanks, hblanks, .inr ⟨gap', hgap', hx⟩⟩
    · obtain ⟨d, hd⟩ := Text.exists_append_of_notMem (by decide) hb
      rcases exists_blanks_of_newline hgap' hd with ⟨blanks, hblanks, hx⟩ | ⟨e, he⟩
      · exact ⟨blanks, hblanks, .inl hx⟩
      · exact absurd he hbrace

/-! ### Where no list begins -/

theorem Name.not_gap_brace (n : Name) {gap : Text} (hgap : IsGap gap) :
    ¬gap ++ ['{'] <+: ' ' :: (n.text ++ t) := by
  have hfirst := Text.isNameChar_of_isNameStart n.isNameStart_first
  obtain ⟨hne, hblank⟩ := hgap
  obtain ⟨c, gap, rfl⟩ := List.exists_cons_of_ne_nil hne
  intro hstart
  have hrest := (List.cons_prefix_cons.1 hstart).2
  cases gap with
  | nil =>
    have hbrace := (List.cons_prefix_cons.1 hrest).1
    exact ne_of_isNameChar hfirst (by decide) hbrace.symm
  | cons d gap =>
    obtain rfl : d = n.first := (List.cons_prefix_cons.1 hrest).1
    have hd := hblank n.first (by simp)
    rw [Text.not_isBlank_of_isNameChar hfirst] at hd
    cases hd

/-- The word `type` in front of a name is not the one of an export list. -/
theorem not_type_brace_plainHead (modifier : Export) (ambient : Bool) (form : Form) (n : Name)
    {gap : Text} (hgap : IsGap gap) :
    ¬"type".toList ++ (gap ++ ['{']) <+: modifier.text ++ plainHead ambient form (n.text ++ t) := by
  have hhead {c : Char} {u : Text} (hc : 't' ≠ c) :
      ¬"type".toList ++ (gap ++ ['{']) <+: c :: u := fun h => hc (List.cons_prefix_cons.1 h).1
  cases modifier with
  | plain => exact hhead (by decide)
  | default => exact hhead (by decide)
  | unexported =>
    cases ambient with
    | true => exact hhead (by decide)
    | false =>
      cases form
      · exact hhead (by decide)
      · intro h
        exact n.not_gap_brace hgap ((List.prefix_append_right_inj "type".toList).1 h)

theorem Name.after?_brace (n : Name) (t : Text) : Text.after? ['{'] (n.text ++ t) = none := by
  have hfirst := Text.isNameChar_of_isNameStart n.isNameStart_first
  have hbrace : '{' ≠ n.first := (ne_of_isNameChar hfirst (by decide)).symm
  rw [Name.text, List.cons_append]
  exact if_neg hbrace

/-- No list opens where a declaration goes on after the word `export`. -/
theorem after?_brace_plainHead (ambient : Bool) (form : Form) (n : Name) :
    Text.after? ['{'] (optionalWord "type".toList (plainHead ambient form (n.text ++ t))).2 =
      none := by
  cases ambient with
  | true => rfl
  | false =>
    cases form
    · rfl
    · have hread : optionalWord "type".toList (plainHead false .alias (n.text ++ t)) =
          (true, n.text ++ t) := optionalWord_append _ (n.not_isBlank_head t)
      rw [hread]
      exact n.after?_brace t

theorem exportList?_plainHead (modifier : Export) (ambient : Bool) (form : Form) (n : Name) :
    exportList? (modifier.text ++ plainHead ambient form (n.text ++ t)) = none := by
  have hblank := not_isBlank_head_plainHead ambient form (n.text ++ t)
  cases modifier with
  | unexported =>
    have hexport : afterWord? "export".toList (plainHead ambient form (n.text ++ t)) = none := by
      cases ambient <;> cases form <;> rfl
    show exportList? (plainHead ambient form (n.text ++ t)) = none
    simp only [exportList?, hexport, Option.bind_eq_bind, Option.bind_none]
  | plain =>
    have hexport : afterWord? "export".toList
        (Export.plain.text ++ plainHead ambient form (n.text ++ t)) =
          some (plainHead ambient form (n.text ++ t)) := afterWord?_append _ hblank
    simp only [exportList?, hexport, after?_brace_plainHead, Option.bind_eq_bind,
      Option.bind_some, Option.bind_none]
  | default =>
    have hexport : afterWord? "export".toList
        (Export.default.text ++ plainHead ambient form (n.text ++ t)) =
          some ("default ".toList ++ plainHead ambient form (n.text ++ t)) :=
      afterWord?_append _ fun c hc => Option.some.inj hc ▸ rfl
    have hbrace : Text.after? ['{']
        (optionalWord "type".toList
          ("default ".toList ++ plainHead ambient form (n.text ++ t))).2 = none := rfl
    simp only [exportList?, hexport, hbrace, Option.bind_eq_bind, Option.bind_some,
      Option.bind_none]

/-! ### Items -/

/-- What is read of an export list is what stands in its braces, unless it is exported from another
file. -/
theorem exportList?_braces {gap inner : Text} (hgap : IsGap gap)
    (hinner : ∀ c ∈ inner, c ≠ '{' ∧ c ≠ '}') (u : Text) :
    exportList? ("export".toList ++ (gap ++ '{' :: (inner ++ '}' :: u))) =
      if beginsWithFrom u then none else some inner := by
  have hblank : ∀ c ∈ ('{' :: (inner ++ '}' :: u)).head?, Text.isBlank c = false :=
    fun c hc => Option.some.inj hc ▸ rfl
  have hexport := afterWord?_gap "export".toList hgap hblank
  have htype (v : Text) : optionalWord "type".toList ('{' :: v) = (false, '{' :: v) := rfl
  have hbrace (v : Text) : Text.after? ['{'] ('{' :: v) = some v := Text.after?_eq_some_iff.2 rfl
  have hinside : ∀ c ∈ inner, (!(c = '{' || c = '}')) = true := fun c hc => by
    simp [(hinner c hc).1, (hinner c hc).2]
  have hclosing : (!('}' = '{' || '}' = '}')) = false := rfl
  obtain ⟨htake, hdrop⟩ := Text.takeWhile_append_cons hinside hclosing u
  simp only [exportList?, hexport, htype, hbrace, Option.bind_eq_bind, Option.bind_some, htake,
    hdrop]

theorem exportList?_braced (bindings : List Binding) (items : List Item) :
    exportList? ("export ".toList ++ braced 1 bindings ++ '\n' :: print items) =
      some (' ' :: (listed bindings ++ [' '])) := by
  have hinner : ∀ c ∈ ' ' :: (listed bindings ++ [' ']), c ≠ '{' ∧ c ≠ '}' := by
    intro c hc
    have hordinary := isOrdinary_of_mem_listed c hc
    exact ⟨hordinary.ne_open, hordinary.ne_close⟩
  have hfrom : beginsWithFrom ('\n' :: print items) = false := by
    have hheads : ∀ c ∈ ['i', 'e', 'd', 't'], 'f' ≠ c := Text.forall_mem_of_all (by decide)
    have hafter : Text.after? "from".toList (print items) = none := by
      cases h : print items with
      | nil => rfl
      | cons c t =>
        have hc := hheads c (mem_of_mem_head?_print (by rw [h]; rfl))
        simp [Text.after?, hc]
    rw [beginsWithFrom, trimStart_print, hafter]
  have hread := exportList?_braces ⟨List.cons_ne_nil ' ' [], Text.isBlank_of_mem_space⟩ hinner
    ('\n' :: print items)
  rw [hfrom, if_neg Bool.false_ne_true] at hread
  rw [exports_append]
  exact hread

/-! ### Entries -/

/-- The entry that a binding is in an export list. -/
def Binding.entry (b : Binding) : ExportEntry where
  name := b.name.text
  asDefault := b.isDefault

theorem Name.strip_text (n : Name) {b b' : Text} (hb : ∀ c ∈ b, Text.isBlank c = true)
    (hb' : ∀ c ∈ b', Text.isBlank c = true) : Text.strip (b ++ n.text ++ b') = n.text := by
  have hblank : ∀ c ∈ n.text, Text.isBlank c = false := fun c hc =>
    Text.not_isBlank_of_isNameChar (Name.isNameChar_of_mem hc)
  refine Text.strip_append hb hb' (List.cons_ne_nil _ _) ?_ ?_
  · exact fun c hc => hblank c (List.mem_of_mem_head? hc)
  · exact fun c hc => hblank c (List.mem_of_mem_getLast? hc)

/-- A text that begins with the word `as` is cut there. -/
theorem cut?_as_append (t : Text) :
    Text.cut? " as ".toList (" as ".toList ++ t) = some ([], t) := by
  have hafter : Text.after? " as ".toList (' ' :: ("as ".toList ++ t)) = some t :=
    Text.after?_eq_some_iff.2 rfl
  show Text.cut? " as ".toList (' ' :: ("as ".toList ++ t)) = _
  rw [Text.cut?, hafter]

/-- A text of blanks is not cut. -/
theorem cut?_as_blanks {blanks : Text} (h : ∀ c ∈ blanks, Text.isBlank c = true) :
    Text.cut? " as ".toList blanks = none := by
  rw [Option.eq_none_iff_forall_ne_some]
  rintro ⟨before, rest⟩ hcut
  have hblank := h 'a' (by rw [Text.eq_append_of_cut? hcut]; simp)
  exact absurd hblank (by decide)

/-- A text with a name after some blanks is cut at that if it is the word `as` with a space on both
sides, and else behind it. -/
theorem Name.cut?_blanks_append (n : Name) {blanks : Text}
    (hblanks : ∀ c ∈ blanks, Text.isBlank c = true)
    (ht : ∀ c ∈ t.head?, Text.isNameChar c = false) :
    Text.cut? " as ".toList (blanks ++ (n.text ++ t)) =
      if n.text = "as".toList ∧ blanks.getLast? = some ' ' ∧ t.head? = some ' ' then
        some (blanks.dropLast, t.tail)
      else (Text.cut? " as ".toList t).map fun (before, rest) =>
        (blanks ++ (n.text ++ before), rest) := by
  have hname {w : Text} (hw : ∀ c ∈ w, Text.isNameChar c = true) :
      Text.cut? " as ".toList (w ++ t) =
        (Text.cut? " as ".toList t).map fun (before, rest) => (w ++ before, rest) := by
    induction w with
    | nil => simp
    | cons c w ih =>
      have hspace : ' ' ≠ c :=
        (ne_of_isNameChar (hw c List.mem_cons_self) (by decide)).symm
      have hnone : Text.after? " as ".toList (c :: (w ++ t)) = none := if_neg hspace
      rw [List.cons_append, Text.cut?, hnone, ih fun d hd => hw d (List.mem_cons_of_mem c hd),
        Option.map_map]
      rfl
  induction blanks with
  | nil => simpa using hname fun c => Name.isNameChar_of_mem
  | cons c blanks ih =>
    rw [List.cons_append, Text.cut?]
    cases blanks with
    | nil =>
      split
      · next rest hafter =>
        rw [Text.after?_eq_some_iff] at hafter
        have htext : c :: (n.text ++ t) = ' ' :: ("as".toList ++ ' ' :: rest) := hafter
        obtain ⟨hc, hrest⟩ := List.cons.inj htext
        have hspace : ∀ c ∈ (' ' :: rest).head?, Text.isNameChar c = false :=
          fun c hc => Option.some.inj hc ▸ rfl
        obtain ⟨hword, htail⟩ := Text.append_inj_of_isNameChar (fun c => Name.isNameChar_of_mem)
          (Text.forall_mem_of_all (by decide)) ht hspace hrest
        rw [if_pos ⟨hword, congrArg some hc, congrArg List.head? htail⟩, htail]
        rfl
      · next hafter =>
        rw [if_neg, List.nil_append, hname fun c => Name.isNameChar_of_mem, Option.map_map]
        · rfl
        · rintro ⟨hword, hlast, hhead⟩
          obtain ⟨t, rfl⟩ := List.head?_eq_some_iff.1 hhead
          obtain rfl : c = ' ' := Option.some.inj hlast
          have hsome :
              Text.after? " as ".toList (' ' :: ([] ++ (n.text ++ ' ' :: t))) = some t := by
            rw [hword]
            exact Text.after?_eq_some_iff.2 rfl
          rw [hafter] at hsome
          cases hsome
    | cons d blanks =>
      have hd : 'a' ≠ d := (ne_of_isBlank (hblanks d (by simp)) (by decide)).symm
      have hnone : Text.after? " as ".toList (c :: (d :: blanks ++ (n.text ++ t))) = none := by
        simp [Text.after?, hd]
      rw [hnone, ih fun e he => hblanks e (List.mem_cons_of_mem c he), List.getLast?_cons_cons,
        List.dropLast_cons_cons]
      dsimp only
      split
      · rfl
      · rw [Option.map_map]
        rfl

/-- A name other than `as` is not taken for that word. -/
theorem Name.cut?_append (n : Name) (hn : n.text ≠ "as".toList)
    (ht : ∀ c ∈ t.head?, Text.isNameChar c = false) :
    Text.cut? " as ".toList (' ' :: (n.text ++ t)) =
      (Text.cut? " as ".toList t).map fun (before, rest) => (' ' :: (n.text ++ before), rest) :=
  (n.cut?_blanks_append Text.isBlank_of_mem_space ht).trans (if_neg fun h => hn h.1)

theorem Name.after?_type (n : Name) : Text.after? "type ".toList n.text = none := by
  rw [Option.eq_none_iff_forall_ne_some]
  intro rest hrest
  rw [Text.after?_eq_some_iff] at hrest
  have hspace : ' ' ∈ n.text := by rw [hrest]; simp
  exact absurd (Name.isNameChar_of_mem hspace) (by decide)

/-- A name alone is read as its own entry. -/
theorem Name.ofText?_append (n : Name) (hn : n.text ≠ "as".toList) {blanks : Text}
    (hblanks : blanks = [] ∨ blanks = [' ']) :
    ExportEntry.ofText? (' ' :: (n.text ++ blanks)) =
      some { name := n.text, asDefault := false } := by
  have hcut : Text.cut? " as ".toList blanks = none := by
    rcases hblanks with rfl | rfl <;> rfl
  have hblank : ∀ c ∈ blanks, Text.isBlank c = true := by
    rcases hblanks with rfl | rfl <;> exact Text.forall_mem_of_all (by decide)
  have hhead : ∀ c ∈ blanks.head?, Text.isNameChar c = false := fun c hc =>
    Text.not_isNameChar_of_isBlank (hblank c (List.mem_of_mem_head? hc))
  have hne : n.text ≠ [] := List.cons_ne_nil _ _
  have hparts : Text.cut? " as ".toList (' ' :: (n.text ++ blanks)) = none := by
    rw [n.cut?_append hn hhead, hcut]
    rfl
  have hstrip : Text.strip (' ' :: (n.text ++ blanks)) = n.text :=
    n.strip_text (Text.forall_mem_of_all (t := [' ']) (by decide)) hblank
  simp only [ExportEntry.ofText?, hparts, Option.getD_none, hstrip, n.after?_type,
    Option.elim_none]
  rw [if_neg hne]
  rfl

/-- A name under another one is the default if that is the word `default`. -/
theorem Name.ofText?_as_append (n target : Name) (hn : n.text ≠ "as".toList) {blanks : Text}
    (hblanks : ∀ c ∈ blanks, Text.isBlank c = true) :
    ExportEntry.ofText? (' ' :: (n.text ++ (" as ".toList ++ (target.text ++ blanks)))) =
      some { name := n.text, asDefault := target.text = "default".toList } := by
  have hne : n.text ≠ [] := List.cons_ne_nil _ _
  have hnone : ∀ c ∈ ([] : Text), Text.isBlank c = true := by simp
  have hhead : ∀ c ∈ (" as ".toList ++ (target.text ++ blanks)).head?,
      Text.isNameChar c = false := fun c hc => Option.some.inj hc ▸ rfl
  have hparts : Text.cut? " as ".toList
      (' ' :: (n.text ++ (" as ".toList ++ (target.text ++ blanks)))) =
        some (' ' :: n.text, target.text ++ blanks) := by
    rw [n.cut?_append hn hhead, cut?_as_append]
    simp
  have hstrip : Text.strip (' ' :: n.text) = n.text := by
    have hstrip := n.strip_text (Text.forall_mem_of_all (t := [' ']) (by decide)) hnone
    rwa [List.append_nil] at hstrip
  have hstrip' : Text.strip (target.text ++ blanks) = target.text :=
    target.strip_text hnone hblanks
  simp only [ExportEntry.ofText?, hparts, Option.getD_some, hstrip, n.after?_type,
    Option.elim_none, hstrip']
  rw [if_neg hne]

theorem Binding.ofText?_append (b : Binding) (hb : b.name.text ≠ "as".toList) {blanks : Text}
    (hblanks : blanks = [] ∨ blanks = [' ']) :
    ExportEntry.ofText? (' ' :: (b.text ++ blanks)) = some b.entry := by
  obtain ⟨name, target⟩ := b
  cases target with
  | none => exact name.ofText?_append hb hblanks
  | some target =>
    have hblank : ∀ c ∈ blanks, Text.isBlank c = true := by
      rcases hblanks with rfl | rfl <;> exact Text.forall_mem_of_all (by decide)
    have htext : ' ' :: ((Binding.mk name (some target)).text ++ blanks) =
        ' ' :: (name.text ++ (" as ".toList ++ (target.text ++ blanks))) := by
      simp only [Binding.text, List.append_assoc]
    rw [htext, name.ofText?_as_append target hb hblank]
    rfl

/-- The entries of an export list are its bindings. -/
theorem entries_listed {bindings : List Binding}
    (h : ∀ b ∈ bindings, b.name.text ≠ "as".toList) :
    ((' ' :: (listed bindings ++ [' '])).splitOn ',').filterMap ExportEntry.ofText? =
      bindings.map Binding.entry := by
  induction bindings with
  | nil => rfl
  | cons b bindings ih =>
    have hb := h b List.mem_cons_self
    have hcomma : ',' ∉ b.text := by
      intro hmem
      have hchar := b.isNameChar_or_eq_of_mem hmem
      revert hchar
      decide
    cases bindings with
    | nil =>
      have htext : ' ' :: (listed [b] ++ [' ']) = ' ' :: (b.text ++ [' ']) := by
        simp [listed]
      have hsplit : (' ' :: (b.text ++ [' '])).splitOn ',' = [' ' :: (b.text ++ [' '])] :=
        List.splitOn_eq_singleton (by simp [hcomma])
      rw [htext, hsplit, List.filterMap_cons, b.ofText?_append hb (.inr rfl)]
      rfl
    | cons b' bindings =>
      have htext : ' ' :: (listed (b :: b' :: bindings) ++ [' ']) =
          ' ' :: b.text ++ ',' :: ' ' :: (listed (b' :: bindings) ++ [' ']) := by
        simp [listed, List.intercalate_cons_cons]
      have hsplit (t : Text) :
          (' ' :: b.text ++ ',' :: t).splitOn ',' = (' ' :: b.text) :: t.splitOn ',' :=
        List.splitOn_append_cons_self_of_not_mem (by simp [hcomma]) t
      have hentry := b.ofText?_append hb (.inl rfl)
      rw [List.append_nil] at hentry
      rw [htext, hsplit, List.filterMap_cons, hentry,
        ih fun c hc => h c (List.mem_cons_of_mem b hc)]
      rfl

/-! ### All items -/

/-- At the first character of an item a list is read only if the item is one. -/
theorem Item.entries_eq (item : Item) (hquiet : item.Quiet) (items : List Item) :
    ((exportList? (item.text ++ '\n' :: print items)).elim [] fun names =>
      (names.splitOn ',').filterMap ExportEntry.ofText?) = (bindings [item]).map Binding.entry := by
  cases item with
  | imported i =>
    have hnone : exportList? (i.text ++ '\n' :: print items) = none := rfl
    rw [show (Item.imported i).text = i.text from rfl, hnone]
    rfl
  | shape s =>
    rw [show (Item.shape s).text = s.text from rfl, s.text_append, exportList?_plainHead]
    rfl
  | union u =>
    have htext : (Item.union u).text ++ '\n' :: print items =
        u.head ++ (u.alternatives ++ '\n' :: print items) := List.append_assoc _ _ _
    rw [htext, u.head_append, exportList?_plainHead]
    rfl
  | exports bindings =>
    have hbindings : Written.bindings [.exports bindings] = bindings := by simp [Written.bindings]
    have hne : ∀ b ∈ bindings, b.name.text ≠ "as".toList := by
      have hne := hquiet.ne_as
      rwa [hbindings] at hne
    have hlist := exportList?_braced bindings items
    rw [show (Item.exports bindings).text = "export ".toList ++ braced 1 bindings from rfl, hlist,
      hbindings]
    exact entries_listed hne

theorem Item.not_type_brace (item : Item) {gap : Text} (hgap : IsGap gap) :
    ¬"type".toList ++ (gap ++ ['{']) <+: item.text ++ t := by
  cases item with
  | imported i => exact fun h => absurd (List.cons_prefix_cons.1 h).1 (by decide)
  | shape s =>
    rw [show (Item.shape s).text = s.text from rfl, s.text_append]
    exact not_type_brace_plainHead s.modifier s.ambient s.form s.name hgap
  | union u =>
    have htext : (Item.union u).text ++ t = u.head ++ (u.alternatives ++ t) :=
      List.append_assoc _ _ _
    rw [htext, u.head_append]
    exact not_type_brace_plainHead _ false .alias u.name hgap
  | exports bindings => exact fun h => absurd (List.cons_prefix_cons.1 h).1 (by decide)

/-- No list begins in one item and goes on in the next one. -/
theorem not_listHead_of_newline {q x : Text} {items : List Item} (h : ListHead (q ++ '\n' :: x)) :
    ¬x <+: print items := by
  obtain ⟨blanks, hblanks, hx⟩ := h.after_newline
  have hheads : ∀ c ∈ ['i', 'e', 'd', 't'], Text.isBlank c = false ∧ c ≠ '{' :=
    Text.forall_mem_of_all (by decide)
  have hhead {c : Char} {y : Text} (hstart : c :: y <+: print items) :
      Text.isBlank c = false ∧ c ≠ '{' := by
    obtain ⟨v, hv⟩ := hstart
    exact hheads c (mem_of_mem_head?_print (by rw [← hv]; rfl))
  intro hstart
  cases blanks with
  | cons c blanks =>
    have hblank := hblanks c List.mem_cons_self
    have hc : Text.isBlank c = false := by
      rcases hx with rfl | ⟨gap, -, rfl⟩ <;> exact (hhead hstart).1
    rw [hc] at hblank
    cases hblank
  | nil =>
    rcases hx with rfl | ⟨gap, hgap, rfl⟩
    · exact (hhead hstart).2 rfl
    · cases items with
      | nil => exact absurd (List.prefix_nil.1 hstart) (by simp)
      | cons item items =>
        rw [print_cons] at hstart
        exact item.not_type_brace hgap hstart

/-- Behind the first character of a quiet item no list begins. -/
theorem Item.exportList?_tail (item : Item) (hquiet : item.Quiet) (items : List Item) {c : Char}
    {q : Text} (h : c :: q <:+ item.text.tail ++ ['\n']) :
    exportList? (c :: q ++ print items) = none := by
  obtain hnil | ⟨q', hq, hsuffix⟩ := List.suffix_concat_iff.1 h
  · cases hnil
  · rw [hq, List.append_assoc, List.singleton_append]
    refine exportList?_eq_none fun head hhead ⟨v, hv⟩ => ?_
    -- a head ends before the line end, which quiet items rule out, or goes on in the next item
    have hinner (hstart : head <+: q') : False :=
      hquiet.not_head head hhead (hstart.isInfix.trans hsuffix.isInfix)
    rcases List.append_eq_append_iff.1 hv with ⟨a, ha, -⟩ | ⟨x, hx, hv⟩
    · exact hinner ⟨a, ha.symm⟩
    · cases x with
      | nil => exact hinner ⟨[], by simpa using hx⟩
      | cons d x =>
        obtain rfl : '\n' = d := (List.cons.inj hv).1
        exact not_listHead_of_newline (hx ▸ hhead) ⟨v, (List.cons.inj hv).2.symm⟩

theorem exportEntries_print {items : List Item} (h : ∀ item ∈ items, item.Quiet) :
    exportEntries (print items) = (bindings items).map Binding.entry := by
  induction items with
  | nil => rfl
  | cons item items ih =>
    have hquiet := h item List.mem_cons_self
    obtain ⟨c, t, htext, -⟩ := item.exists_head
    have hhead := item.entries_eq hquiet items
    have htail : exportEntries (t ++ ['\n'] ++ print items) = exportEntries (print items) :=
      exportEntries_append fun d q hq =>
        item.exportList?_tail hquiet items (by rw [htext]; exact hq)
    have hbindings : bindings (item :: items) = bindings [item] ++ bindings items := by
      simp [bindings]
    rw [htext, List.cons_append] at hhead
    rw [List.append_assoc, List.singleton_append] at htail
    rw [print_cons, htext, List.cons_append, exportEntries_cons, hhead, htail,
      ih fun item hitem => h item (List.mem_cons_of_mem _ hitem), hbindings, List.map_append]

end ShapeMapper.Written
