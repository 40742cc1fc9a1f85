import ShapeMapper.Proofs.Declaration.Exported

/-!
# Blanks in export lists

The entries of an export list may have any blanks between their words (`Written.ListedName`), but
they are taken apart at ` as ` and behind `type `, with plain spaces. An entry is read as what it
says just if plain spaces are next to these words where it has them, and on one side at most of a
name that is the word `as` itself (`ListedName.ofText?_text_iff`). Lists one after the other are
read one after the other, so this decides what all of them export (`exportEntries_blocks_iff`).
-/

namespace ShapeMapper.Written

open Source Declaration

/-! ### Entries as they are written -/

/-- Another name in an entry, with the blanks around the word before it. -/
structure Renaming where
  gap : Text
  gap' : Text
  name : Name
  isGap_gap : IsGap gap
  isGap_gap' : IsGap gap'

def Renaming.text (r : Renaming) : Text :=
  r.gap ++ ("as".toList ++ (r.gap' ++ r.name.text))

/-- An entry of an export list. If it begins with the word `type` then some blanks follow that. -/
structure ListedName where
  before : Text
  typeGap : Option Text
  name : Name
  renamed : Option Renaming
  after : Text
  isBlank_before : ∀ c ∈ before, Text.isBlank c = true
  isGap_typeGap : ∀ gap ∈ typeGap, IsGap gap
  isBlank_after : ∀ c ∈ after, Text.isBlank c = true

namespace ListedName

/-- What stands in front of the name. -/
def lead (n : ListedName) : Text :=
  n.typeGap.elim [] fun gap => "type".toList ++ gap

/-- What stands behind the name. -/
def rest (n : ListedName) : Text :=
  n.renamed.elim [] Renaming.text ++ n.after

def text (n : ListedName) : Text :=
  n.before ++ (n.lead ++ (n.name.text ++ n.rest))

/-- Whether the entry exports its name as the default. -/
def isDefault (n : ListedName) : Bool :=
  n.renamed.any fun r => r.name.text = "default".toList

/-- What the entry says. -/
def entry (n : ListedName) : ExportEntry where
  name := n.name.text
  asDefault := n.isDefault

/-- Whether the name is one that is taken for the word `as`, with a plain space on both sides. -/
def IsTaken (n : ListedName) : Prop :=
  n.name.text = "as".toList ∧ (n.before ++ n.lead).getLast? = some ' ' ∧ n.rest.head? = some ' '

instance (n : ListedName) : Decidable n.IsTaken :=
  inferInstanceAs (Decidable (_ ∧ _ ∧ _))

/-- Whether plain spaces stand where an entry is taken apart, and nowhere else. -/
structure IsSpaced (n : ListedName) : Prop where
  type : ∀ gap ∈ n.typeGap, gap.head? = some ' '
  renamed : ∀ r ∈ n.renamed, r.gap.getLast? = some ' ' ∧ r.gap'.head? = some ' '
  not_isTaken : ¬n.IsTaken

end ListedName

/-! ### The name in an entry -/

/-- What is read as the name in an entry, given what stands in it before the word `as`. -/
def localName (t : Text) : Text :=
  (Text.after? "type ".toList (Text.strip t)).elim (Text.strip t) Text.strip

section reading

variable {t l r w : Text}

theorem ofText?_of_cut? (h : Text.cut? " as ".toList t = some (l, r)) :
    ExportEntry.ofText? t = if localName l = [] then none
      else some ⟨localName l, Text.strip r = "default".toList⟩ := by
  simp only [ExportEntry.ofText?, h, Option.getD_some]
  rfl

theorem ofText?_of_cut?_eq_none (h : Text.cut? " as ".toList t = none) :
    ExportEntry.ofText? t = if localName t = [] then none else some ⟨localName t, false⟩ := by
  simp only [ExportEntry.ofText?, h, Option.getD_none]
  rfl

theorem ite_eq_some_iff {n : Name} {b b' : Bool} :
    (if t = [] then none else some (⟨t, b⟩ : ExportEntry)) = some ⟨n.text, b'⟩ ↔
      t = n.text ∧ b = b' := by
  split
  · next h =>
    refine iff_of_false nofun fun heq => ?_
    exact absurd (h.symm.trans heq.1).symm (List.cons_ne_nil _ _)
  · rw [Option.some_inj, ExportEntry.mk.injEq]

theorem mem_of_mem_localName {c : Char} (h : c ∈ localName t) : c ∈ t := by
  unfold localName at h
  cases hafter : Text.after? "type ".toList (Text.strip t) with
  | none =>
    rw [hafter] at h
    exact (Text.strip_isInfix t).subset h
  | some rest =>
    rw [hafter] at h
    have hrest := (Text.strip_isInfix rest).subset h
    have htext := Text.after?_eq_some_iff.1 hafter
    exact (Text.strip_isInfix t).subset (htext ▸ List.mem_append_right _ hrest)

end reading

namespace ListedName

variable (n : ListedName) {t : Text}

theorem lead_of_none (h : n.typeGap = none) : n.lead = [] := by
  rw [lead, h]
  rfl

theorem lead_of_some {gap : Text} (h : n.typeGap = some gap) : n.lead = "type".toList ++ gap := by
  rw [lead, h]
  rfl

theorem not_isBlank_head (t : Text) :
    ∀ c ∈ (n.lead ++ (n.name.text ++ t)).head?, Text.isBlank c = false := by
  cases h : n.typeGap with
  | none =>
    rw [n.lead_of_none h]
    exact n.name.not_isBlank_head t
  | some gap =>
    rw [n.lead_of_some h]
    exact fun c hc => Option.some.inj hc ▸ rfl

/-- The word `type` is dropped if a plain space follows it. -/
theorem localName_eq_iff (ht : ∀ c ∈ t, Text.isBlank c = true) :
    localName (n.before ++ (n.lead ++ (n.name.text ++ t))) = n.name.text ↔
      ∀ gap ∈ n.typeGap, gap.head? = some ' ' := by
  have hname : ∀ c ∈ n.name.text, Text.isBlank c = false := fun c hc =>
    Text.not_isBlank_of_isNameChar (Name.isNameChar_of_mem hc)
  have hne : n.name.text ≠ [] := List.cons_ne_nil _ _
  have hstrip : Text.strip (n.before ++ (n.lead ++ (n.name.text ++ t))) =
      n.lead ++ n.name.text := by
    have hhead := n.not_isBlank_head []
    rw [List.append_nil] at hhead
    rw [← List.append_assoc, ← List.append_assoc, List.append_assoc n.before]
    refine Text.strip_append n.isBlank_before ht (by simp [hne]) hhead ?_
    rw [List.getLast?_append_of_ne_nil _ hne]
    exact fun c hc => hname c (List.mem_of_getLast? hc)
  cases hgap : n.typeGap with
  | none =>
    rw [localName, hstrip, n.lead_of_none hgap, List.nil_append, n.name.after?_type]
    exact iff_of_true rfl nofun
  | some gap =>
    obtain ⟨c, gap, rfl⟩ := List.exists_cons_of_ne_nil (n.isGap_typeGap gap hgap).1
    rw [localName, hstrip, n.lead_of_some hgap]
    by_cases hc : c = ' '
    · have hafter : Text.after? "type ".toList ("type".toList ++ c :: gap ++ n.name.text) =
          some (gap ++ n.name.text) := by
        rw [hc]
        exact Text.after?_eq_some_iff.2 (by simp)
      have hnone : ∀ c ∈ ([] : Text), Text.isBlank c = true := nofun
      have hdropped := n.name.strip_text (fun d hd =>
        (n.isGap_typeGap _ hgap).2 d (List.mem_cons_of_mem c hd)) hnone
      rw [List.append_nil] at hdropped
      rw [hafter]
      exact iff_of_true hdropped (by simp [hc])
    · have hafter : Text.after? "type ".toList ("type".toList ++ c :: gap ++ n.name.text) =
          none := by
        simp [Text.after?, Ne.symm hc]
      rw [hafter]
      refine iff_of_false (fun heq => ?_) (by simp [hc])
      have hlength := congrArg List.length heq
      simp only [Option.elim_none, List.length_append, List.length_cons] at hlength
      omega

/-- Nothing is dropped behind a name. -/
theorem localName_ne {gap : Text} (hgap : IsGap gap) :
    localName (n.before ++ (n.lead ++ (n.name.text ++ (gap ++ ("as".toList ++ t))))) ≠
      n.name.text := by
  have hword : "as".toList.length = 2 := by decide
  have hlast {w : Text} : ∀ c ∈ (w ++ (gap ++ "as".toList)).getLast?, Text.isBlank c = false := by
    intro c hc
    rw [← List.append_assoc, List.getLast?_append_of_ne_nil _ (by decide)] at hc
    exact Option.some.inj hc ▸ rfl
  have hstrip : Text.strip (n.before ++ (n.lead ++ (n.name.text ++ (gap ++ ("as".toList ++ t))))) =
      n.lead ++ (n.name.text ++ (gap ++ ("as".toList ++ Text.trimEnd t))) := by
    have hread := Text.strip_append_trimEnd n.isBlank_before
      (w := n.lead ++ n.name.text ++ (gap ++ "as".toList)) (by simp)
      (by simpa only [List.append_assoc] using n.not_isBlank_head _) hlast t
    simpa only [List.append_assoc] using hread
  generalize Text.trimEnd t = u at hstrip
  rw [localName, hstrip]
  cases hafter : Text.after? "type ".toList
      (n.lead ++ (n.name.text ++ (gap ++ ("as".toList ++ u)))) with
  | none =>
    intro heq
    have hlength := congrArg List.length heq
    simp only [Option.elim_none, List.length_append, hword] at hlength
    omega
  | some rest =>
    rw [Text.after?_eq_some_iff] at hafter
    have htext : n.lead ++ (n.name.text ++ (gap ++ ("as".toList ++ u))) =
        "type".toList ++ ' ' :: rest := hafter
    rw [Option.elim_some]
    cases htype : n.typeGap with
    | none =>
      -- the name would be the word `type`, and what is left begins with the word `as`
      rw [n.lead_of_none htype, List.nil_append] at htext
      have hspace : ∀ c ∈ (' ' :: rest).head?, Text.isNameChar c = false :=
        fun c hc => Option.some.inj hc ▸ rfl
      obtain ⟨c, gap, rfl⟩ := List.exists_cons_of_ne_nil hgap.1
      have hblank := Text.not_isNameChar_of_isBlank (hgap.2 c List.mem_cons_self)
      obtain ⟨hname, hrest⟩ := Text.append_inj_of_isNameChar (fun c => Name.isNameChar_of_mem)
        (Text.forall_mem_of_all (by decide)) (Text.not_isNameChar_head_cons hblank _) hspace htext
      have hleft := Text.strip_append_trimEnd (w := "as".toList)
        (fun d hd => hgap.2 d (List.mem_cons_of_mem c hd)) (by decide)
        (fun c hc => Option.some.inj hc ▸ rfl) (fun c hc => Option.some.inj hc ▸ rfl) u
      have hrest : gap ++ ("as".toList ++ u) = rest := (List.cons.inj hrest).2
      rw [← hrest, hname, hleft]
      exact fun heq => absurd (List.cons.inj heq).1 (by decide)
    | some gap' =>
      rw [n.lead_of_some htype, List.append_assoc] at htext
      obtain ⟨c, gap', rfl⟩ := List.exists_cons_of_ne_nil (n.isGap_typeGap gap' htype).1
      have hrest : gap' ++ (n.name.text ++ (gap ++ ("as".toList ++ u))) = rest :=
        (List.cons.inj (List.append_cancel_left htext)).2
      have hleft := Text.strip_append_trimEnd (w := n.name.text ++ (gap ++ "as".toList))
        (fun d hd => (n.isGap_typeGap _ htype).2 d (List.mem_cons_of_mem c hd)) (by simp)
        (n.name.not_isBlank_head _) hlast u
      simp only [List.append_assoc] at hleft
      rw [← hrest, hleft]
      intro heq
      have hlength := congrArg List.length heq
      simp only [List.length_append, hword] at hlength
      omega

/-! ### Where an entry is cut -/

theorem not_isNameChar_head_rest : ∀ c ∈ n.rest.head?, Text.isNameChar c = false := by
  unfold rest
  cases n.renamed with
  | none =>
    exact fun c hc => Text.not_isNameChar_of_isBlank (n.isBlank_after c (List.mem_of_mem_head? hc))
  | some r =>
    obtain ⟨c, gap, hgap⟩ := List.exists_cons_of_ne_nil r.isGap_gap.1
    have hblank := r.isGap_gap.2 c (by rw [hgap]; exact List.mem_cons_self)
    rw [Option.elim_some, Renaming.text, hgap]
    exact Text.not_isNameChar_head_cons (Text.not_isNameChar_of_isBlank hblank) _

/-- An entry is cut at its name if that is taken for the word `as`, and else behind it. -/
theorem cut?_text : Text.cut? " as ".toList n.text =
    if n.IsTaken then some ((n.before ++ n.lead).dropLast, n.rest.tail)
    else (Text.cut? " as ".toList n.rest).map fun (l, r) =>
      (n.before ++ (n.lead ++ (n.name.text ++ l)), r) := by
  have hrest := n.not_isNameChar_head_rest
  unfold text
  cases hgap : n.typeGap with
  | none =>
    have hcut := n.name.cut?_blanks_append n.isBlank_before hrest
    have htaken : n.IsTaken ↔ n.name.text = "as".toList ∧ n.before.getLast? = some ' ' ∧
        n.rest.head? = some ' ' := by
      rw [IsTaken, n.lead_of_none hgap, List.append_nil]
    rw [n.lead_of_none hgap, List.append_nil]
    simp only [htaken]
    exact hcut
  | some gap =>
    have hblanks := n.isGap_typeGap gap hgap
    have hhead : ∀ c ∈ (gap ++ (n.name.text ++ n.rest)).head?, Text.isNameChar c = false := by
      obtain ⟨c, gap, rfl⟩ := List.exists_cons_of_ne_nil hblanks.1
      exact Text.not_isNameChar_head_cons
        (Text.not_isNameChar_of_isBlank (hblanks.2 c List.mem_cons_self)) _
    -- the word `type` is no place to cut, and the gap behind it stands in front of the name
    have hword := Name.cut?_blanks_append
      ⟨'t', "ype".toList, by decide, Text.forall_mem_of_all (by decide)⟩ n.isBlank_before hhead
    rw [if_neg fun h => absurd h.1 (by decide), n.name.cut?_blanks_append hblanks.2 hrest] at hword
    have htaken : n.IsTaken ↔ n.name.text = "as".toList ∧ gap.getLast? = some ' ' ∧
        n.rest.head? = some ' ' := by
      rw [IsTaken, n.lead_of_some hgap, ← List.append_assoc,
        List.getLast?_append_of_ne_nil _ hblanks.1]
    have hdropped : (n.before ++ ("type".toList ++ gap)).dropLast =
        n.before ++ ("type".toList ++ gap.dropLast) := by
      rw [List.dropLast_append_of_ne_nil (by simp), List.dropLast_append_of_ne_nil hblanks.1]
    rw [n.lead_of_some hgap, List.append_assoc, hdropped]
    simp only [htaken]
    refine hword.trans ?_
    split_ifs
    · rfl
    · rw [Option.map_map]
      simp only [List.append_assoc]
      rfl

theorem a_notMem_lead : 'a' ∉ n.before ++ n.lead := by
  have hblank {t : Text} (ht : ∀ c ∈ t, Text.isBlank c = true) : 'a' ∉ t := fun hmem =>
    absurd (ht 'a' hmem) (by decide)
  refine List.not_mem_append (hblank n.isBlank_before) ?_
  cases h : n.typeGap with
  | none =>
    rw [n.lead_of_none h]
    exact List.not_mem_nil
  | some gap =>
    rw [n.lead_of_some h]
    exact List.not_mem_append (by decide) (hblank (n.isGap_typeGap gap h).2)

/-- An entry is not read as what it says if its name is taken for the word `as`. -/
theorem ofText?_ne_of_isTaken (h : n.IsTaken) : ExportEntry.ofText? n.text ≠ some n.entry := by
  have hcut := n.cut?_text
  rw [if_pos h] at hcut
  rw [ofText?_of_cut? hcut, entry, ne_eq, ite_eq_some_iff]
  rintro ⟨hname, -⟩
  have hmem : 'a' ∈ localName (n.before ++ n.lead).dropLast := by
    rw [hname, h.1]
    decide
  exact n.a_notMem_lead (List.dropLast_subset _ (mem_of_mem_localName hmem))

theorem rest_of_some {r : Renaming} (h : n.renamed = some r) :
    n.rest = r.gap ++ ("as".toList ++ (r.gap' ++ (r.name.text ++ n.after))) := by
  rw [rest, h, Option.elim_some, Renaming.text]
  simp only [List.append_assoc]

/-- What follows the name in an entry for another name is cut at the word `as` if that has plain
spaces on both sides, and else behind it. -/
theorem cut?_rest {r : Renaming} (h : n.renamed = some r) : Text.cut? " as ".toList n.rest =
    if r.gap.getLast? = some ' ' ∧ r.gap'.head? = some ' ' then
      some (r.gap.dropLast, (r.gap' ++ (r.name.text ++ n.after)).tail)
    else (Text.cut? " as ".toList (r.gap' ++ (r.name.text ++ n.after))).map fun (l, t) =>
      (r.gap ++ ("as".toList ++ l), t) := by
  obtain ⟨c, gap', hgap'⟩ := List.exists_cons_of_ne_nil r.isGap_gap'.1
  have hblank := r.isGap_gap'.2 c (by rw [hgap']; exact List.mem_cons_self)
  have hhead : ∀ c ∈ (r.gap' ++ (r.name.text ++ n.after)).head?, Text.isNameChar c = false := by
    rw [hgap']
    exact Text.not_isNameChar_head_cons (Text.not_isNameChar_of_isBlank hblank) _
  have hcut := Name.cut?_blanks_append
    ⟨'a', ['s'], by decide, Text.forall_mem_of_all (by decide)⟩ r.isGap_gap.2 hhead
  have hsecond : (r.gap' ++ (r.name.text ++ n.after)).head? = r.gap'.head? := by
    rw [hgap']
    rfl
  rw [hsecond] at hcut
  rw [n.rest_of_some h]
  refine hcut.trans ?_
  simp only [show (⟨'a', ['s'], by decide, Text.forall_mem_of_all (by decide)⟩ : Name).text =
    "as".toList from rfl, true_and]

/-- Where the word `as` is not found the name is not read alone. -/
theorem ofText?_ne_of_renamed {r : Renaming} (hrenamed : n.renamed = some r)
    (htaken : ¬n.IsTaken) (h : ¬(r.gap.getLast? = some ' ' ∧ r.gap'.head? = some ' ')) :
    ExportEntry.ofText? n.text ≠ some n.entry := by
  have hcut := n.cut?_text
  rw [if_neg htaken, n.cut?_rest hrenamed, if_neg h, Option.map_map] at hcut
  intro hread
  cases hlater : Text.cut? " as ".toList (r.gap' ++ (r.name.text ++ n.after)) with
  | none =>
    rw [hlater, Option.map_none] at hcut
    rw [ofText?_of_cut?_eq_none hcut, entry, ite_eq_some_iff, text,
      n.rest_of_some hrenamed] at hread
    exact n.localName_ne r.isGap_gap hread.1
  | some parts =>
    rw [hlater, Option.map_some] at hcut
    rw [ofText?_of_cut? hcut, entry, ite_eq_some_iff] at hread
    exact n.localName_ne r.isGap_gap hread.1

/-- An entry is read as what it says just if plain spaces stand where it is taken apart. -/
theorem ofText?_text_iff : ExportEntry.ofText? n.text = some n.entry ↔ n.IsSpaced := by
  by_cases htaken : n.IsTaken
  · exact iff_of_false (n.ofText?_ne_of_isTaken htaken) fun h => h.not_isTaken htaken
  have hcut := n.cut?_text
  rw [if_neg htaken] at hcut
  cases hrenamed : n.renamed with
  | none =>
    have hrest : n.rest = n.after := by
      rw [rest, hrenamed]
      rfl
    rw [hrest, cut?_as_blanks n.isBlank_after, Option.map_none] at hcut
    rw [ofText?_of_cut?_eq_none hcut, entry, ite_eq_some_iff, text, hrest,
      n.localName_eq_iff n.isBlank_after, isDefault, hrenamed]
    refine ⟨fun h => ⟨h.1, ?_, htaken⟩, fun h => ⟨h.type, rfl⟩⟩
    rw [hrenamed]
    exact nofun
  | some r =>
    by_cases hspaced : r.gap.getLast? = some ' ' ∧ r.gap'.head? = some ' '
    · have hdropped : ∀ c ∈ r.gap.dropLast, Text.isBlank c = true := fun c hc =>
        r.isGap_gap.2 c (List.dropLast_subset _ hc)
      have hname : Text.strip (r.gap' ++ (r.name.text ++ n.after)).tail = r.name.text := by
        obtain ⟨gap', hgap'⟩ := List.head?_eq_some_iff.1 hspaced.2
        have hblank : ∀ c ∈ gap', Text.isBlank c = true := fun c hc =>
          r.isGap_gap'.2 c (by rw [hgap']; exact List.mem_cons_of_mem _ hc)
        have hstrip := r.name.strip_text hblank n.isBlank_after
        rw [List.append_assoc] at hstrip
        rw [hgap']
        exact hstrip
      rw [n.cut?_rest hrenamed, if_pos hspaced, Option.map_some] at hcut
      rw [ofText?_of_cut? hcut, entry, ite_eq_some_iff, n.localName_eq_iff hdropped, hname,
        isDefault, hrenamed]
      refine ⟨fun h => ⟨h.1, ?_, htaken⟩, fun h => ⟨h.type, rfl⟩⟩
      rw [hrenamed]
      exact fun r' hr' => Option.some.inj hr' ▸ hspaced
    · exact iff_of_false (n.ofText?_ne_of_renamed hrenamed htaken hspaced) fun h =>
        hspaced (h.renamed r hrenamed)

/-- Whatever holds of the characters of names and of blanks holds in an entry. -/
theorem forall_mem_text {p : Char → Prop} (hname : ∀ c, Text.isNameChar c = true → p c)
    (hblank : ∀ c, Text.isBlank c = true → p c) : ∀ c ∈ n.text, p c := by
  have hword {w : Text} (hw : w.all Text.isNameChar = true) : ∀ c ∈ w, p c := fun c hc =>
    hname c (List.all_eq_true.1 hw c hc)
  have hblanks {t : Text} (ht : ∀ c ∈ t, Text.isBlank c = true) : ∀ c ∈ t, p c := fun c hc =>
    hblank c (ht c hc)
  have hchars (m : Name) : ∀ c ∈ m.text, p c := fun c hc => hname c (Name.isNameChar_of_mem hc)
  have hlead : ∀ c ∈ n.lead, p c := by
    cases h : n.typeGap with
    | none =>
      rw [n.lead_of_none h]
      exact List.forall_mem_nil _
    | some gap =>
      rw [n.lead_of_some h]
      exact List.forall_mem_append.2 ⟨hword (by decide), hblanks (n.isGap_typeGap gap h).2⟩
  have hrest : ∀ c ∈ n.rest, p c := by
    cases h : n.renamed with
    | none =>
      rw [rest, h]
      exact hblanks n.isBlank_after
    | some r =>
      rw [n.rest_of_some h]
      exact List.forall_mem_append.2 ⟨hblanks r.isGap_gap.2, List.forall_mem_append.2
        ⟨hword (by decide), List.forall_mem_append.2 ⟨hblanks r.isGap_gap'.2,
          List.forall_mem_append.2 ⟨hchars r.name, hblanks n.isBlank_after⟩⟩⟩⟩
  exact List.forall_mem_append.2 ⟨hblanks n.isBlank_before, List.forall_mem_append.2
    ⟨hlead, List.forall_mem_append.2 ⟨hchars n.name, hrest⟩⟩⟩

end ListedName

/-! ### Lists one after the other -/

/-- An export list, with the blanks and semicolons behind it. -/
structure ExportBlock where
  gap : Text
  names : List ListedName
  after : Text
  isGap_gap : IsGap gap
  isSeparator_after : ∀ c ∈ after, Text.isBlank c = true ∨ c = ';'

namespace ExportBlock

/-- What stands in the braces. -/
def inner (b : ExportBlock) : Text :=
  [','].intercalate (b.names.map ListedName.text)

def text (b : ExportBlock) : Text :=
  "export".toList ++ (b.gap ++ '{' :: (b.inner ++ '}' :: b.after))

variable (b : ExportBlock) {t : Text}

theorem text_append (t : Text) : b.text ++ t =
    "export".toList ++ (b.gap ++ '{' :: (b.inner ++ '}' :: (b.after ++ t))) := by
  have htext : b.text = "export".toList ++ (b.gap ++ '{' :: (b.inner ++ '}' :: b.after)) := rfl
  rw [htext]
  simp only [List.append_assoc, List.cons_append]

theorem ne_brace_of_mem_inner : ∀ c ∈ b.inner, c ≠ '{' ∧ c ≠ '}' := by
  refine Text.forall_mem_intercalate (List.forall_mem_singleton.2 (by decide)) ?_
  intro t ht
  obtain ⟨n, -, rfl⟩ := List.mem_map.1 ht
  exact n.forall_mem_text
    (fun c hc => ⟨ne_of_isNameChar hc (by decide), ne_of_isNameChar hc (by decide)⟩)
    (fun c hc => ⟨ne_of_isBlank hc (by decide), ne_of_isBlank hc (by decide)⟩)

/-- The entries of a list are read one by one. -/
theorem filterMap_splitOn_inner : (b.inner.splitOn ',').filterMap ExportEntry.ofText? =
    b.names.filterMap fun n => ExportEntry.ofText? n.text := by
  by_cases hnil : b.names = []
  · rw [inner, hnil]
    rfl
  · have hcomma : ∀ t ∈ b.names.map ListedName.text, ',' ∉ t := by
      intro t ht
      obtain ⟨n, -, rfl⟩ := List.mem_map.1 ht
      exact fun hmem => n.forall_mem_text (p := fun c => c ≠ ',')
        (fun c hc => ne_of_isNameChar hc (by decide)) (fun c hc => ne_of_isBlank hc (by decide))
        ',' hmem rfl
    rw [inner, List.splitOn_intercalate ',' hcomma (by simpa using hnil), List.filterMap_map]
    rfl

/-- Between two lists no list begins. -/
theorem exportEntries_after (t : Text) : exportEntries (b.after ++ t) = exportEntries t := by
  refine exportEntries_append fun c q hq => ?_
  have hne : 'e' ≠ c := by
    rcases b.isSeparator_after c (hq.subset List.mem_cons_self) with hc | rfl
    · exact (ne_of_isBlank hc (by decide)).symm
    · decide
  have hexport : afterWord? "export".toList (c :: q ++ t) = none :=
    afterWord?_cons_of_ne hne "xport".toList _
  simp only [exportList?, hexport, Option.bind_eq_bind, Option.bind_none]

theorem beginsWithFrom_after (ht : t = [] ∨ ∃ u, t = 'e' :: u) :
    beginsWithFrom (b.after ++ t) = false := by
  have hhead {a : Text} (ha : ∀ c ∈ a, Text.isBlank c = true ∨ c = ';') :
      ∀ c ∈ (Text.trimStart (a ++ t)).head?, 'f' ≠ c := by
    induction a with
    | nil =>
      rcases ht with rfl | ⟨u, rfl⟩
      · exact nofun
      · have hstart : Text.trimStart ('e' :: u) = 'e' :: u :=
          Text.trimStart_eq_self fun c hc => Option.some.inj hc ▸ rfl
        rw [List.nil_append, hstart]
        exact fun c hc => Option.some.inj hc ▸ (by decide)
    | cons d a ih =>
      obtain ⟨hd, ha⟩ := List.forall_mem_cons.1 ha
      rcases hd with hd | rfl
      · have hskip := Text.trimStart_append (List.forall_mem_singleton.2 hd) (a ++ t)
        rw [List.cons_append]
        exact hskip ▸ ih ha
      · have hstart : Text.trimStart (';' :: (a ++ t)) = ';' :: (a ++ t) :=
          Text.trimStart_eq_self fun c hc => Option.some.inj hc ▸ rfl
        rw [List.cons_append, hstart]
        exact fun c hc => Option.some.inj hc ▸ (by decide)
  unfold beginsWithFrom
  cases h : Text.trimStart (b.after ++ t) with
  | nil => rfl
  | cons c u =>
    have hc := hhead b.isSeparator_after c (by rw [h]; rfl)
    simp [Text.after?, hc]

/-- The entries of a list come before those behind it. -/
theorem exportEntries_text (ht : t = [] ∨ ∃ u, t = 'e' :: u) : exportEntries (b.text ++ t) =
    (b.names.filterMap fun n => ExportEntry.ofText? n.text) ++ exportEntries t := by
  have hlist := exportList?_braces b.isGap_gap b.ne_brace_of_mem_inner (b.after ++ t)
  rw [b.beginsWithFrom_after ht, if_neg Bool.false_ne_true] at hlist
  have hnone := InterfaceFile.not_listHead_braces b.isGap_gap.2 fun hmem =>
    (b.ne_brace_of_mem_inner '{' hmem).1 rfl
  have htail : exportEntries ("xport".toList ++ (b.gap ++ '{' :: (b.inner ++ ['}'])) ++
      (b.after ++ t)) = exportEntries t := by
    have hclosed : "xport".toList ++ (b.gap ++ '{' :: (b.inner ++ ['}'])) =
        ("xport".toList ++ (b.gap ++ '{' :: b.inner)) ++ ['}'] := by
      simp only [List.append_assoc, List.cons_append]
    rw [hclosed] at hnone ⊢
    exact (InterfaceFile.exportEntries_brace hnone _).trans (b.exportEntries_after t)
  have htext : b.text ++ t = 'e' :: ("xport".toList ++ (b.gap ++ '{' :: (b.inner ++ ['}'])) ++
      (b.after ++ t)) := by
    have hword : "export".toList = 'e' :: "xport".toList := rfl
    rw [b.text_append, hword]
    simp only [List.append_assoc, List.cons_append, List.nil_append]
  rw [← b.text_append] at hlist
  rw [htext] at hlist ⊢
  rw [exportEntries_cons, hlist, htail, Option.elim_some, b.filterMap_splitOn_inner]

/-- The names in some lists. -/
def allNames (blocks : List ExportBlock) : List ListedName :=
  blocks.flatMap names

/-- Lists one after the other are read one after the other. -/
theorem exportEntries_flatMap (blocks : List ExportBlock) :
    exportEntries (blocks.flatMap text) =
      (allNames blocks).filterMap fun n => ExportEntry.ofText? n.text := by
  induction blocks with
  | nil => rfl
  | cons b blocks ih =>
    have hhead : blocks.flatMap text = [] ∨ ∃ u, blocks.flatMap text = 'e' :: u := by
      cases blocks with
      | nil => exact .inl rfl
      | cons b' blocks => exact .inr ⟨_, rfl⟩
    have hnames : allNames (b :: blocks) = b.names ++ allNames blocks := List.flatMap_cons
    rw [List.flatMap_cons, b.exportEntries_text hhead, ih, hnames, List.filterMap_append]

end ExportBlock

/-! ### What is exported -/

/-- The names that some entries export, other than as the default. -/
def listedNames (entries : List ExportEntry) : List Text :=
  (entries.filter fun entry => !entry.asDefault).map ExportEntry.name

/-- The name that the last such entry exports as the default. -/
def listedDefault? (entries : List ExportEntry) : Option Text :=
  (entries.filter ExportEntry.asDefault).getLast?.map ExportEntry.name

/-- A shape is exported if its name is listed, and it is the default export if its name is the last
one that is listed as that. -/
theorem exportedBy_eq (entries : List ExportEntry) (e : Entity) :
    Document.exportedBy entries e = { e with
      exported := e.exported || e.name ∈ listedNames entries || listedDefault? entries = some e.name
      isDefault := e.isDefault || listedDefault? entries = some e.name } := by
  have hdefault : ((entries.filter (·.asDefault)).getLast?).any (·.name = e.name) =
      decide (listedDefault? entries = some e.name) := by
    unfold listedDefault?
    cases (entries.filter (·.asDefault)).getLast? with
    | none => rfl
    | some entry => simp
  have hlisted : entries.any (fun entry => !entry.asDefault && entry.name = e.name) =
      decide (e.name ∈ listedNames entries) := by
    rw [Bool.eq_iff_iff]
    simp [listedNames]
    grind
  simp only [Document.exportedBy, hdefault, hlisted]
  cases decide (listedDefault? entries = some e.name) <;>
    cases decide (e.name ∈ listedNames entries) <;> simp

/-- Whatever blanks stand in some export lists, each entry is read on its own, and it is read as
what it says just if plain spaces stand where it is taken apart. If that is so of all entries then
the names that they do not list as the default are exported, and the last one that they do is the
default. -/
theorem exportEntries_blocks_iff (blocks : List ExportBlock) :
    let read := exportEntries (blocks.flatMap ExportBlock.text)
    let names := ExportBlock.allNames blocks
    read = names.filterMap (fun n => ExportEntry.ofText? n.text) ∧
    (∀ n ∈ names, ExportEntry.ofText? n.text = some n.entry ↔ n.IsSpaced) ∧
    (read = names.map ListedName.entry ↔ ∀ n ∈ names, n.IsSpaced) ∧
    ((∀ n ∈ names, n.IsSpaced) →
      listedNames read = (names.filter fun n => !n.isDefault).map (fun n => n.name.text) ∧
      listedDefault? read =
        (names.filter ListedName.isDefault).getLast?.map fun n => n.name.text) ∧
    ∀ e, Document.exportedBy read e = { e with
      exported := e.exported || e.name ∈ listedNames read || listedDefault? read = some e.name
      isDefault := e.isDefault || listedDefault? read = some e.name } := by
  intro read names
  have hread : read = names.filterMap fun n => ExportEntry.ofText? n.text :=
    ExportBlock.exportEntries_flatMap blocks
  have hall : read = names.map ListedName.entry ↔ ∀ n ∈ names, n.IsSpaced := by
    rw [hread, List.filterMap_eq_map_iff_forall_eq_some]
    exact forall₂_congr fun n _ => n.ofText?_text_iff
  refine ⟨hread, fun n _ => n.ofText?_text_iff, hall, fun hspaced => ?_, exportedBy_eq read⟩
  rw [hall.2 hspaced]
  constructor
  · rw [listedNames, List.filter_map, List.map_map]
    rfl
  · rw [listedDefault?, List.filter_map, List.getLast?_map, Option.map_map]
    rfl

/-- Two lists with blanks of all kinds around the plain spaces. -/
theorem exportEntries_blocks_iff_twoLists :
    let a : Name := ⟨'A', [], by decide, Text.isNameChar_of_mem_nil⟩
    let b : Name := ⟨'B', [], by decide, Text.isNameChar_of_mem_nil⟩
    let other : Name := ⟨'d', "efault".toList, by decide, Text.forall_mem_of_all (by decide)⟩
    let blocks : List ExportBlock :=
      [{ gap := [' ']
         names := [
          { before := [' '], typeGap := none, name := a, after := ['\n']
            renamed := some ⟨['\t', ' '], [' '], other,
              ⟨by decide, Text.forall_mem_of_all (by decide)⟩,
              ⟨by decide, Text.isBlank_of_mem_space⟩⟩
            isBlank_before := Text.forall_mem_of_all (by decide)
            isGap_typeGap := nofun
            isBlank_after := Text.forall_mem_of_all (by decide) }]
         after := [';', '\n']
         isGap_gap := ⟨by decide, Text.forall_mem_of_all (by decide)⟩
         isSeparator_after := Text.forall_mem_of_all (by decide) },
       { gap := ['\n']
         names := [
          { before := [], typeGap := some [' ', '\n'], name := b, after := ['\t'], renamed := none
            isBlank_before := nofun
            isGap_typeGap := fun gap h =>
              Option.some.inj h ▸ ⟨by decide, Text.forall_mem_of_all (by decide)⟩
            isBlank_after := Text.forall_mem_of_all (by decide) }]
         after := []
         isGap_gap := ⟨by decide, Text.forall_mem_of_all (by decide)⟩
         isSeparator_after := nofun }]
    let text := blocks.flatMap ExportBlock.text
    text = "export \x7b A\t as default\n\x7d;\nexport\n\x7btype \nB\t\x7d".toList ∧
      (∀ n ∈ ExportBlock.allNames blocks, n.IsSpaced) ∧
      listedNames (exportEntries text) = ["B".toList] ∧
      listedDefault? (exportEntries text) = some "A".toList := by
  intro a b other blocks text
  obtain ⟨-, hentry, -, hspaced, -⟩ := exportEntries_blocks_iff blocks
  have hall : ∀ n ∈ ExportBlock.allNames blocks, n.IsSpaced := by
    have hread : ∀ n ∈ ExportBlock.allNames blocks,
        ExportEntry.ofText? n.text = some n.entry := by
      show ∀ n ∈ [_, _], _
      exact List.forall_mem_cons.2 ⟨by decide +kernel,
        List.forall_mem_singleton.2 (by decide +kernel)⟩
    exact fun n hn => (hentry n hn).1 (hread n hn)
  exact ⟨by decide, hall, hspaced hall⟩

/-- An entry with a tab on both sides of the word `as`. -/
theorem listedNames_ne_tabs :
    let name (c : Char) (h : Text.isNameStart c = true) : Name :=
      ⟨c, [], h, Text.isNameChar_of_mem_nil⟩
    let tab : IsGap ['\t'] := ⟨by decide, Text.forall_mem_of_all (by decide)⟩
    let block : ExportBlock :=
      { gap := [' ']
        names := [
          { before := [' '], typeGap := none, name := name 'A' (by decide), after := [' ']
            renamed := some ⟨['\t'], ['\t'], name 'B' (by decide), tab, tab⟩
            isBlank_before := Text.isBlank_of_mem_space
            isGap_typeGap := nofun
            isBlank_after := Text.isBlank_of_mem_space }]
        after := []
        isGap_gap := ⟨by decide, Text.isBlank_of_mem_space⟩
        isSeparator_after := nofun }
    block.text = "export \x7b A\tas\tB \x7d".toList ∧
      (block.names.filter fun n => !n.isDefault).map (fun n => n.name.text) = ["A".toList] ∧
      listedNames (exportEntries block.text) = ["A\tas\tB".toList] := by
  intro name tab block
  exact ⟨by decide, by decide, by decide +kernel⟩

end ShapeMapper.Written
