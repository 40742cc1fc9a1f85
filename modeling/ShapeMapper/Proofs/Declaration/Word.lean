import ShapeMapper.Proofs.Declaration.Written
import ShapeMapper.Proofs.Text.Name

/-!
# Reading words

A word is read only where it stands whole: what goes on after it is no part of a name.
-/

namespace ShapeMapper

open Source Declaration

/-! ### Characters of names -/

theorem ne_of_isNameChar {c d : Char} (hc : Text.isNameChar c = true)
    (hd : Text.isNameChar d = false) : c ≠ d := by
  rintro rfl
  rw [hc] at hd
  cases hd

theorem ne_of_isBlank {c d : Char} (hc : Text.isBlank c = true) (hd : Text.isBlank d = false) :
    c ≠ d := by
  rintro rfl
  rw [hc] at hd
  cases hd

/-- The characters that are not plain. -/
def pieceMarks : Text :=
  ['\'', '"', '`', '=', '{', '}', '(', ')', '[', ']', '<', '>']

theorem isPlain_of_forall_ne {c : Char} (h : ∀ d ∈ pieceMarks, c ≠ d) : IsPlain c := by
  have hmarks : ∀ d, d ∈ pieceMarks → c ≠ d := h
  simp only [pieceMarks, List.mem_cons, List.not_mem_nil, or_false, forall_eq_or_imp,
    forall_eq] at h
  obtain ⟨hsingle, hdouble, hback, hequals, -⟩ := h
  constructor
  · simp [isQuote, hsingle, hdouble, hback]
  · exact hequals
  · have hbrackets : ∀ pair ∈ brackets, pair.1 ∈ pieceMarks ∧ pair.2 ∈ pieceMarks := by decide
    exact fun pair hpair => ⟨hmarks _ (hbrackets pair hpair).1, hmarks _ (hbrackets pair hpair).2⟩

theorem isPlain_of_isNameChar {c : Char} (h : Text.isNameChar c = true) : IsPlain c := by
  have hmarks : ∀ d ∈ pieceMarks, Text.isNameChar d = false := Text.forall_mem_of_all (by decide)
  exact isPlain_of_forall_ne fun d hd => ne_of_isNameChar h (hmarks d hd)

theorem isPlain_of_isBlank {c : Char} (h : Text.isBlank c = true) : IsPlain c := by
  have hmarks : ∀ d ∈ pieceMarks, Text.isBlank d = false := Text.forall_mem_of_all (by decide)
  exact isPlain_of_forall_ne fun d hd => ne_of_isBlank h (hmarks d hd)

namespace Declaration

/-- A word is read if a blank follows it. -/
theorem afterWord?_append (word : Text) {t : Text} (h : ∀ c ∈ t.head?, Text.isBlank c = false) :
    afterWord? word (word ++ ' ' :: t) = some t := by
  have hafter : Text.after? word (word ++ ' ' :: t) = some (' ' :: t) :=
    Text.after?_eq_some_iff.2 rfl
  have hblanks : Text.trimStart t = t := Text.trimStart_eq_self h
  simp only [afterWord?, hafter]
  rw [if_pos (by decide), hblanks]

/-- A word is read with all blanks after it. -/
theorem afterWord?_gap (word : Text) {gap t : Text} (hgap : Written.IsGap gap)
    (ht : ∀ c ∈ t.head?, Text.isBlank c = false) :
    afterWord? word (word ++ (gap ++ t)) = some t := by
  obtain ⟨hne, hblank⟩ := hgap
  obtain ⟨c, gap, rfl⟩ := List.exists_cons_of_ne_nil hne
  have hafter : Text.after? word (word ++ (c :: gap ++ t)) = some (c :: (gap ++ t)) :=
    Text.after?_eq_some_iff.2 rfl
  have htrim : Text.trimStart (gap ++ t) = t :=
    (Text.trimStart_append (fun d hd => hblank d (List.mem_cons_of_mem c hd)) t).trans
      (Text.trimStart_eq_self ht)
  simp only [afterWord?, hafter]
  rw [if_pos (hblank c List.mem_cons_self), htrim]

/-- Another word is not read, and no word is read if something else than a blank follows. -/
theorem afterWord?_eq_none {word t u : Text} (hword : ∀ c ∈ word, Text.isNameChar c = true)
    (ht : ∀ c ∈ t, Text.isNameChar c = true) (hu : ∀ c ∈ u.head?, Text.isNameChar c = false)
    (h : t ≠ word ∨ ∀ c ∈ u.head?, Text.isBlank c = false) : afterWord? word (t ++ u) = none := by
  unfold afterWord?
  split
  · next c rest hafter =>
    rw [Text.after?_eq_some_iff] at hafter
    split
    · next hblank =>
      obtain ⟨heq, hrest⟩ := Text.append_inj_of_isNameChar ht hword hu
        (by simpa using Text.not_isNameChar_of_isBlank hblank) hafter
      rcases h with h | h
      · exact absurd heq h
      · rw [h c (by simp [hrest])] at hblank
        cases hblank
    · rfl
  · rfl

theorem afterWord?_cons_of_ne {c d : Char} (h : d ≠ c) (word t : Text) :
    afterWord? (d :: word) (c :: t) = none := by
  simp [afterWord?, Text.after?, h]

end Declaration

namespace Written

/-! ### Names -/

theorem Name.isNameChar_of_mem {n : Name} {c : Char} (h : c ∈ n.text) :
    Text.isNameChar c = true := by
  rcases List.mem_cons.1 h with rfl | h
  · exact Text.isNameChar_of_isNameStart n.isNameStart_first
  · exact n.isNameChar_rest c h

/-- A name is read if nothing continues it. -/
theorem Name.name?_append (n : Name) {t : Text} (h : ∀ c ∈ t.head?, Text.isNameChar c = false) :
    Text.name? (n.text ++ t) = some (n.text, t) := by
  obtain ⟨htake, hdrop⟩ := Text.takeWhile_isNameChar_append n.isNameChar_rest h
  rw [Name.text, List.cons_append, Text.name?, if_pos n.isNameStart_first, htake, hdrop]

theorem Name.not_isBlank_head (n : Name) (t : Text) :
    ∀ c ∈ (n.text ++ t).head?, Text.isBlank c = false := by
  rintro c hc
  obtain rfl : n.first = c := by simpa [Name.text] using hc
  exact Text.not_isBlank_of_isNameChar (Text.isNameChar_of_isNameStart n.isNameStart_first)

/-! ### Texts in quotes -/

/-- A text in quotes is a literal. -/
def Quoted.literal (q : Quoted) : Literal where
  quote := q.quote
  rest := q.value ++ [q.quote]
  isQuote_quote := by rcases q.quote_eq with h | h <;> rw [h] <;> rfl
  closed := by
    have hend {t : Text} (ht : ∀ c ∈ t, c ≠ q.quote ∧ c ≠ '\\' ∧ c ≠ '\n') :
        LiteralEnd q.quote (t ++ [q.quote]) := by
      induction t with
      | nil => exact .close
      | cons c t ih =>
        obtain ⟨hquote, hescape, hline⟩ := ht c List.mem_cons_self
        exact .char hquote hescape (fun h => absurd h hline)
          (ih fun d hd => ht d (List.mem_cons_of_mem c hd))
    exact hend q.not_end_of_mem

theorem Quoted.text_literal (q : Quoted) : q.literal.text = q.text := rfl

/-- A text in quotes is read up to the second one. -/
theorem Quoted.upToQuote?_append (q : Quoted) (t : Text) :
    upToQuote? q.quote (q.value ++ q.quote :: t) = some (q.value, t) := by
  have hvalue : ∀ c ∈ q.value, decide (c ≠ q.quote) = true := fun c hc =>
    decide_eq_true (q.not_end_of_mem c hc).1
  have hquote : decide (q.quote ≠ q.quote) = false := by simp
  obtain ⟨htake, hdrop⟩ := Text.takeWhile_append_cons hvalue hquote t
  simp only [upToQuote?, hdrop, htake]

theorem Quoted.propertyName?_append (q : Quoted) (t : Text) :
    propertyName? (q.text ++ t) = some (q.value, t) := by
  have htext : q.text ++ t = q.quote :: (q.value ++ q.quote :: t) := by
    simp [Quoted.text]
  have hread := q.upToQuote?_append t
  rw [htext]
  rcases q.quote_eq with h | h <;> rw [h] at hread ⊢ <;> exact hread

/-! ### Bindings -/

theorem Binding.isNameChar_or_eq_of_mem {b : Binding} {c : Char} (h : c ∈ b.text) :
    Text.isNameChar c = true ∨ c = ' ' := by
  unfold Binding.text at h
  split at h
  · exact .inl (Name.isNameChar_of_mem h)
  · have hword : ∀ c ∈ " as ".toList, Text.isNameChar c = true ∨ c = ' ' :=
      Text.forall_mem_of_all (by decide)
    rcases List.mem_append.1 h with h | h
    · rcases List.mem_append.1 h with h | h
      · exact .inl (Name.isNameChar_of_mem h)
      · exact hword c h
    · exact .inl (Name.isNameChar_of_mem h)

/-- Whatever holds of names, spaces and commas holds of listed bindings. -/
theorem forall_mem_listed {p : Char → Prop} (hname : ∀ c, Text.isNameChar c = true → p c)
    (hspace : p ' ') (hcomma : p ',') (bindings : List Binding) : ∀ c ∈ listed bindings, p c := by
  refine Text.forall_mem_intercalate ?_ ?_
  · intro c hc
    have hmarks : ∀ c ∈ ", ".toList, c = ',' ∨ c = ' ' := Text.forall_mem_of_all (by decide)
    rcases hmarks c hc with rfl | rfl
    · exact hcomma
    · exact hspace
  · intro t ht
    obtain ⟨b, -, rfl⟩ := List.mem_map.1 ht
    intro c hc
    rcases b.isNameChar_or_eq_of_mem hc with hc | rfl
    · exact hname c hc
    · exact hspace

end Written

end ShapeMapper
