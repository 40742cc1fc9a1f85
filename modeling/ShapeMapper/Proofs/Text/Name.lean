import Mathlib.Data.List.Basic
import Mathlib.Data.List.TakeWhile
import ShapeMapper.Text.Alphanumeric

/-!
# Names and blanks

No character of a name is a blank (`not_isNameChar_of_isBlank`), so a name ends where blanks
begin. Blanks around a text that neither begins nor ends with one are stripped: `strip_append`.
-/

namespace ShapeMapper.Text

/-- A property of all characters of a text, by evaluation. -/
theorem forall_mem_of_all {p : Char → Prop} [DecidablePred p] {t : Text}
    (h : t.all (fun c => p c) = true) : ∀ c ∈ t, p c := by
  simpa using h

/-- The characters with a property end where one without it stands. -/
theorem takeWhile_append_cons {p : Char → Bool} {t : Text} {c : Char}
    (ht : ∀ d ∈ t, p d = true) (hc : p c = false) (u : Text) :
    (t ++ c :: u).takeWhile p = t ∧ (t ++ c :: u).dropWhile p = c :: u := by
  rw [List.takeWhile_append_of_pos ht, List.dropWhile_append_of_pos ht]
  simp [hc]

theorem forall_mem_intercalate {p : Char → Prop} {sep : Text} {l : List Text}
    (hsep : ∀ c ∈ sep, p c) (h : ∀ t ∈ l, ∀ c ∈ t, p c) : ∀ c ∈ sep.intercalate l, p c := by
  induction l with
  | nil => simp
  | cons t l ih =>
    have hl := ih fun u hu => h u (List.mem_cons_of_mem t hu)
    intro c hc
    cases l with
    | nil => exact h t List.mem_cons_self c (by simpa using hc)
    | cons u l =>
      rw [List.intercalate_cons_cons, List.mem_append, List.mem_append] at hc
      rcases hc with (hc | hc) | hc
      · exact h t List.mem_cons_self c hc
      · exact hsep c hc
      · exact hl c hc

theorem head?_intercalate_cons {sep t : Text} (hne : t ≠ []) (l : List Text) :
    (sep.intercalate (t :: l)).head? = t.head? := by
  obtain ⟨c, t, rfl⟩ := List.exists_cons_of_ne_nil hne
  cases l with
  | nil => rfl
  | cons u l => rw [List.intercalate_cons_cons]; rfl

/-! ### Blanks -/

/-- The code points of the blanks. -/
def blankCodes : List Nat :=
  List.range' 0x09 5 ++ List.range' 0x1C 5 ++ List.range' 0x2000 11 ++
    [0x85, 0xA0, 0x1680, 0x2028, 0x2029, 0x202F, 0x205F, 0x3000]

theorem mem_blankCodes_of_isBlank {c : Char} (h : isBlank c = true) :
    c.val.toNat ∈ blankCodes := by
  simp only [isBlank, Bool.or_eq_true, Bool.and_eq_true, decide_eq_true_eq, beq_iff_eq] at h
  simp only [blankCodes, List.mem_append, List.mem_range'_1, List.mem_cons, List.not_mem_nil,
    or_false]
  omega

theorem isBlank_of_mem_space : ∀ c ∈ [' '], isBlank c = true :=
  List.forall_mem_singleton.2 rfl

theorem isNameChar_of_mem_nil : ∀ c ∈ [], isNameChar c = true :=
  List.forall_mem_nil _

theorem not_isNameChar_of_isBlank {c : Char} (h : isBlank c = true) : isNameChar c = false := by
  have hcodes : ∀ n ∈ blankCodes, isNameChar (Char.ofNat n) = false := by decide +kernel
  have hc := hcodes _ (mem_blankCodes_of_isBlank h)
  rwa [show c.val.toNat = c.toNat from rfl, Char.ofNat_toNat] at hc

theorem not_isBlank_of_isNameChar {c : Char} (h : isNameChar c = true) : isBlank c = false := by
  cases hc : isBlank c with
  | false => rfl
  | true => rw [not_isNameChar_of_isBlank hc] at h; cases h

theorem not_isNameChar_head_cons {c : Char} (hc : isNameChar c = false) (t : Text) :
    ∀ d ∈ (c :: t).head?, isNameChar d = false := by
  simpa using hc

/-! ### Stripping -/

theorem trimStart_append {b : Text} (hb : ∀ c ∈ b, isBlank c = true) (t : Text) :
    trimStart (b ++ t) = trimStart t := by
  rw [trimStart, List.dropWhile_append_of_pos hb]
  rfl

theorem trimStart_eq_self {t : Text} (h : ∀ c ∈ t.head?, isBlank c = false) :
    trimStart t = t := by
  cases t with
  | nil => rfl
  | cons c t => simp [trimStart, h c rfl]

theorem trimStart_append_of_ne_nil {t : Text} (ht : trimStart t ≠ []) (u : Text) :
    trimStart (t ++ u) = trimStart t ++ u := by
  rw [trimStart, List.dropWhile_append, if_neg]
  · rfl
  · simpa [trimStart] using ht

theorem trimEnd_append {b : Text} (hb : ∀ c ∈ b, isBlank c = true) (t : Text) :
    trimEnd (t ++ b) = trimEnd t := by
  rw [trimEnd, List.reverse_append, List.dropWhile_append_of_pos (by simpa using hb)]
  rfl

theorem trimEnd_eq_self {t : Text} (h : ∀ c ∈ t.getLast?, isBlank c = false) :
    trimEnd t = t := by
  have hstart := trimStart_eq_self (t := t.reverse) (by simpa using h)
  rw [trimEnd, ← trimStart, hstart, List.reverse_reverse]

theorem strip_of_not_isBlank {t : Text} (hhead : ∀ c ∈ t.head?, isBlank c = false)
    (hlast : ∀ c ∈ t.getLast?, isBlank c = false) : strip t = t := by
  rw [strip, trimStart_eq_self hhead, trimEnd_eq_self hlast]

/-- A text of blanks has nothing to keep. -/
theorem strip_eq_nil {b : Text} (hb : ∀ c ∈ b, isBlank c = true) : strip b = [] := by
  have hstart := trimStart_append hb []
  rw [List.append_nil] at hstart
  rw [strip, hstart]
  rfl

/-- The blanks around a text are stripped. -/
theorem strip_append {b t b' : Text} (hb : ∀ c ∈ b, isBlank c = true)
    (hb' : ∀ c ∈ b', isBlank c = true) (ht : t ≠ []) (hhead : ∀ c ∈ t.head?, isBlank c = false)
    (hlast : ∀ c ∈ t.getLast?, isBlank c = false) : strip (b ++ t ++ b') = t := by
  have hhead' : ∀ c ∈ (t ++ b').head?, isBlank c = false := by
    obtain ⟨d, t, rfl⟩ := List.exists_cons_of_ne_nil ht
    exact hhead
  rw [strip, List.append_assoc, trimStart_append hb, trimStart_eq_self hhead',
    trimEnd_append hb', trimEnd_eq_self hlast]

theorem trimStart_append_of_exists {t : Text} (h : ∃ c ∈ t, isBlank c = false) (u : Text) :
    trimStart (t ++ u) = trimStart t ++ u := by
  obtain ⟨c, hc, hblank⟩ := h
  refine trimStart_append_of_ne_nil (fun hnil => ?_) u
  exact Bool.noConfusion (hblank.symm.trans (List.dropWhile_eq_nil_iff.1 hnil c hc))

theorem trimEnd_append_of_exists {u : Text} (h : ∃ c ∈ u, isBlank c = false) (t : Text) :
    trimEnd (t ++ u) = t ++ trimEnd u := by
  have hstart := trimStart_append_of_exists (t := u.reverse) (by simpa using h) t.reverse
  rw [trimEnd, List.reverse_append, ← trimStart, hstart, List.reverse_append, List.reverse_reverse]
  rfl

/-- Behind a text that neither begins nor ends with a blank only the end is stripped. -/
theorem strip_append_trimEnd {b w : Text} (hb : ∀ c ∈ b, isBlank c = true) (hne : w ≠ [])
    (hhead : ∀ c ∈ w.head?, isBlank c = false) (hlast : ∀ c ∈ w.getLast?, isBlank c = false)
    (t : Text) : strip (b ++ (w ++ t)) = w ++ trimEnd t := by
  have hstart : trimStart (w ++ t) = w ++ t := by
    obtain ⟨c, w, rfl⟩ := List.exists_cons_of_ne_nil hne
    exact trimStart_eq_self hhead
  rw [strip, trimStart_append hb, hstart]
  by_cases h : ∃ c ∈ t, isBlank c = false
  · exact trimEnd_append_of_exists h w
  · have ht : ∀ c ∈ t, isBlank c = true := by simpa using h
    have hnil : trimEnd t = [] := trimEnd_append ht []
    rw [trimEnd_append ht, trimEnd_eq_self hlast, hnil, List.append_nil]

theorem strip_append_blank (t : Text) {b : Text} (hb : ∀ c ∈ b, isBlank c = true) :
    strip (t ++ b) = strip t := by
  by_cases h : ∃ c ∈ t, isBlank c = false
  · rw [strip, trimStart_append_of_exists h, trimEnd_append hb]
    rfl
  · have ht : ∀ c ∈ t, isBlank c = true := by simpa using h
    rw [strip_eq_nil ht, strip_eq_nil fun c hc => (List.mem_append.1 hc).elim (ht c) (hb c)]

theorem strip_blank_append (t : Text) {b : Text} (hb : ∀ c ∈ b, isBlank c = true) :
    strip (b ++ t) = strip t := by
  rw [strip, trimStart_append hb]
  rfl

/-- Nothing is stripped after the blanks before a word that ends a text. -/
theorem strip_append_word {w : Text} (hne : w ≠ []) (hw : ∀ c ∈ w, isBlank c = false) (t : Text) :
    strip (t ++ w) = trimStart t ++ w := by
  have hstart : trimStart (t ++ w) = trimStart t ++ w := by
    by_cases h : ∃ c ∈ t, isBlank c = false
    · exact trimStart_append_of_exists h w
    · have ht : ∀ c ∈ t, isBlank c = true := by simpa using h
      have hnil : trimStart t = [] := List.dropWhile_eq_nil_iff.2 ht
      rw [trimStart_append ht, hnil, trimStart_eq_self fun c hc => hw c (List.mem_of_head? hc)]
      rfl
  rw [strip, hstart, trimEnd_eq_self]
  rw [List.getLast?_append_of_ne_nil _ hne]
  exact fun c hc => hw c (List.mem_of_getLast? hc)

/-! ### Words -/

theorem not_isBlank_of_mem_splitOnP {t w : Text} (h : w ∈ t.splitOnP isBlank) :
    ∀ c ∈ w, isBlank c = false := by
  induction t generalizing w with
  | nil =>
    obtain rfl : w = [] := by simpa using h
    exact List.forall_mem_nil _
  | cons c t ih =>
    rw [List.splitOnP_cons_eq_if_modifyHead] at h
    cases hblank : isBlank c with
    | true =>
      rw [if_pos hblank] at h
      rcases List.mem_cons.1 h with rfl | h
      · exact List.forall_mem_nil _
      · exact ih h
    | false =>
      obtain ⟨v, l, hl⟩ := List.exists_cons_of_ne_nil (List.splitOnP_ne_nil isBlank t)
      rw [if_neg (by simp [hblank]), hl, List.modifyHead_cons] at h
      rw [hl] at ih
      rcases List.mem_cons.1 h with rfl | h
      · exact List.forall_mem_cons.2 ⟨hblank, ih List.mem_cons_self⟩
      · exact ih (List.mem_cons_of_mem v h)

theorem words_append_blank (t u : Text) {c : Char} (hc : isBlank c = true) :
    words (t ++ c :: u) = words t ++ words u := by
  rw [words, List.splitOnP_append_cons t u hc, List.filter_append]
  rfl

theorem words_blank_cons (t : Text) {c : Char} (hc : isBlank c = true) :
    words (c :: t) = words t :=
  words_append_blank [] t hc

theorem words_blank_append {b : Text} (hb : ∀ c ∈ b, isBlank c = true) (t : Text) :
    words (b ++ t) = words t := by
  induction b with
  | nil => rfl
  | cons c b ih =>
    rw [List.cons_append, words_blank_cons _ (hb c List.mem_cons_self),
      ih fun d hd => hb d (List.mem_cons_of_mem c hd)]

theorem words_trimStart (t : Text) : words (trimStart t) = words t := by
  have hsplit : t.takeWhile isBlank ++ trimStart t = t := List.takeWhile_append_dropWhile
  have hblank : ∀ c ∈ t.takeWhile isBlank, isBlank c = true := fun c hc =>
    List.mem_takeWhile_imp hc
  rw [← words_blank_append hblank, hsplit]

/-- A text without blanks is one word. -/
theorem words_eq_singleton {t : Text} (hne : t ≠ []) (h : ∀ c ∈ t, isBlank c = false) :
    words t = [t] := by
  rw [words, List.splitOnP_eq_singleton h]
  simp [hne]

/-- The words of a text are read back if there are single spaces between them. -/
theorem words_intercalate {l : List Text}
    (h : ∀ w ∈ l, w ≠ [] ∧ ∀ c ∈ w, isBlank c = false) : words ([' '].intercalate l) = l := by
  induction l with
  | nil => rfl
  | cons w l ih =>
    obtain ⟨hne, hblank⟩ := h w List.mem_cons_self
    cases l with
    | nil =>
      rw [List.intercalate_singleton, words, List.splitOnP_eq_singleton hblank]
      simp [hne]
    | cons v l =>
      have hrest := ih fun x hx => h x (List.mem_cons_of_mem w hx)
      have hsplit := List.splitOnP_append_cons_of_forall_mem hblank ' ' (by decide)
        ([' '].intercalate (v :: l))
      rw [List.intercalate_cons_cons, List.append_assoc, List.singleton_append, words, hsplit,
        List.filter_cons_of_pos (by simpa using hne), ← words, hrest]

/-! ### Single spaces -/

/-- Words with single spaces between them. -/
def IsSpaced (t : Text) : Prop :=
  ∃ l : List Text, (∀ w ∈ l, w ≠ [] ∧ ∀ c ∈ w, isBlank c = false) ∧ t = [' '].intercalate l

theorem isSpaced_intercalate_words (t : Text) : IsSpaced ([' '].intercalate (words t)) := by
  refine ⟨words t, fun w hw => ⟨?_, ?_⟩, rfl⟩
  · simpa using List.of_mem_filter hw
  · exact not_isBlank_of_mem_splitOnP (List.mem_of_mem_filter hw)

theorem intercalate_append {sep : Text} {l m : List Text} (hl : l ≠ []) (hm : m ≠ []) :
    sep.intercalate (l ++ m) = sep.intercalate l ++ sep ++ sep.intercalate m := by
  induction l with
  | nil => exact absurd rfl hl
  | cons t l ih =>
    cases l with
    | nil =>
      obtain ⟨u, m, rfl⟩ := List.exists_cons_of_ne_nil hm
      rw [List.singleton_append, List.intercalate_cons_cons, List.intercalate_singleton]
    | cons u l =>
      have hrest := ih (List.cons_ne_nil u l)
      rw [List.cons_append] at hrest
      rw [List.cons_append, List.cons_append, List.intercalate_cons_cons, hrest,
        List.intercalate_cons_cons]
      simp only [List.append_assoc]

namespace IsSpaced

variable {t u : Text}

theorem of_word (hne : t ≠ []) (h : ∀ c ∈ t, isBlank c = false) : IsSpaced t :=
  ⟨[t], List.forall_mem_singleton.2 ⟨hne, h⟩, List.intercalate_singleton.symm⟩

theorem of_all (hne : t ≠ []) (h : t.all fun c => isBlank c = false) : IsSpaced t :=
  of_word hne (forall_mem_of_all h)

theorem of_words (h : [' '].intercalate (words t) = t) : IsSpaced t :=
  h ▸ isSpaced_intercalate_words t

theorem intercalate_words (h : IsSpaced t) : [' '].intercalate (words t) = t := by
  obtain ⟨l, hl, rfl⟩ := h
  rw [words_intercalate hl]

theorem append (ht : IsSpaced t) (hu : IsSpaced u) (hne : t ≠ []) (hne' : u ≠ []) :
    IsSpaced (t ++ ' ' :: u) := by
  obtain ⟨l, hl, rfl⟩ := ht
  obtain ⟨m, hm, rfl⟩ := hu
  have hl' : l ≠ [] := fun h => hne (by rw [h]; rfl)
  have hm' : m ≠ [] := fun h => hne' (by rw [h]; rfl)
  refine ⟨l ++ m, ?_, ?_⟩
  · intro w hw
    rcases List.mem_append.1 hw with hw | hw
    · exact hl w hw
    · exact hm w hw
  · rw [intercalate_append hl' hm', List.append_assoc]
    rfl

theorem mem_words (h : IsSpaced t) :
    ∀ w ∈ words t, w ≠ [] ∧ ∀ c ∈ w, isBlank c = false := by
  obtain ⟨l, hl, rfl⟩ := h
  rwa [words_intercalate hl]

/-- The words of several texts make them up again. -/
theorem intercalate_flatMap_words {ts : List Text} (h : ∀ t ∈ ts, IsSpaced t ∧ t ≠ []) :
    [' '].intercalate (ts.flatMap words) = [' '].intercalate ts := by
  have hwords {t : Text} (ht : IsSpaced t ∧ t ≠ []) : words t ≠ [] := fun hnil => by
    have hspaced := ht.1.intercalate_words
    rw [hnil] at hspaced
    exact ht.2 hspaced.symm
  induction ts with
  | nil => rfl
  | cons t ts ih =>
    have hts : ∀ u ∈ ts, IsSpaced u ∧ u ≠ [] := fun u hu => h u (List.mem_cons_of_mem t hu)
    have ht := h t List.mem_cons_self
    cases ts with
    | nil => simpa using ht.1.intercalate_words
    | cons u ts =>
      have hrest : (u :: ts).flatMap words ≠ [] := by
        rw [List.flatMap_cons]
        exact List.append_ne_nil_of_left_ne_nil (hwords (hts u List.mem_cons_self)) _
      rw [List.flatMap_cons, intercalate_append (hwords ht) hrest, ht.1.intercalate_words,
        ih hts, List.intercalate_cons_cons]

/-- Texts with single spaces between them make one. -/
theorem intercalate {ts : List Text} (h : ∀ t ∈ ts, IsSpaced t ∧ t ≠ []) :
    IsSpaced ([' '].intercalate ts) := by
  refine ⟨ts.flatMap words, fun w hw => ?_, (intercalate_flatMap_words h).symm⟩
  obtain ⟨t, ht, hw⟩ := List.mem_flatMap.1 hw
  exact (h t ht).1.mem_words w hw

/-- The only blanks are the spaces. -/
theorem eq_space (h : IsSpaced t) : ∀ c ∈ t, isBlank c = true → c = ' ' := by
  obtain ⟨l, hl, rfl⟩ := h
  refine forall_mem_intercalate ?_ ?_
  · exact List.forall_mem_singleton.2 fun _ => rfl
  · intro w hw c hc hblank
    rw [(hl w hw).2 c hc] at hblank
    cases hblank

theorem not_isBlank_head (h : IsSpaced t) : ∀ c ∈ t.head?, isBlank c = false := by
  obtain ⟨l, hl, rfl⟩ := h
  cases l with
  | nil => simp
  | cons w l =>
    obtain ⟨hne, hblank⟩ := hl w List.mem_cons_self
    rw [head?_intercalate_cons hne]
    exact fun c hc => hblank c (List.mem_of_head? hc)

theorem not_isBlank_last (h : IsSpaced t) : ∀ c ∈ t.getLast?, isBlank c = false := by
  obtain ⟨l, hl, rfl⟩ := h
  rcases List.eq_nil_or_concat l with rfl | ⟨m, w, rfl⟩
  · simp
  · rw [List.concat_eq_append] at hl ⊢
    obtain ⟨hne, hblank⟩ := hl w (by simp)
    have hlast : ([' '].intercalate (m ++ [w])).getLast? = w.getLast? := by
      by_cases hm : m = []
      · simp [hm]
      · rw [intercalate_append hm (List.cons_ne_nil w []), List.intercalate_singleton,
          List.getLast?_append_of_ne_nil _ hne]
    rw [hlast]
    exact fun c hc => hblank c (List.mem_of_getLast? hc)

/-- Nothing of it is stripped. -/
theorem strip_eq (h : IsSpaced t) : strip t = t :=
  strip_of_not_isBlank h.not_isBlank_head h.not_isBlank_last

end IsSpaced

/-! ### Names -/

/-- A name goes on as long as it can. -/
theorem takeWhile_isNameChar_append {t u : Text} (ht : ∀ c ∈ t, isNameChar c = true)
    (hu : ∀ c ∈ u.head?, isNameChar c = false) :
    (t ++ u).takeWhile isNameChar = t ∧ (t ++ u).dropWhile isNameChar = u := by
  cases u with
  | nil =>
    rw [List.append_nil]
    exact ⟨List.takeWhile_eq_self_iff.2 ht, List.dropWhile_eq_nil_iff.2 ht⟩
  | cons c u => exact takeWhile_append_cons ht (hu c rfl) u

/-- Two words that nothing continues are equal if the texts after them are. -/
theorem append_inj_of_isNameChar {t u v w : Text} (ht : ∀ c ∈ t, isNameChar c = true)
    (hv : ∀ c ∈ v, isNameChar c = true) (hu : ∀ c ∈ u.head?, isNameChar c = false)
    (hw : ∀ c ∈ w.head?, isNameChar c = false) (h : t ++ u = v ++ w) : t = v ∧ u = w := by
  constructor
  · rw [← (takeWhile_isNameChar_append ht hu).1, h, (takeWhile_isNameChar_append hv hw).1]
  · rw [← (takeWhile_isNameChar_append ht hu).2, h, (takeWhile_isNameChar_append hv hw).2]

end ShapeMapper.Text
