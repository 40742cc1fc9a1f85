import ShapeMapper.Proofs.Declaration.Lines
import ShapeMapper.Proofs.Plan.Stripped
import ShapeMapper.Proofs.Source.Outside

/-!
# Where the members stand

The members of a body stand in it one after the other, and what is left of it are blanks and
separators outside of literals (`IsDissected`). So splitting a body loses nothing and takes nothing
twice, however its brackets are paired: `isDissected_of_members`.
-/

namespace ShapeMapper.Declaration

open Source Text

/-- A text, and the number of characters before the place where it stands. -/
structure Place where
  start : Nat
  text : Text

/-- Where a text ends at its place. -/
def Place.stop (p : Place) : Nat :=
  p.start + p.text.length

/-- Whether some texts stand in a body at their places, one after the other, with nothing between
them but blanks and separators that are in no literal. -/
structure IsDissected (body : Text) (places : List Place) : Prop where
  occurs : ∀ p ∈ places, p.text <+: body.drop p.start
  ordered : places.Pairwise fun p q => p.stop ≤ q.start
  filler : ∀ before c after, body = before ++ c :: after →
    (∀ p ∈ places, before.length < p.start ∨ p.stop ≤ before.length) →
    IsFiller c ∧ LiteralsClosed before

/-! ### Reading from left to right -/

/-- The rest `t` of a body, which stands after `before`, is made up of texts at their places and of
what may stand between members. -/
inductive Laid : Text → Text → List Place → Prop
  | nil {before : Text} : Laid before [] []
  | filler {before t : Text} {c : Char} {places : List Place} (hc : IsFiller c)
      (hclosed : LiteralsClosed before) (h : Laid (before ++ [c]) t places) :
      Laid before (c :: t) places
  | text {before t u : Text} {places : List Place} (h : Laid (before ++ t) u places) :
      Laid before (t ++ u) (⟨before.length, t⟩ :: places)

namespace Laid

variable {before t : Text} {places : List Place}

/-- The texts stand in the rest. -/
theorem occurs (h : Laid before t places) :
    ∀ p ∈ places, before.length ≤ p.start ∧ p.text <+: (before ++ t).drop p.start := by
  induction h with
  | nil => exact List.forall_mem_nil _
  | @filler before t c places _ _ _ ih =>
    intro p hp
    obtain ⟨hstart, hbegins⟩ := ih p hp
    rw [List.length_append] at hstart
    rw [← List.append_cons] at hbegins
    exact ⟨Nat.le_of_add_right_le hstart, hbegins⟩
  | @text before t u places _ ih =>
    refine List.forall_mem_cons.2 ⟨⟨Nat.le_refl _, ?_⟩, fun p hp => ?_⟩
    · rw [List.drop_left]
      exact List.prefix_append t u
    · obtain ⟨hstart, hbegins⟩ := ih p hp
      rw [List.length_append] at hstart
      rw [List.append_assoc] at hbegins
      exact ⟨Nat.le_of_add_right_le hstart, hbegins⟩

theorem ordered (h : Laid before t places) :
    places.Pairwise fun p q => p.stop ≤ q.start := by
  induction h with
  | nil => exact .nil
  | filler _ _ _ ih => exact ih
  | @text before t u places h ih =>
    refine .cons (fun p hp => ?_) ih
    have hstart := (h.occurs p hp).1
    rwa [List.length_append] at hstart

/-- What is in none of the texts stands between members. -/
theorem isFiller (h : Laid before t places) {x y : Text} {c : Char} (ht : t = x ++ c :: y)
    (hout : ∀ p ∈ places, (before ++ x).length < p.start ∨ p.stop ≤ (before ++ x).length) :
    IsFiller c ∧ LiteralsClosed (before ++ x) := by
  induction h generalizing x with
  | nil => simp at ht
  | @filler before t d places hd hclosed _ ih =>
    cases x with
    | nil =>
      rw [List.append_nil, ← (List.cons.inj ht).1]
      exact ⟨hd, hclosed⟩
    | cons d' x =>
      obtain ⟨rfl, ht'⟩ := List.cons.inj ht
      rw [List.append_cons] at hout ⊢
      exact ih ht' hout
  | @text before t u places _ ih =>
    obtain ⟨hfirst, hout⟩ := List.forall_mem_cons.1 hout
    -- the character does not stand in the first text, so it stands behind it
    have hbehind : t.length ≤ x.length := by
      simp only [Place.stop, List.length_append] at hfirst
      omega
    obtain ⟨x', rfl⟩ : t <+: x :=
      List.prefix_of_prefix_length_le (List.prefix_append t u) ⟨c :: y, ht.symm⟩ hbehind
    rw [List.append_assoc] at ht
    rw [← List.append_assoc] at hout ⊢
    exact ih (List.append_cancel_left ht) hout

theorem isDissected (h : Laid [] t places) : IsDissected t places where
  occurs p hp := (h.occurs p hp).2
  ordered := h.ordered
  filler _ _ _ ht hout := h.isFiller ht hout

/-! ### Splitting -/

theorem isQuote_of_isBlank {b : Text} (hb : ∀ c ∈ b, isBlank c = true) :
    ∀ c ∈ b, isQuote c = false :=
  fun c hc => (isPlain_of_isBlank (hb c hc)).isQuote_eq

/-- Blanks are passed over. -/
theorem blank_append {b : Text} (hb : ∀ c ∈ b, isBlank c = true)
    (hclosed : LiteralsClosed (before ++ b)) (h : Laid (before ++ b) t places) :
    Laid before (b ++ t) places := by
  induction b generalizing before with
  | nil => rwa [List.append_nil] at h
  | cons c b ih =>
    obtain ⟨hc, hb'⟩ := List.forall_mem_cons.1 hb
    refine .filler (.inl hc) (hclosed.of_append (isQuote_of_isBlank hb)) (ih hb' ?_ ?_)
    · rwa [← List.append_cons]
    · rwa [← List.append_cons]

/-- What has been read since a separator is a text with blanks around it, or nothing but blanks. -/
theorem strip_append {pending : Text} (hbefore : LiteralsClosed before)
    (hpending : LiteralsClosed pending) (h : Laid (before ++ pending) t places) :
    ∃ later, Laid before (pending ++ t) later ∧
      later.map Place.text = [strip pending].filter (· ≠ []) ++ places.map Place.text := by
  obtain ⟨b, b', heq, hb, hb'⟩ := exists_append_strip pending
  have hclosed := hbefore.append hpending
  generalize strip pending = m at heq ⊢
  subst heq
  rw [← List.append_assoc, ← List.append_assoc] at hclosed h
  have hlead : LiteralsClosed (before ++ b) :=
    hbefore.append (.of_forall (isQuote_of_isBlank hb))
  have hrest := blank_append hb' hclosed h
  rw [List.append_assoc, List.append_assoc]
  by_cases hm : m = []
  · rw [hm, List.append_nil] at hrest
    rw [hm, List.nil_append]
    exact ⟨places, hrest.blank_append hb hlead, rfl⟩
  · refine ⟨_, blank_append hb hlead (.text hrest), ?_⟩
    rw [List.filter_cons_of_pos (by simpa using hm), List.filter_nil, List.map_cons]
    rfl

/-- A separator between members is a character of its own. -/
theorem isFiller_of_separates {pending : Text} {p : Piece} {pieces : List Piece}
    (h : separates pending p pieces = true) : ∃ c, p = .char c ∧ IsFiller c := by
  unfold separates at h
  split at h
  · exact ⟨';', rfl, .inr (.inl rfl)⟩
  · exact ⟨',', rfl, .inr (.inr rfl)⟩
  · exact ⟨'\n', rfl, .inl (by decide)⟩
  · cases h

/-- The pieces behind a place are split into texts at their places, whatever the depth of brackets
is there. -/
theorem exists_splitFrom {pieces : List Piece} (hpieces : ∀ p ∈ pieces, p.IsWhole) {pending : Text}
    (hbefore : LiteralsClosed before) (hpending : LiteralsClosed pending) (depth : Int) :
    ∃ places, Laid before (pending ++ textOf pieces) places ∧
      places.map Place.text =
        ((splitFrom pending depth pieces).map strip).filter (· ≠ []) := by
  induction pieces generalizing before pending depth with
  | nil =>
    obtain ⟨places, hlaid, hplaces⟩ := strip_append hbefore hpending .nil
    exact ⟨places, hlaid, by rw [hplaces, List.map_nil, List.append_nil]; rfl⟩
  | cons p pieces ih =>
    obtain ⟨hp, hlater⟩ := List.forall_mem_cons.1 hpieces
    have hpiece : LiteralsClosed p.text := by
      have hwhole := outside_textOf (List.forall_mem_singleton.2 hp)
      rw [textOf, List.flatMap_singleton] at hwhole
      exact ⟨_, hwhole⟩
    have htext : textOf (p :: pieces) = p.text ++ textOf pieces := rfl
    rw [splitFrom, htext]
    split
    · next hseparates =>
      obtain ⟨c, rfl, hc⟩ := isFiller_of_separates hseparates.2
      have hclosed := hbefore.append hpending
      obtain ⟨places, hlaid, hplaces⟩ := ih hlater (hclosed.append hpiece) .nil 0
      obtain ⟨all, hall, htexts⟩ := strip_append hbefore hpending (.filler hc hclosed hlaid)
      refine ⟨all, hall, ?_⟩
      rw [htexts, hplaces, List.map_cons, ← List.filter_append]
      rfl
    · rw [← List.append_assoc]
      exact ih hlater hbefore (hpending.append hpiece) _

end Laid

/-- Splitting loses nothing and takes nothing twice: the members of a body that can be read are
texts without blanks at their ends that stand in it one after the other, and all its other
characters are blanks and separators outside of literals. -/
theorem isDissected_of_members {body : Text} {ms : List Member} (h : members body = .ok ms) :
    ∃ places, IsDissected body places ∧
      places.map Place.text = splitMembers (Cut.ofText body).pieces ∧
      ms = (places.map Place.text).map Member.ofText ∧
      ∀ p ∈ places, p.text ≠ [] ∧ strip p.text = p.text := by
  unfold members at h
  dsimp only at h
  split at h
  · next htorn =>
    cases h
    have htext := Cut.textOf_ofText body
    rw [htorn, List.append_nil] at htext
    have hnil : LiteralsClosed [] := .nil
    obtain ⟨places, hlaid, hplaces⟩ :=
      Laid.exists_splitFrom (isWhole_of_mem_pieces body) hnil hnil 0
    rw [List.nil_append, htext] at hlaid
    have hsplit : places.map Place.text = splitMembers (Cut.ofText body).pieces := hplaces
    refine ⟨places, hlaid.isDissected, hsplit, by rw [hsplit], fun p hp => ?_⟩
    have hmem : p.text ∈ splitMembers (Cut.ofText body).pieces := by
      rw [← hsplit]
      exact List.mem_map_of_mem hp
    obtain ⟨hmap, hne⟩ := List.mem_filter.1 hmem
    obtain ⟨t, -, ht⟩ := List.mem_map.1 hmap
    exact ⟨by simpa using hne, by rw [← ht, strip_strip]⟩
  · cases h

/-- A separator in a literal, a bracket that closes none and one that is never closed. -/
theorem isDissected_of_members_unpaired :
    members "a: 'x;y', \x7db: (c\n;d".toList =
        .ok [.property { name := ['a'], type := "'x;y'".toList, optional := false },
          .unsupported "\x7db: (c".toList, .unsupported ['d']] ∧
      ∃ places, IsDissected "a: 'x;y', \x7db: (c\n;d".toList places ∧
        places.map Place.text = ["a: 'x;y'".toList, "\x7db: (c".toList, ['d']] := by
  have hread : members "a: 'x;y', \x7db: (c\n;d".toList =
      .ok [.property { name := ['a'], type := "'x;y'".toList, optional := false },
        .unsupported "\x7db: (c".toList, .unsupported ['d']] := by decide +kernel
  obtain ⟨places, hplaces, htexts, -, -⟩ := isDissected_of_members hread
  refine ⟨hread, places, hplaces, htexts.trans ?_⟩
  decide +kernel

end ShapeMapper.Declaration
