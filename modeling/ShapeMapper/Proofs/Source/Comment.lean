import ShapeMapper.Proofs.Source.Bracketed
import ShapeMapper.Source.Comment

/-!
# Texts without comments

A text with no slash outside its literals has no comments: it is read as it is
(`Uncommented.withoutComments_eq`).
-/

namespace ShapeMapper.Source

/-! ### Segments -/

namespace Segment

/-- Without a slash neither a comment nor a pattern begins. -/
theorem read_char {c : Char} (hquote : isQuote c = false) (hslash : c ≠ '/') (before t : Text) :
    read before c t = .ok (.char c) := by
  simp [read, hquote, hslash]

theorem read_literal (l : Literal) (before t : Text) :
    read before l.quote (l.rest ++ t) = .ok (.string l.text) := by
  rw [read, if_pos l.isQuote_quote, closeString?_append l.isQuote_quote l.closed]
  rfl

end Segment

/-- A segment that is read is the first one. -/
theorem segments_append {before body t : Text} {c : Char} {s : Segment}
    (htext : s.text = c :: body) (h : Segment.read before c (body ++ t) = .ok s) :
    segments before (s.text ++ t) =
      (s :: (segments (s.text.reverse ++ before) t).1,
        (segments (s.text.reverse ++ before) t).2) := by
  have hdrop : (body ++ t).drop (s.text.length - 1) = t := by simp [htext]
  rw [htext, List.cons_append, segments, h, ← htext]
  simp only [hdrop]

theorem withoutComments_of_segments {t : Text} {l : List Segment} (h : segments [] t = (l, none)) :
    withoutComments t = .ok (l.flatMap Segment.kept) := by
  rw [withoutComments, h]

/-! ### Texts without slashes -/

/-- The texts whose literals are closed and that have no slash outside of them. -/
inductive Uncommented : Text → Prop
  | nil : Uncommented []
  | char {c : Char} {t : Text} (hquote : isQuote c = false) (hslash : c ≠ '/')
      (h : Uncommented t) : Uncommented (c :: t)
  | literal {t : Text} (l : Literal) (h : Uncommented t) : Uncommented (l.text ++ t)

namespace Uncommented

variable {t u : Text}

theorem append (ht : Uncommented t) (hu : Uncommented u) : Uncommented (t ++ u) := by
  induction ht with
  | nil => exact hu
  | char hquote hslash _ ih => exact .char hquote hslash ih
  | literal l _ ih =>
    rw [List.append_assoc]
    exact .literal l ih

theorem of_literal (l : Literal) : Uncommented l.text := by
  have hliteral : Uncommented (l.text ++ []) := .literal l .nil
  rwa [List.append_nil] at hliteral

theorem of_forall (h : ∀ c ∈ t, isQuote c = false ∧ c ≠ '/') : Uncommented t := by
  induction t with
  | nil => exact .nil
  | cons c t ih =>
    have hc := h c List.mem_cons_self
    exact .char hc.1 hc.2 (ih fun d hd => h d (List.mem_cons_of_mem c hd))

theorem flatMap {α : Type} {f : α → Text} {l : List α} (h : ∀ a ∈ l, Uncommented (f a)) :
    Uncommented (l.flatMap f) := by
  induction l with
  | nil => exact .nil
  | cons a l ih =>
    rw [List.flatMap_cons]
    exact (h a List.mem_cons_self).append (ih fun b hb => h b (List.mem_cons_of_mem a hb))

theorem segments_eq (h : Uncommented t) (before : Text) :
    (segments before t).2 = none ∧ (segments before t).1.flatMap Segment.kept = t := by
  induction h generalizing before with
  | nil => simp [segments]
  | @char c t hquote hslash _ ih =>
    obtain ⟨hstuck, hkept⟩ := ih ((Segment.char c).text.reverse ++ before)
    have hsegments := segments_append (s := .char c) rfl (Segment.read_char hquote hslash before t)
    rw [show c :: t = (Segment.char c).text ++ t from rfl, hsegments]
    exact ⟨hstuck, congrArg (c :: ·) hkept⟩
  | @literal t l _ ih =>
    obtain ⟨hstuck, hkept⟩ := ih ((Segment.string l.text).text.reverse ++ before)
    have hsegments := segments_append (s := .string l.text) rfl (Segment.read_literal l before t)
    rw [show l.text ++ t = (Segment.string l.text).text ++ t from rfl, hsegments]
    exact ⟨hstuck, congrArg (l.text ++ ·) hkept⟩

/-- Nothing is taken from a text without comments. -/
theorem withoutComments_eq (h : Uncommented t) : withoutComments t = .ok t := by
  obtain ⟨hstuck, hkept⟩ := h.segments_eq []
  rw [withoutComments_of_segments (Prod.ext rfl hstuck), hkept]

end Uncommented

theorem Bracketed.uncommented {inner loose : Char → Prop} {t : Text}
    (hinner : ∀ c, inner c → c ≠ '/') (hloose : ∀ c, loose c → c ≠ '/')
    (h : Bracketed inner loose t) : Uncommented t := by
  induction h with
  | nil => exact .nil
  | char hplain hc _ ih => exact .char hplain.isQuote_eq (hloose _ hc) (ih hloose)
  | equals _ _ _ ih => exact .char (by decide) (by decide) (ih hloose)
  | arrow _ ih => exact .char (by decide) (by decide) (.char (by decide) (by decide) (ih hloose))
  | literal l _ ih => exact .literal l (ih hloose)
  | @group _ pair _ _ hpair _ _ ihbody ih =>
    have hchars : ∀ pair ∈ brackets, (isQuote pair.1 = false ∧ pair.1 ≠ '/') ∧
        isQuote pair.2 = false ∧ pair.2 ≠ '/' := by decide
    obtain ⟨hopen, hclose⟩ := hchars pair hpair
    exact .char hopen.1 hopen.2 ((ihbody hinner).append (.char hclose.1 hclose.2 (ih hloose)))

end ShapeMapper.Source
