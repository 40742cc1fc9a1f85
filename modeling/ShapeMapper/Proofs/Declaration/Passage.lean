import ShapeMapper.Proofs.Declaration.Scan
import ShapeMapper.Proofs.Source.Comment

/-!
# Texts that are passed over

A text in which no statement begins and no slash stands leads from one depth of braces to another
one (`Passed`). It loses nothing when comments are taken out, and a scan goes on behind it as if it
were not there, but for the depth: `Passed.scan_append`.
-/

namespace ShapeMapper

open Source Declaration Written

/-- The texts whose literals are closed, with no slash outside of their literals and no word that
begins a statement outside of all braces. They lead from one depth to another. -/
inductive Passed : Nat → Nat → Text → Prop
  | nil {depth : Nat} : Passed depth depth []
  | char {depth depth' : Nat} {c : Char} {t : Text} (hc : IsOrdinary c)
      (hname : depth ≠ 0 ∨ Text.isNameChar c = false) (h : Passed depth depth' t) :
      Passed depth depth' (c :: t)
  /-- A word outside of all braces. -/
  | word {depth' : Nat} {w t : Text} (hw : ∀ c ∈ w, Text.isNameChar c = true)
      (hstatement : w ∉ statementWords) (ht : ∀ c ∈ t.head?, Text.isNameChar c = false)
      (h : Passed 0 depth' t) : Passed 0 depth' (w ++ t)
  | literal {depth depth' : Nat} {t : Text} (l : Literal) (h : Passed depth depth' t) :
      Passed depth depth' (l.text ++ t)
  | opening {depth depth' : Nat} {t : Text} (h : Passed (depth + 1) depth' t) :
      Passed depth depth' ('{' :: t)
  | closing {depth depth' : Nat} {t : Text} (h : Passed (depth - 1) depth' t) :
      Passed depth depth' ('}' :: t)

namespace Passed

variable {depth depth' depth'' : Nat} {file before t u : Text}

/-- Texts are passed over one after the other, unless the second one continues a word. -/
theorem append (ht : Passed depth depth' t) (hu : Passed depth' depth'' u)
    (hhead : ∀ c ∈ u.head?, Text.isNameChar c = false) : Passed depth depth'' (t ++ u) := by
  induction ht with
  | nil => exact hu
  | char hc hname _ ih => exact .char hc hname (ih hu)
  | @word _ w t hw hstatement ht _ ih =>
    rw [List.append_assoc]
    refine .word hw hstatement ?_ (ih hu)
    cases t with
    | nil => exact hhead
    | cons => exact ht
  | literal l _ ih =>
    rw [List.append_assoc]
    exact .literal l (ih hu)
  | opening _ ih => exact .opening (ih hu)
  | closing _ ih => exact .closing (ih hu)

theorem uncommented (h : Passed depth depth' t) : Uncommented t := by
  induction h with
  | nil => exact .nil
  | char hc _ _ ih => exact .char hc.isQuote_eq hc.ne_slash ih
  | word hw _ _ _ ih =>
    refine .append (.of_forall fun c hc => ?_) ih
    have hordinary := isOrdinary_of_isNameChar (hw c hc)
    exact ⟨hordinary.isQuote_eq, hordinary.ne_slash⟩
  | literal l _ ih => exact .literal l ih
  | opening _ ih | closing _ ih => exact .char (by decide) (by decide) ih

/-- A scan finds nothing in a text that is passed over. -/
theorem scan_append (h : Passed depth depth' t)
    (hu : ∀ c ∈ u.head?, Text.isNameChar c = false) :
    scan file before depth (t ++ u) = scan file (t.reverse ++ before) depth' u := by
  induction h generalizing before with
  | nil => rfl
  | @char depth depth' c t hc hname _ ih =>
    have hchar :
        scan file before depth (c :: (t ++ u)) = scan file (c :: before) depth (t ++ u) := by
      rcases hname with hdepth | hname
      · exact scan_char hc (.inl hdepth)
      -- every statement begins with a word
      · refine scan_mark hc fun hmem => ?_
        have hnames : ∀ d ∈ ['i', 'e', 'd', 't'], Text.isNameChar d = true :=
          Text.forall_mem_of_all (by decide)
        rw [hnames c hmem] at hname
        cases hname
    rw [List.cons_append, hchar, ih]
    simp
  | @word _ w t hw hstatement ht _ ih =>
    have hnext : ∀ c ∈ (t ++ u).head?, Text.isNameChar c = false := by
      cases t with
      | nil => exact hu
      | cons => exact ht
    cases w with
    | nil => exact ih
    | cons c w =>
      obtain ⟨hc, hw'⟩ := List.forall_mem_cons.1 hw
      rw [List.append_assoc, List.cons_append,
        scan_word hc hw' (statement?_word hw hstatement hnext file), ih]
      simp
  | literal l _ ih =>
    rw [List.append_assoc, scan_literal, ih]
    simp
  | opening _ ih =>
    rw [List.cons_append, scan_open, ih]
    simp
  | closing _ ih =>
    rw [List.cons_append, scan_close, ih]
    simp

end Passed

end ShapeMapper
