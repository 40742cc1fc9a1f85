import Mathlib.Data.List.TakeWhile
import ShapeMapper.Declaration.Document
import ShapeMapper.Proofs.Except

/-!
# Imports as they are read

An import that a scan finds is some text without quotes and a specifier in quotes (`ImportText`,
`exists_importText_of_mem_imports`), so its specifier stands between the only quotes it has.
-/

namespace ShapeMapper

/-- An import as text: what stands before its specifier, the quote, and the specifier. -/
structure ImportText where
  start : Text
  quote : Char
  specifier : Text
  quote_eq : quote = '\'' ∨ quote = '"'
  start_quoteless : ∀ c ∈ start, c ≠ '\'' ∧ c ≠ '"'
  specifier_quoteless : ∀ c ∈ specifier, c ≠ '\'' ∧ c ≠ '"'

/-- The import as it is written. -/
def ImportText.text (t : ImportText) : Text :=
  t.start ++ t.quote :: t.specifier ++ [t.quote]

namespace Declaration

open Source

theorem not_quote_of_isClauseChar {c : Char} (h : isClauseChar c = true) :
    c ≠ '\'' ∧ c ≠ '"' := by
  constructor <;> rintro rfl <;> revert h <;> decide

theorem import?_eq_some {file t rest : Text} {i : ImportStatement}
    (h : import? file t = some (i, rest)) :
    ∃ x : ImportText, i = ⟨file, x.text, x.specifier, Path.isRelative x.specifier⟩ ∧
      t = x.text ++ rest := by
  unfold import? at h
  simp only [Option.bind_eq_bind, Option.bind_eq_some_iff] at h
  obtain ⟨t', ht', h⟩ := h
  split at h
  · next quote u hu =>
    split at h
    · next closing v hv =>
      split at h
      · next hok =>
        obtain ⟨hquote, -, -, hclosing⟩ := hok
        simp only [Option.some.injEq, Prod.mk.injEq] at h
        obtain ⟨rfl, rfl⟩ := h
        subst hclosing
        refine ⟨⟨"import".toList ++ t'.takeWhile isClauseChar, closing,
          u.takeWhile fun c => !(c = '\'' || c = '"' || c = '\n'), hquote, ?_, ?_⟩, ?_, ?_⟩
        · intro c hc
          rcases List.mem_append.1 hc with hc | hc
          · have himport : ∀ c ∈ "import".toList, c ≠ '\'' ∧ c ≠ '"' := by simp
            exact himport c hc
          · exact not_quote_of_isClauseChar (List.mem_takeWhile_imp hc)
        · intro c hc
          have hend := List.mem_takeWhile_imp hc
          simp only [Bool.not_eq_true', Bool.or_eq_false_iff, decide_eq_false_iff_not] at hend
          exact hend.1
        · simp [ImportText.text]
        · have hclause := List.takeWhile_append_dropWhile (p := isClauseChar) (l := t')
          have hspecifier := List.takeWhile_append_dropWhile
            (p := fun c => !(c = '\'' || c = '"' || c = '\n')) (l := u)
          rw [hu] at hclause
          rw [hv] at hspecifier
          calc t = "import".toList ++ t' := Text.after?_eq_some_iff.1 ht'
            _ = "import".toList ++ (t'.takeWhile isClauseChar ++ closing ::
                  (u.takeWhile (fun c => !(c = '\'' || c = '"' || c = '\n')) ++
                    closing :: v)) := by rw [hspecifier, hclause]
            _ = _ := by simp [ImportText.text]
      · simp at h
    · simp at h
  · simp at h

/-! ### Items of a scan -/

theorem exists_statement_of_step {file before t : Text} {depth : Nat} {c : Char} {s : Step}
    (h : step file before depth c t = .ok s) {item : Item} (hitem : s.item = some item) :
    ∃ u rest, statement? file u = .ok (some (some item, rest)) := by
  unfold step at h
  split at h
  · split at h
    · cases h; cases hitem
    · cases h
  split at h
  · cases h; cases hitem
  split at h
  · cases h; cases hitem
  split at h
  · cases h; cases hitem
  split at h
  · obtain ⟨found, hfound, h⟩ := exists_ok_of_bind h
    split at h
    · cases h
      exact ⟨_, _, by rw [hfound, ← hitem]⟩
    · cases h; cases hitem
  · cases h; cases hitem

/-- What holds of every statement holds of every item of a scan. -/
theorem forall_mem_items_scan {P : Item → Prop} {file : Text}
    (hP : ∀ t item rest, statement? file t = .ok (some (some item, rest)) → P item)
    (before : Text) (depth : Nat) (t : Text) :
    ∀ item ∈ (scan file before depth t).items, P item := by
  fun_induction scan file before depth t with
  | case1 => simp
  | case2 => simp
  | case3 before depth c t s hs later ih =>
    intro item hitem
    rcases List.mem_append.1 hitem with hitem | hitem
    · obtain ⟨u, rest, hu⟩ := exists_statement_of_step hs (by simpa using hitem)
      exact hP u item rest hu
    · exact ih item hitem

theorem declared_ne_imported {header : Header} {t rest : Text} {item : Item}
    (h : declared header t = .ok (some item, rest)) (i : ImportStatement) : item ≠ .imported i := by
  unfold declared at h
  obtain ⟨u, -, h⟩ := exists_ok_of_bind h
  split at h
  · obtain ⟨v, -, h⟩ := exists_ok_of_bind h
    obtain ⟨⟨body, rest⟩, -, h⟩ := exists_ok_of_bind h
    obtain ⟨m, -, h⟩ := exists_ok_of_bind h
    cases h
    simp [Item.ofBody]
  · split at h
    · cases h
    · obtain ⟨⟨body, rest⟩, -, h⟩ := exists_ok_of_bind h
      dsimp only at h
      split at h
      · cases h
        simp
      · obtain ⟨m, -, h⟩ := exists_ok_of_bind h
        cases h
        simp [Item.ofBody]

theorem exists_importText_of_statement? {file t rest : Text} {i : ImportStatement}
    (h : statement? file t = .ok (some (some (.imported i), rest))) :
    ∃ x : ImportText, i = ⟨file, x.text, x.specifier, Path.isRelative x.specifier⟩ := by
  unfold statement? at h
  split at h
  · next hi =>
    cases h
    obtain ⟨x, hx, -⟩ := import?_eq_some hi
    exact ⟨x, hx⟩
  · split at h
    · obtain ⟨⟨item, rest⟩, hdeclared, h⟩ := exists_ok_of_map h
      cases h
      exact absurd rfl (declared_ne_imported hdeclared i)
    · cases h

end Declaration

namespace Document

open Declaration

theorem exists_scan_of_ofSource {visibility : Visibility} {file source : Text} {d : Document}
    (h : (ofSource visibility file source).1 = .ok d) :
    ∃ text, Source.withoutComments source = .ok text ∧ (scan file [] 0 text).stuck = none ∧
      d = ofItems visibility file (scan file [] 0 text).items (exportEntries text) := by
  unfold ofSource at h
  split at h
  · cases h
  · next text htext =>
    refine ⟨text, htext, ?_⟩
    dsimp only at h
    split at h
    · cases h
    · next hstuck => exact ⟨hstuck, (Except.ok.inj h).symm⟩

/-- The imports of a document are texts with a specifier in quotes at their end. -/
theorem exists_importText_of_mem_imports {visibility : Visibility} {file source : Text}
    {d : Document} (h : (ofSource visibility file source).1 = .ok d) {i : ImportStatement}
    (hi : i ∈ d.imports) :
    ∃ x : ImportText, i = ⟨file, x.text, x.specifier, Path.isRelative x.specifier⟩ := by
  obtain ⟨text, -, -, rfl⟩ := exists_scan_of_ofSource h
  obtain ⟨item, hitem, hi⟩ := List.mem_filterMap.1 hi
  refine forall_mem_items_scan (P := fun item => ∀ i, item = .imported i → ∃ x : ImportText,
    i = ⟨file, x.text, x.specifier, Path.isRelative x.specifier⟩) ?_ [] 0 text item hitem i ?_
  · rintro t item rest hstatement i rfl
    exact exists_importText_of_statement? hstatement
  · split at hi
    · cases hi; rfl
    · cases hi

end Document

end ShapeMapper
