import ShapeMapper.ImportBlock
import ShapeMapper.Proofs.Declaration.Import
import ShapeMapper.Proofs.Path.Specifier

/-!
# Relocated imports

Relocation changes the specifier of an import and nothing else (`relocate_text`), and the new
specifier denotes from the generated file what the old one denoted from the declaration file. So
an import may be relocated again from where it went: `relocate_of_mem_imports`.
-/

namespace ShapeMapper

/-- A text that ends in another is cut there. -/
theorem Text.cutLast?_append {sep : Text} (h : sep ≠ []) (before : Text) :
    cutLast? sep (before ++ sep) = some (before, []) := by
  induction before with
  | nil =>
    obtain ⟨c, t, rfl⟩ := List.exists_cons_of_ne_nil h
    -- no room is left for a later occurrence
    have hnone : cutLast? (c :: t) t = none := by
      by_contra hsome
      obtain ⟨⟨b, r⟩, hbr⟩ := Option.ne_none_iff_exists'.1 hsome
      have hlength := congrArg List.length (eq_append_of_cutLast? hbr)
      simp at hlength
      omega
    simp [cutLast?, hnone, after?_eq_some_iff.2 (List.append_nil (c :: t)).symm]
  | cons c before ih => simp [cutLast?, ih]

theorem Text.cutLast?_eq_none {sep t : Text} {c : Char} (hc : c ∈ sep) (ht : c ∉ t) :
    cutLast? sep t = none := by
  by_contra hsome
  obtain ⟨⟨b, r⟩, hbr⟩ := Option.ne_none_iff_exists'.1 hsome
  rw [eq_append_of_cutLast? hbr] at ht
  simp [hc] at ht

namespace ImportText

/-- The same import with another specifier. -/
def withSpecifier (x : ImportText) (p : Text) (h : ∀ c ∈ p, c ≠ '\'' ∧ c ≠ '"') : ImportText :=
  { x with specifier := p, specifier_quoteless := h }

theorem notMem_text {x : ImportText} {c : Char} (hc : c = '\'' ∨ c = '"') (h : c ≠ x.quote) :
    c ∉ x.text := by
  intro hmem
  have hne (d : Char) (hd : d ≠ '\'' ∧ d ≠ '"') : c ≠ d := by
    rintro rfl
    exact hc.elim hd.1 hd.2
  simp only [text, List.append_assoc, List.mem_append, List.mem_cons, List.not_mem_nil,
    or_false] at hmem
  rcases hmem with hmem | (hmem | hmem) | hmem
  · exact hne c (x.start_quoteless c hmem) rfl
  · exact h hmem
  · exact hne c (x.specifier_quoteless c hmem) rfl
  · exact h hmem

end ImportText

namespace Site

theorem replaceQuoted_text (x : ImportText) (new : Text) :
    (replaceQuoted '\'' x.specifier new x.text).or (replaceQuoted '"' x.specifier new x.text) =
      some (x.start ++ x.quote :: new ++ [x.quote]) := by
  have hsame : replaceQuoted x.quote x.specifier new x.text =
      some (x.start ++ x.quote :: new ++ [x.quote]) := by
    have htext : x.text = x.start ++ (x.quote :: x.specifier ++ [x.quote]) := by
      simp [ImportText.text]
    rw [replaceQuoted, htext, Text.cutLast?_append (by simp)]
    simp
  rcases x.quote_eq with hquote | hquote
  · rw [← hquote, hsame]
    rfl
  · have hother : replaceQuoted '\'' x.specifier new x.text = none := by
      rw [replaceQuoted, Text.cutLast?_eq_none (c := '\'') (by simp)
        (x.notMem_text (.inl rfl) (by rw [hquote]; decide))]
      rfl
    rw [hother, ← hquote, hsame]
    rfl

/-- A relocated import differs from the import in its specifier only. -/
theorem relocate_text (s : Site) (file : Text) {x : ImportText}
    (h : Path.isRelative x.specifier = true) :
    s.relocate ⟨file, x.text, x.specifier, Path.isRelative x.specifier⟩ =
      x.start ++ x.quote :: Path.relative s.cwd s.output (Path.beside file x.specifier) ++
        [x.quote] := by
  simp only [relocate, h, Bool.not_true, Bool.false_eq_true, if_false, replaceQuoted_text]
  rfl

end Site

namespace Document

/-- A path that names a file by one slash at its start, without backslashes and quotes. -/
structure IsFilePath (p : Text) : Prop where
  oneSlash : Path.OneSlash p
  backslash_notMem : '\\' ∉ p
  quoteless : ∀ c ∈ p, c ≠ '\'' ∧ c ≠ '"'

/-- The characters of a specifier come from the file and from the specifier before. -/
theorem quoteless_relative {cwd output file p : Text} (houtput : Path.Rooted output)
    (hfile : IsFilePath file) (hp : ¬Path.Rooted p) (hback : '\\' ∉ p)
    (hquote : ∀ c ∈ p, c ≠ '\'' ∧ c ≠ '"') :
    ∀ c ∈ Path.relative cwd output (Path.beside file p), c ≠ '\'' ∧ c ≠ '"' := by
  have hroot : Path.Rooted (Path.beside file p) :=
    Path.rooted_normalize_iff.2 (hfile.oneSlash.directory.append hp).1
  have hmem : ∀ s ∈ Location.ofPath (Path.beside file p), ∀ c ∈ s, c ∈ file ∨ c ∈ p := by
    intro s hs c hc
    exact Path.mem_of_mem_beside hfile.oneSlash hp hs hc
  intro c hc
  rcases Path.mem_of_mem_relative houtput hroot
    (fun s hs hc => (hmem s hs _ hc).elim hfile.backslash_notMem hback) hc with
    rfl | rfl | ⟨s, hs, hc⟩
  · decide
  · decide
  · exact (hmem s hs c hc).elim (hfile.quoteless c) (hquote c)

/-- An import of a file, relocated to a generated file: its text changes between its quotes only,
the new specifier denotes there what the old one denoted in its file, and to relocate it again
from there, to the same file or to another, is to relocate the import itself. -/
theorem relocate_of_mem_imports {visibility : Visibility} {file source : Text} {d : Document}
    (hd : (ofSource visibility file source).1 = .ok d) {i : ImportStatement} (hi : i ∈ d.imports)
    (hrelative : i.relative = true) (hback : '\\' ∉ i.specifier) (hfile : IsFilePath file)
    (site : Site) (houtput : IsFilePath site.output) :
    ∃ x y : ImportText, i.text = x.text ∧ i.specifier = x.specifier ∧
      site.relocate i = y.text ∧ y.start = x.start ∧ y.quote = x.quote ∧
      Path.beside site.output y.specifier = Path.beside file i.specifier ∧
      ∀ other : Site,
        other.relocate ⟨site.output, y.text, y.specifier, Path.isRelative y.specifier⟩ =
          other.relocate i := by
  obtain ⟨x, rfl⟩ := exists_importText_of_mem_imports hd hi
  have hp : ¬Path.Rooted x.specifier := Path.not_rooted_of_isRelative hrelative
  obtain ⟨y, hstart, hquote, hspecifier⟩ : ∃ y : ImportText, y.start = x.start ∧
      y.quote = x.quote ∧
      y.specifier = Path.relative site.cwd site.output (Path.beside file x.specifier) :=
    ⟨x.withSpecifier _ (quoteless_relative houtput.oneSlash.1 hfile hp hback
      x.specifier_quoteless), rfl, rfl, rfl⟩
  have hbeside : Path.beside site.output y.specifier = Path.beside file x.specifier := by
    rw [hspecifier, Path.beside_relative houtput.oneSlash hfile.oneSlash hp
      hfile.backslash_notMem hback]
  have hy : Path.isRelative y.specifier = true := hspecifier ▸ Path.isRelative_relative ..
  refine ⟨x, y, rfl, rfl, ?_, hstart, hquote, hbeside, fun other => ?_⟩
  · rw [site.relocate_text file hrelative, ImportText.text, hstart, hquote, hspecifier]
  · rw [other.relocate_text site.output hy, other.relocate_text file hrelative, hstart, hquote,
      hbeside]

/-- An import that goes up a directory, relocated to a file elsewhere. -/
theorem exists_relocated_import :
    ∃ (d : Document) (i : ImportStatement) (site : Site),
      (ofSource .all "/src/model/user.ts".toList
        "import { Address } from '../shared/address';\n".toList).1 = .ok d ∧
      i ∈ d.imports ∧ i.relative = true ∧ '\\' ∉ i.specifier ∧
      IsFilePath "/src/model/user.ts".toList ∧ IsFilePath site.output ∧
      ∃ x y : ImportText, i.text = x.text ∧ i.specifier = x.specifier ∧
        site.relocate i = y.text ∧ y.start = x.start ∧ y.quote = x.quote ∧
        Path.beside site.output y.specifier =
          Path.beside "/src/model/user.ts".toList i.specifier ∧
        ∀ other : Site,
          other.relocate ⟨site.output, y.text, y.specifier, Path.isRelative y.specifier⟩ =
            other.relocate i := by
  have hd : (ofSource .all "/src/model/user.ts".toList
      "import { Address } from '../shared/address';\n".toList).1 =
      .ok { file := "/src/model/user.ts".toList, entities := [], imports := [{
        file := "/src/model/user.ts".toList
        text := "import { Address } from '../shared/address'".toList
        specifier := "../shared/address".toList
        relative := true }] } := by decide +kernel
  have hfile : IsFilePath "/src/model/user.ts".toList :=
    ⟨⟨by decide +kernel, by decide +kernel⟩, by decide +kernel, by simp⟩
  have houtput : IsFilePath "/out/mapper.ts".toList :=
    ⟨⟨by decide +kernel, by decide +kernel⟩, by decide +kernel, by simp⟩
  exact ⟨_, _, { cwd := ['/'], output := "/out/mapper.ts".toList }, hd, List.mem_singleton_self _,
    rfl, by decide +kernel, hfile, houtput,
    relocate_of_mem_imports hd (List.mem_singleton_self _) rfl (by decide +kernel) hfile _ houtput⟩

end Document

end ShapeMapper
