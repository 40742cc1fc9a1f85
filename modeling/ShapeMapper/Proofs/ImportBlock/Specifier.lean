import ShapeMapper.ImportBlock
import ShapeMapper.Proofs.Path.Canonical

/-!
# Anchored specifiers

A module specifier is taken for a path, and not for the name of a package, if it is anchored: if its
first segment is one dot or two. A generated specifier is anchored unless its file lies below the
directory of the generated file and the first name on the way down begins with a dot of its own; no
dot is put in front of such a way (`Site.isAnchored_specifier`).
-/

namespace ShapeMapper

namespace Path

/-- Whether a specifier is a dot or two, alone or before a slash. -/
def IsAnchored (p : Text) : Prop :=
  p = here ∨ p = up ∨ here ++ ['/'] <+: p ∨ up ++ ['/'] <+: p

instance (p : Text) : Decidable (IsAnchored p) :=
  inferInstanceAs (Decidable (p = here ∨ p = up ∨ here ++ ['/'] <+: p ∨ up ++ ['/'] <+: p))

example : IsAnchored "../a".toList ∧ ¬IsAnchored ".a/b".toList ∧ ¬IsAnchored "a/..".toList := by
  decide

/-! ### Segments and extensions -/

/-- A segment with others behind it stands before a slash. -/
theorem append_slash_prefix_joined (s : Text) {l : List Text} (h : l ≠ []) :
    s ++ ['/'] <+: joined (s :: l) := by
  obtain ⟨t, l, rfl⟩ := List.exists_cons_of_ne_nil h
  exact ⟨joined (t :: l), (List.intercalate_cons_cons ..).symm⟩

/-- A path with a given first segment is that segment, alone or before a slash. -/
theorem head?_segments_eq_some_iff {p s : Text} (hs : '/' ∉ s) :
    (segments p).head? = some s ↔ p = s ∨ s ++ ['/'] <+: p := by
  constructor
  · intro h
    obtain ⟨l, hl⟩ := List.head?_eq_some_iff.1 h
    have hp : joined (s :: l) = p := hl ▸ joined_segments p
    by_cases hnil : l = []
    · exact .inl (by rw [← hp, hnil, joined, List.intercalate_singleton])
    · exact .inr (hp ▸ append_slash_prefix_joined s hnil)
  · rintro (rfl | ⟨t, rfl⟩)
    · rw [segments_of_slash_notMem hs]
      rfl
    · have hcut := segments_append_slash s t
      rw [segments_of_slash_notMem hs] at hcut
      rw [List.append_assoc]
      exact congrArg List.head? hcut

theorem isAnchored_iff {p : Text} : IsAnchored p ↔
    (segments p).head? = some here ∨ (segments p).head? = some up := by
  rw [head?_segments_eq_some_iff (by decide), head?_segments_eq_some_iff (by decide), IsAnchored,
    or_or_or_comm, or_assoc]

/-- A path that begins with a name is no more anchored than the name, and as relative. -/
theorem isRelative_and_not_isAnchored {p name : Text} (hname : IsName name) (hslash : '/' ∉ name)
    (hrelative : isRelative name = true) (h : p = name ∨ name ++ ['/'] <+: p) :
    isRelative p = true ∧ ¬IsAnchored p := by
  constructor
  · rcases h with rfl | ⟨t, rfl⟩
    · exact hrelative
    · obtain ⟨c, name, rfl⟩ := List.exists_cons_of_ne_nil hname.ne_nil
      exact hrelative
  · rw [isAnchored_iff, (head?_segments_eq_some_iff hslash).2 h, Option.some.injEq,
      Option.some.injEq]
    rintro (h | h)
    · exact hname.ne_here h
    · exact hname.ne_up h

/-- An extension holds no slash, so it ends a path if it ends what stands after a slash. -/
theorem isSuffixOf_append_slash {extension : Text} (h : extension ∈ extensions) (a b : Text) :
    extension.isSuffixOf (a ++ '/' :: b) = extension.isSuffixOf b := by
  have hslash : ∀ extension ∈ extensions, '/' ∉ extension := by decide
  rw [Bool.eq_iff_iff, List.isSuffixOf_iff_suffix, List.isSuffixOf_iff_suffix]
  constructor
  · intro hsuffix
    rcases List.suffix_or_suffix_of_suffix hsuffix (List.suffix_append a ('/' :: b)) with hs | hs
    · rcases List.suffix_cons_iff.1 hs with rfl | hs
      · exact absurd List.mem_cons_self (hslash _ h)
      · exact hs
    · exact absurd (hs.subset List.mem_cons_self) (hslash _ h)
  · intro hsuffix
    exact hsuffix.trans ((List.suffix_cons '/' b).trans (List.suffix_append a ('/' :: b)))

/-- Only the last segment of a path loses an extension. -/
theorem withoutExtension_append_slash (a b : Text) :
    withoutExtension (a ++ '/' :: b) = a ++ '/' :: withoutExtension b := by
  have hfind : extensions.find? (·.isSuffixOf (a ++ '/' :: b)) =
      extensions.find? (·.isSuffixOf b) := by
    rw [← List.head?_filter, ← List.head?_filter,
      List.filter_congr fun extension h => isSuffixOf_append_slash h a b]
  unfold withoutExtension
  rw [hfind]
  split
  · next extension hextension =>
    have hsuffix : extension <:+ b := by simpa using List.find?_some hextension
    have hlength := hsuffix.length_le
    rw [List.length_append, List.length_cons, List.take_append,
      List.take_of_length_le (by omega),
      show a.length + (b.length + 1) - extension.length - a.length =
        b.length - extension.length + 1 by omega, List.take_succ_cons]
  · rfl

theorem append_slash_prefix_withoutExtension {s p : Text} (h : s ++ ['/'] <+: p) :
    s ++ ['/'] <+: withoutExtension p := by
  obtain ⟨t, rfl⟩ := h
  refine ⟨withoutExtension t, ?_⟩
  rw [List.append_assoc, List.append_assoc]
  exact (withoutExtension_append_slash s t).symm

theorem IsAnchored.withoutExtension {p : Text} (h : IsAnchored p) :
    IsAnchored (withoutExtension p) := by
  rcases h with rfl | rfl | h | h
  · decide
  · decide
  · exact .inr (.inr (.inl (append_slash_prefix_withoutExtension h)))
  · exact .inr (.inr (.inr (append_slash_prefix_withoutExtension h)))

/-! ### Ways down -/

/-- A route goes up first, or its target lies below its start. -/
theorem route_eq_up_cons_or (xs ys : List Text) :
    (∃ l, route xs ys = up :: l) ∨ ys = xs ++ route xs ys := by
  fun_induction route xs ys with
  | case1 xs y ys ih =>
    rcases ih with ⟨l, hl⟩ | hys
    · exact .inl ⟨l, hl⟩
    · exact .inr (congrArg (y :: ·) hys)
  | case2 x xs y ys h => exact .inl ⟨_, rfl⟩
  | case3 xs ys h =>
    cases xs with
    | nil => exact .inr rfl
    | cons x xs => exact .inl ⟨_, rfl⟩

theorem route_append_left (xs ys : List Text) : route xs (xs ++ ys) = ys := by
  induction xs with
  | nil => rfl
  | cons x xs ih => rw [List.cons_append, route, if_pos rfl, ih]

variable {cwd source target : Text}

section Reach

variable (hsource : Rooted source) (htarget : Rooted target)
  (hback : ∀ s ∈ Location.ofPath target, '\\' ∉ s)
include hsource htarget hback

/-- Only a way down that begins with a dot of its own leads to a specifier that is not anchored. -/
theorem isAnchored_relative (hdown : ∀ name rest,
    Location.ofPath target = Location.ofPath (directory source) ++ name :: rest →
      isRelative name = false) : IsAnchored (relative cwd source target) := by
  rw [relative_eq_of_rooted hsource htarget, withSlashes_route hback]
  have hsegment : ∀ s ∈ route (Location.ofPath (directory source)) (Location.ofPath target),
      s ≠ [] ∧ '/' ∉ s := by
    intro s hs
    rcases mem_route hs with rfl | hs
    · decide
    · exact ⟨(mem_of_mem_reduce hs).2.1, slash_notMem_of_mem_reduce hs⟩
  rw [isAnchored_iff, segments_dotted hsegment]
  rcases route_eq_up_cons_or (Location.ofPath (directory source)) (Location.ofPath target) with
    ⟨l, hroute⟩ | htail
  · rw [hroute, if_pos (show (up :: l).head?.any isRelative = true from rfl)]
    exact .inr rfl
  · cases hroute : route (Location.ofPath (directory source)) (Location.ofPath target) with
    | nil => exact .inl rfl
    | cons name rest =>
      have hname := hdown name rest (hroute ▸ htail)
      rw [List.head?_cons, Option.any_some, hname, if_neg (by decide)]
      exact .inl rfl

/-- A way down that begins with a dot of its own is its specifier. -/
theorem relative_eq_joined {name : Text} {rest : List Text}
    (hdown : Location.ofPath target = Location.ofPath (directory source) ++ name :: rest)
    (hname : isRelative name = true) : relative cwd source target = joined (name :: rest) := by
  have hne : name ≠ [] := by
    rintro rfl
    cases hname
  rw [relative_eq_of_rooted hsource htarget, withSlashes_route hback, hdown, route_append_left,
    ofSegments, if_neg (List.cons_ne_nil name rest), dotted, isRelative_joined name rest hne,
    if_pos hname]

end Reach

end Path

namespace Site

open ShapeMapper.Path

/-- A file outside the directory of the generated file, or below it by a way that does not begin
with a dot of its own, has an anchored specifier. A way that does begin with one is written without
a dot in front, so the specifier of a file below a directory of such a name, or of a file of such a
name that keeps its extension, begins with a dot and is not anchored. -/
theorem isAnchored_specifier {s : Site} {file : Text} (houtput : OneSlash s.output)
    (hfile : OneSlash file) (hback : '\\' ∉ file) :
    ((∀ name rest, Location.ofPath file = Location.ofPath (directory s.output) ++ name :: rest →
      isRelative name = false) → IsAnchored (s.specifier file)) ∧
    ∀ name rest, Location.ofPath file = Location.ofPath (directory s.output) ++ name :: rest →
      isRelative name = true → s.stripExtension = false ∨ rest ≠ [] →
        isRelative (s.specifier file) = true ∧ ¬IsAnchored (s.specifier file) := by
  have hback : ∀ t ∈ Location.ofPath file, '\\' ∉ t := backslash_notMem_of_mem_ofPath hback
  constructor
  · intro hdown
    have hanchored : IsAnchored (relative s.cwd s.output file) :=
      isAnchored_relative houtput.1 hfile.1 hback hdown
    unfold specifier
    cases s.stripExtension
    · exact hanchored
    · exact hanchored.withoutExtension
  · intro name rest hdown hname hkept
    have hrelative : relative s.cwd s.output file = joined (name :: rest) :=
      relative_eq_joined houtput.1 hfile.1 hback hdown hname
    have hmem : name ∈ reduce true (segments file) := by
      show name ∈ Location.ofPath file
      rw [hdown]
      exact List.mem_append_right _ List.mem_cons_self
    refine isRelative_and_not_isAnchored (isName_of_mem_reduce hmem)
      (slash_notMem_of_mem_reduce hmem) hname ?_
    unfold specifier
    rw [hrelative]
    by_cases hrest : rest = []
    · -- nothing but the name is left, and it keeps its extension
      have hkeeps : s.stripExtension = false := hkept.resolve_right fun h => h hrest
      rw [hkeeps, hrest]
      exact .inl (show joined [name] = name from List.intercalate_singleton)
    · have hprefix : name ++ ['/'] <+: joined (name :: rest) :=
        append_slash_prefix_joined name hrest
      cases s.stripExtension
      · exact .inr hprefix
      · exact .inr (append_slash_prefix_withoutExtension hprefix)

/-- A hidden directory on a way that goes up first, and one on a way down. -/
theorem isAnchored_specifier_upFirst :
    let s : Site := { cwd := ['/'], output := "/out/mapper.ts".toList }
    let sibling := "/.src/user.ts".toList
    let below := "/out/.src/user.ts".toList
    OneSlash s.output ∧ OneSlash sibling ∧ OneSlash below ∧ '\\' ∉ sibling ∧ '\\' ∉ below ∧
      IsAnchored (s.specifier sibling) ∧ isRelative (s.specifier below) = true ∧
      ¬IsAnchored (s.specifier below) := by
  intro s sibling below
  have houtput : OneSlash s.output := ⟨by decide +kernel, by decide +kernel⟩
  have hsibling : OneSlash sibling := ⟨by decide +kernel, by decide +kernel⟩
  have hbelow : OneSlash below := ⟨by decide +kernel, by decide +kernel⟩
  have hback : '\\' ∉ sibling ∧ '\\' ∉ below := by decide +kernel
  have hup : IsAnchored (s.specifier sibling) := by
    refine (isAnchored_specifier houtput hsibling hback.1).1 fun name rest h => ?_
    have hout : Location.ofPath (directory s.output) = ["out".toList] := by decide +kernel
    have hfirst : (Location.ofPath sibling).head? = some "out".toList := by
      rw [h, hout]
      rfl
    exact absurd hfirst (by decide +kernel)
  have hdown := (isAnchored_specifier houtput hbelow hback.2).2 ".src".toList
    ["user.ts".toList] (by decide +kernel) (by decide) (.inr (List.cons_ne_nil _ _))
  exact ⟨houtput, hsibling, hbelow, hback.1, hback.2, hup, hdown⟩

/-- The specifier of a file in a hidden directory beside the generated file is not anchored. -/
theorem not_isAnchored_specifier_hidden :
    let s : Site := { cwd := ['/'], output := "/out/mapper.ts".toList }
    let file := "/out/.hidden/user.ts".toList
    OneSlash s.output ∧ '\\' ∉ s.output ∧ OneSlash file ∧ '\\' ∉ file ∧
      s.specifier file = ".hidden/user".toList ∧ ¬IsAnchored (s.specifier file) :=
  ⟨⟨by decide +kernel, by decide +kernel⟩, by decide +kernel,
    ⟨by decide +kernel, by decide +kernel⟩, by decide +kernel, by decide +kernel,
    by decide +kernel⟩

end Site

end ShapeMapper
