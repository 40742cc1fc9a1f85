import ShapeMapper.Proofs.Declaration.Member
import ShapeMapper.Proofs.ImportBlock.Coverage
import ShapeMapper.Proofs.Pairs
import ShapeMapper.Proofs.Template.CustomMap
import ShapeMapper.Proofs.Text.Line

/-!
# The names of mappers

The bundled template names a mapper after the shapes that it maps, with a word between them
(`mapperName`). A name that holds this word can be taken apart in more than one way, so the mappers
of different pairs may share a name (`mapperName_eq_iff`). The names that a module exports are read
off its lines (`exportedNames`), and no line but the head of a mapper exports one: the rest of a
mapper has no line that begins as such a head does (`Text.NoLineBegins`). Hence the names of the
mappers of a request are different just if none of them can be taken apart in two ways:
`Run.nodup_exportedNames_iff`.
-/

namespace ShapeMapper

/-! ### Names of two shapes -/

/-- The name of the mapper between two shapes. -/
def mapperName (shapes : Text × Text) : Text :=
  "map".toList ++ shapes.1 ++ "To".toList ++ shapes.2

/-- Whether the name of the mapper from `s` to `u` is also that of a mapper from a longer source
`s'` to a shorter target `u'`: what the one has more is `taken` from the other. -/
def Overlap (s s' u u' : Text) : Prop :=
  ∃ taken, s' = s ++ "To".toList ++ taken ∧ u = taken ++ "To".toList ++ u'

section names

variable {s s' u u' : Text}

theorem Overlap.mapperName_eq (h : Overlap s s' u u') :
    mapperName (s, u) = mapperName (s', u') := by
  obtain ⟨taken, rfl, rfl⟩ := h
  simp only [mapperName, List.append_assoc]

theorem Overlap.ne (h : Overlap s s' u u') : s ≠ s' := by
  obtain ⟨taken, rfl, -⟩ := h
  simp

/-- The word between the shapes is part of what the longer source has more, since it does not
overlap with itself. -/
theorem overlap_of_append_eq {x : Text} (hx : x ≠ [])
    (h : "To".toList ++ u = x ++ ("To".toList ++ u')) : Overlap s (s ++ x) u u' := by
  have hword : "To".toList = ['T', 'o'] := rfl
  rw [hword] at h
  match x, hx with
  | [c], _ => simp at h
  | c :: d :: taken, _ =>
    simp only [List.cons_append, List.nil_append, List.cons.injEq] at h
    obtain ⟨rfl, rfl, rfl⟩ := h
    exact ⟨taken, by simp [hword], by simp [hword]⟩

/-- Two mappers share a name only if their shapes overlap. -/
theorem mapperName_eq_iff : mapperName (s, u) = mapperName (s', u') ↔
    (s, u) = (s', u') ∨ Overlap s s' u u' ∨ Overlap s' s u' u := by
  constructor
  · intro h
    simp only [mapperName, List.append_assoc, List.append_cancel_left_eq] at h
    rcases List.append_eq_append_iff.1 h with ⟨x, rfl, hu⟩ | ⟨x, rfl, hu⟩
    · by_cases hx : x = []
      · subst hx
        rw [List.append_nil, List.append_cancel_left hu]
        exact .inl rfl
      · exact .inr (.inl (overlap_of_append_eq hx hu))
    · by_cases hx : x = []
      · subst hx
        rw [List.append_nil, List.append_cancel_left hu]
        exact .inl rfl
      · exact .inr (.inr (overlap_of_append_eq hx hu))
  · rintro (h | h | h)
    · rw [h]
    · exact h.mapperName_eq
    · exact h.mapperName_eq.symm

/-- The mappers from some shapes to others have different names just if no two of them overlap. -/
theorem nodup_map_mapperName_iff {sources targets : List Text} (hsources : sources.Nodup)
    (htargets : targets.Nodup) : ((sources ×ˢ targets).map mapperName).Nodup ↔
      ¬∃ s ∈ sources, ∃ s' ∈ sources, ∃ u ∈ targets, ∃ u' ∈ targets, Overlap s s' u u' := by
  rw [List.nodup_map_iff_inj_on (hsources.product htargets)]
  constructor
  · rintro hinj ⟨s, hs, s', hs', u, hu, u', hu', h⟩
    have heq := hinj (s, u) (List.mem_product.2 ⟨hs, hu⟩) (s', u') (List.mem_product.2 ⟨hs', hu'⟩)
      h.mapperName_eq
    exact h.ne (congrArg Prod.fst heq)
  · rintro hnone ⟨s, u⟩ hmem ⟨s', u'⟩ hmem' hname
    obtain ⟨hs, hu⟩ := List.mem_product.1 hmem
    obtain ⟨hs', hu'⟩ := List.mem_product.1 hmem'
    rcases mapperName_eq_iff.1 hname with heq | h | h
    · exact heq
    · exact absurd ⟨s, hs, s', hs', u, hu, u', hu', h⟩ hnone
    · exact absurd ⟨s', hs', s, hs, u', hu', u, hu, h⟩ hnone

end names

/-! ### Reading the names that a module exports -/

/-- The name of the constant that a line exports. -/
def exportedName? (line : Text) : Option Text :=
  ((Text.after? "export const ".toList line).bind Text.name?).map Prod.fst

/-- The names of the constants that a module exports, line by line. -/
def exportedNames (t : Text) : List Text :=
  (t.splitOn '\n').filterMap exportedName?

theorem exportedNames_append (t u : Text) :
    exportedNames (t ++ '\n' :: u) = exportedNames t ++ exportedNames u := by
  simp only [exportedNames, List.splitOn_eq_splitOnP]
  rw [List.splitOnP_append_cons t u (by rfl), List.filterMap_append]

/-- A line by itself. -/
theorem exportedNames_line {line : Text} (h : '\n' ∉ line) :
    exportedNames line = (exportedName? line).toList := by
  have hsplit : line.splitOn '\n' = [line] := by
    rw [List.splitOn_eq_splitOnP, List.splitOnP_eq_singleton]
    intro c hc
    exact beq_false_of_ne fun heq => h (heq ▸ hc)
  rw [exportedNames, hsplit, List.filterMap_cons]
  cases exportedName? line <;> rfl

/-- A text without a line that begins as an export exports nothing. -/
theorem exportedNames_eq_nil {t : Text} (h : Text.NoLineBegins 'e' t) : exportedNames t = [] := by
  rw [exportedNames, List.filterMap_eq_nil_iff]
  intro line hline
  have hafter : Text.after? "export const ".toList line = none := by
    rw [Option.eq_none_iff_forall_ne_some]
    intro rest hrest
    obtain rfl := Text.after?_eq_some_iff.1 hrest
    exact h.head?_ne hline rfl
  rw [exportedName?, hafter]
  rfl

/-! ### The lines of a mapper -/

theorem Text.IsWord.newline_notMem {t : Text} (h : IsWord t) : '\n' ∉ t :=
  newline_notMem_of_isNameChar h.isNameChar

namespace Access

theorem isOneLine_of_isPlain {name : Text} (h : isPlain name = true) : Text.IsOneLine name := by
  have hname (n : Written.Name) : '\n' ∉ n.text :=
    Text.newline_notMem_of_isNameChar fun _ => Written.Name.isNameChar_of_mem
  obtain ⟨n, rfl | rfl⟩ := exists_name_of_isPlain h
  · exact Text.isOneLine_of_notMem (hname n)
  · exact Text.isOneLine_append_newline (hname n)

theorem isOneLine_key (name : Text) : Text.IsOneLine (key name) := by
  unfold key
  split
  · next h => exact isOneLine_of_isPlain h
  · exact Text.isOneLine_of_notMem (Text.Quoted.newline_notMem_encode name)

theorem isOneLine_member (name : Text) (guarded : Bool) :
    Text.IsOneLine (member name guarded) := by
  unfold member
  split
  · next h =>
    cases guarded with
    | true => exact isOneLine_of_isPlain h
    | false => exact (isOneLine_of_isPlain h).append (u := ['.']) (by decide)
  · refine Text.isOneLine_of_notMem ?_
    simp [Text.Quoted.newline_notMem_encode]

end Access

/-- Whether a plan is between two shapes with words for names, and what its functions return stands
on one line. -/
structure Plan.IsLegible (p : Plan) : Prop where
  isWord_source : Text.IsWord p.source
  isWord_target : Text.IsWord p.target
  newline_notMem_returnType : ∀ s ∈ p.slots, '\n' ∉ s.returnType

theorem newline_notMem_optionalMark (optional : Bool) : '\n' ∉ optionalMark optional := by
  cases optional <;> decide

theorem Slot.noLineBegins_declaration {source : Text} {s : Slot} (hsource : '\n' ∉ source)
    (h : '\n' ∉ s.returnType) : Text.NoLineBegins 'e' (s.declaration source) := by
  have hkey := (Access.isOneLine_key s.name).noLineBegins_append (u := "    ".toList) (c := 'e')
    (by decide) (by decide)
  have hrest : Text.NoLineBegins 'e' (optionalMark s.optional ++ (": (source: ".toList ++ source ++
      ") => ".toList ++ s.returnType ++ ['\n'])) := by
    refine Text.IsOneLine.noLineBegins ?_ ?_
    · rw [← List.append_assoc]
      refine Text.isOneLine_append_newline ?_
      simp [hsource, h, newline_notMem_optionalMark]
    · cases s.optional <;> simp [optionalMark]
  unfold declaration
  simpa only [List.append_assoc] using hkey.append hrest

/-- What is written after some words on a line is a name or a text in quotes, and both are single
lines. -/
theorem Slot.noLineBegins_assignment (s : Slot) : Text.NoLineBegins 'e' s.assignment := by
  have hcustom : Text.NoLineBegins 'e'
      ("customMap".toList ++ Access.member s.name false ++ "(source)".toList) :=
    ((Access.isOneLine_member s.name false).noLineBegins_append (by decide) (by decide)).append
      (by decide)
  have hkey : Text.NoLineBegins 'e' ("  ".toList ++ Access.key s.name) :=
    (Access.isOneLine_key s.name).noLineBegins_append (by decide) (by decide)
  unfold assignment
  cases s.route with
  | custom => exact ((hkey.append (by decide)).append hcustom).append (by decide)
  | copied =>
    have hguard : Text.NoLineBegins 'e'
        ("customMap?.".toList ++ Access.member s.name true ++ " ? ".toList) :=
      ((Access.isOneLine_member s.name true).noLineBegins_append (by decide) (by decide)).append
        (by decide)
    have hsource : Text.NoLineBegins 'e' (" : source".toList ++ Access.member s.name false) :=
      (Access.isOneLine_member s.name false).noLineBegins_append (by decide) (by decide)
    have hvalue := (hguard.append hcustom).append hsource
    rw [← List.append_assoc] at hvalue
    exact ((hkey.append (by decide)).append hvalue).append (by decide)

namespace Plan

/-- The line with the name of a mapper. -/
def nameLine (p : Plan) : Text :=
  "export const ".toList ++ (mapperName p.pair ++ " = (".toList)

/-- What a mapper has after the line with its name, but for the end of its last line. -/
def afterName (p : Plan) : Text :=
  "  source: ".toList ++ p.source ++ ",\n".toList ++
    "  customMap".toList ++ optionalMark p.allOptional ++ ": \x7b\n".toList ++
    p.slots.flatMap (Slot.declaration p.source) ++
    "  \x7d,\n".toList ++ "): ".toList ++ p.target ++ " => (\x7b\n".toList ++
    p.slots.flatMap Slot.assignment ++ "\x7d)".toList

theorem text_eq_lines (p : Plan) :
    p.text = '\n' :: (p.nameLine ++ '\n' :: (p.afterName ++ ['\n'])) := by
  have hhead : "\nexport const map".toList = '\n' :: ("export const ".toList ++ "map".toList) := rfl
  have hopen : " = (\n".toList = " = (".toList ++ ['\n'] := rfl
  have hclose : "\x7d)\n".toList = "\x7d)".toList ++ ['\n'] := rfl
  unfold text nameLine afterName mapperName pair
  rw [hhead, hopen, hclose]
  simp only [List.append_assoc, List.cons_append, List.nil_append]

namespace IsLegible

variable {p : Plan}

theorem isNameChar_mapperName (h : p.IsLegible) :
    ∀ c ∈ mapperName p.pair, Text.isNameChar c = true := by
  have hmap : ∀ c ∈ "map".toList, Text.isNameChar c = true := Text.forall_mem_of_all (by decide)
  have hto : ∀ c ∈ "To".toList, Text.isNameChar c = true := Text.forall_mem_of_all (by decide)
  intro c hc
  simp only [mapperName, pair, List.mem_append] at hc
  rcases hc with ((hc | hc) | hc) | hc
  · exact hmap c hc
  · exact h.isWord_source.isNameChar c hc
  · exact hto c hc
  · exact h.isWord_target.isNameChar c hc

/-- The name is read off the line that it stands on. -/
theorem exportedName?_nameLine (h : p.IsLegible) :
    exportedName? p.nameLine = some (mapperName p.pair) := by
  have hfirst : mapperName p.pair = 'm' :: ("ap".toList ++ p.source ++ "To".toList ++ p.target) :=
    rfl
  have hall := h.isNameChar_mapperName
  rw [hfirst, List.forall_mem_cons] at hall
  have hname : Text.name? (mapperName p.pair ++ " = (".toList) =
      some (mapperName p.pair, " = (".toList) := by
    rw [hfirst]
    exact Written.Name.name?_append ⟨'m', _, by decide, hall.2⟩
      (Text.not_isNameChar_head_cons (c := ' ') (by decide) "= (".toList)
  have hafter : Text.after? "export const ".toList p.nameLine =
      some (mapperName p.pair ++ " = (".toList) := Text.after?_eq_some_iff.2 rfl
  rw [exportedName?, hafter, Option.bind_some, hname]
  rfl

theorem newline_notMem_nameLine (h : p.IsLegible) : '\n' ∉ p.nameLine := by
  have hname := Text.newline_notMem_of_isNameChar h.isNameChar_mapperName
  intro hmem
  rcases List.mem_append.1 hmem with hmem | hmem
  · exact absurd hmem (by decide)
  · rcases List.mem_append.1 hmem with hmem | hmem
    · exact hname hmem
    · exact absurd hmem (by decide)

theorem noLineBegins_afterName (h : p.IsLegible) : Text.NoLineBegins 'e' p.afterName := by
  have hword {t : Text} (ht : Text.IsWord t) := Text.isOneLine_of_notMem ht.newline_notMem
  have hsource : Text.NoLineBegins 'e' ("  source: ".toList ++ p.source) :=
    (hword h.isWord_source).noLineBegins_append (by decide) (by decide)
  have hmark := (Text.isOneLine_of_notMem (newline_notMem_optionalMark p.allOptional))
    |>.noLineBegins_append (u := "  customMap".toList) (c := 'e') (by decide) (by decide)
  have hdeclarations : Text.NoLineBegins 'e' (p.slots.flatMap (Slot.declaration p.source)) :=
    .flatMap fun s hs => Slot.noLineBegins_declaration h.isWord_source.newline_notMem
      (h.newline_notMem_returnType s hs)
  have htarget : Text.NoLineBegins 'e' ("): ".toList ++ p.target) :=
    (hword h.isWord_target).noLineBegins_append (by decide) (by decide)
  have hassignments : Text.NoLineBegins 'e' (p.slots.flatMap Slot.assignment) :=
    .flatMap fun s _ => s.noLineBegins_assignment
  have hparameters := (((hsource.append (u := ",\n".toList) (by decide)).append hmark).append
    (u := ": \x7b\n".toList) (by decide)).append hdeclarations
  have hall := ((((hparameters.append (u := "  \x7d,\n".toList) (by decide)).append htarget).append
    (u := " => (\x7b\n".toList) (by decide)).append hassignments).append
    (u := "\x7d)".toList) (by decide)
  unfold afterName
  simpa only [List.append_assoc] using hall

/-- A mapper exports its name, and then what follows it is read. -/
theorem exportedNames_text_append (h : p.IsLegible) (t : Text) :
    exportedNames (p.text ++ t) = mapperName p.pair :: exportedNames t := by
  have hlines : p.text ++ t =
      [] ++ '\n' :: (p.nameLine ++ '\n' :: (p.afterName ++ '\n' :: t)) := by
    rw [text_eq_lines]
    simp
  rw [hlines, exportedNames_append, exportedNames_append, exportedNames_append,
    exportedNames_line h.newline_notMem_nameLine, h.exportedName?_nameLine,
    exportedNames_eq_nil h.noLineBegins_afterName]
  rfl

end IsLegible

/-- The names that are read off some mappers are theirs. -/
theorem exportedNames_flatMap_text {plans : List Plan} (h : ∀ p ∈ plans, p.IsLegible) :
    exportedNames (plans.flatMap text) = plans.map fun p => mapperName p.pair := by
  induction plans with
  | nil => rfl
  | cons p plans ih =>
    rw [List.flatMap_cons, (h p List.mem_cons_self).exportedNames_text_append,
      ih fun q hq => h q (List.mem_cons_of_mem p hq)]
    rfl

end Plan

/-! ### The mappers of a run -/

theorem Property.newline_notMem_returnType {p : Property} (h : '\n' ∉ p.type) :
    '\n' ∉ p.returnType := by
  unfold returnType
  split
  · simp [h]
  · exact h

namespace Workspace.Holds

variable {w : Workspace} {visibility : Visibility} {place other : Location} {d e : Document}

theorem newline_notMem_type (hcwd : Path.Rooted w.cwd) (h : w.Holds visibility place d)
    {x : Entity} (hx : x ∈ d.entities) {p : Property} (hp : p ∈ x.properties) : '\n' ∉ p.type := by
  obtain ⟨source, -, hsource⟩ := exists_ofSource_eq hcwd h.contains h.document_eq
  obtain ⟨u, hu⟩ := Document.exists_normalizeType_of_mem_entities hsource hx hp
  rw [hu]
  intro hmem
  exact absurd (Declaration.eq_space_of_mem_normalizeType hmem (by decide)) (by decide)

theorem isLegible_of_mem_product (hcwd : Path.Rooted w.cwd) (hd : w.Holds visibility place d)
    (he : w.Holds visibility other e) : ∀ p ∈ Plan.product d.entities e.entities, p.IsLegible := by
  intro p hp
  obtain ⟨x, hx, y, hy, rfl⟩ := Plan.mem_product.1 hp
  refine ⟨hd.isWord_of_mem_names hcwd _ (List.mem_map_of_mem hx),
    he.isWord_of_mem_names hcwd _ (List.mem_map_of_mem hy), fun s hs => ?_⟩
  obtain ⟨q, hq, rfl⟩ := List.mem_map.1 hs
  exact Property.newline_notMem_returnType (he.newline_notMem_type hcwd hy hq)

/-- The plans between the shapes of two documents are legible. -/
theorem isLegible_of_mem_between (hcwd : Path.Rooted w.cwd) (hd : w.Holds visibility place d)
    (he : w.Holds visibility other e) {bothWays : Bool} :
    ∀ p ∈ Plan.between d.entities e.entities bothWays, p.IsLegible := by
  intro p hp
  rcases List.mem_append.1 hp with hp | hp
  · exact hd.isLegible_of_mem_product hcwd he p hp
  · split at hp
    · exact he.isLegible_of_mem_product hcwd hd p hp
    · cases hp

end Workspace.Holds

namespace Run

variable {w : Workspace} {settings : Settings} {output : Text}

/-- What is built for some requests has legible plans. -/
theorem isLegible_of_outcome_build (hcwd : Path.Rooted w.cwd) {requests : List Request}
    {a : Artifact} (h : (build w settings requests output).outcome = .ok a) :
    ∀ p ∈ a.mappers, p.IsLegible := by
  have hensures : Ensures w settings.visibility (fun a => ∀ p ∈ a.mappers, p.IsLegible)
      (build w settings requests output) := by
    refine ensures_build_of_extend (by simp) fun a ha r _ d e b hd he hb p hp => ?_
    obtain ⟨-, -, -, hmappers⟩ := Artifact.exists_of_extend hb
    rw [hmappers, List.mem_append] at hp
    rcases hp with hold | hnew
    · exact ha p hold
    · exact hd.isLegible_of_mem_between hcwd he p hnew
  exact hensures.of_outcome h

/-- The names that a generated module exports after its imports are those of its mappers. -/
theorem exists_renderBundled_of_outcome_build (hcwd : Path.Rooted w.cwd) {requests : List Request}
    {a : Artifact} (h : (build w settings requests output).outcome = .ok a) :
    ∃ t, a.renderBundled = .ok (a.imports.flatMap (· ++ ['\n']) ++ t) ∧
      exportedNames t = a.mappers.map fun p => mapperName p.pair :=
  ⟨_, a.renderBundled_eq, Plan.exportedNames_flatMap_text (isLegible_of_outcome_build hcwd h)⟩

/-- A request that goes one way between two files that declare each name once. The mappers that are
written for it are named after their shapes, and the names are different just if no two of them
overlap. -/
theorem nodup_exportedNames_iff (hcwd : Path.Rooted w.cwd) {r : Request}
    (honeWay : r.bothWays = false) (hpresent : r.missing w = [])
    (hnames : ∀ file ∈ [r.source, r.target], (w.namesAt settings.visibility file).Nodup)
    {a : Artifact} (h : (build w settings [r] output).outcome = .ok a) :
    ∃ t, a.renderBundled = .ok (a.imports.flatMap (· ++ ['\n']) ++ t) ∧
      exportedNames t = (w.namesAt settings.visibility r.source ×ˢ
        w.namesAt settings.visibility r.target).map mapperName ∧
      ((exportedNames t).Nodup ↔
        ¬∃ s ∈ w.namesAt settings.visibility r.source,
          ∃ s' ∈ w.namesAt settings.visibility r.source,
            ∃ u ∈ w.namesAt settings.visibility r.target,
              ∃ u' ∈ w.namesAt settings.visibility r.target, Overlap s s' u u') := by
  obtain ⟨t, hrender, hexported⟩ := exists_renderBundled_of_outcome_build hcwd h
  have hpairs : a.mappers.map Plan.pair =
      w.namesAt settings.visibility r.source ×ˢ w.namesAt settings.visibility r.target := by
    rw [map_pair_of_outcome_build hcwd h]
    simp [Request.allDirections, hpresent, Request.directions, honeWay, Workspace.pairsOf]
  have hmapped : exportedNames t = (w.namesAt settings.visibility r.source ×ˢ
      w.namesAt settings.visibility r.target).map mapperName := by
    rw [hexported, ← hpairs, List.map_map]
    rfl
  refine ⟨t, hrender, hmapped, ?_⟩
  rw [hmapped]
  exact nodup_map_mapperName_iff (hnames r.source (by simp)) (hnames r.target (by simp))

/-- Two files with two shapes each, of which one is named after two others. -/
def namedAlike : Workspace where
  files :=
    (FileTree.insert ⟨fun _ => none⟩ ["p".toList, "a.ts".toList] (FileTree.textEntry
      "export interface A \x7b \x7d\nexport interface AToB \x7b \x7d".toList)).insert
      ["p".toList, "c.ts".toList] (FileTree.textEntry
        "export interface BToC \x7b \x7d\nexport interface C \x7b \x7d".toList)
  cwd := "/p".toList

/-- From the second file to the first all names are different. -/
theorem nodup_exportedNames_namedAlike :
    let r : Request := { source := "c.ts".toList, target := "a.ts".toList }
    Path.Rooted namedAlike.cwd ∧ r.bothWays = false ∧ r.missing namedAlike = [] ∧
      (∀ file ∈ [r.source, r.target], (namedAlike.namesAt .exportedOnly file).Nodup) ∧
      ∃ a, (build namedAlike {} [r] "m.ts".toList).outcome = .ok a ∧
        ∃ t, a.renderBundled = .ok (a.imports.flatMap (· ++ ['\n']) ++ t) ∧
          exportedNames t = ["mapBToCToA", "mapBToCToAToB", "mapCToA", "mapCToAToB"].map
            String.toList ∧
          ¬∃ s ∈ namedAlike.namesAt .exportedOnly r.source,
            ∃ s' ∈ namedAlike.namesAt .exportedOnly r.source,
              ∃ u ∈ namedAlike.namesAt .exportedOnly r.target,
                ∃ u' ∈ namedAlike.namesAt .exportedOnly r.target, Overlap s s' u u' := by
  intro r
  have hnames : namedAlike.namesAt .exportedOnly r.source = ["BToC".toList, "C".toList] ∧
      namedAlike.namesAt .exportedOnly r.target = ["A".toList, "AToB".toList] := by decide +kernel
  have hnodup : ∀ file ∈ [r.source, r.target],
      (namedAlike.namesAt .exportedOnly file).Nodup := by
    simp only [List.forall_mem_cons, hnames]
    decide
  have hpresent : r.missing namedAlike = [] := by decide +kernel
  have hrun : (build namedAlike {} [r] "m.ts".toList).outcome.toOption.isSome = true := by
    decide +kernel
  obtain ⟨a, ha⟩ := Option.isSome_iff_exists.1 hrun
  have hbuild := eq_ok_of_toOption ha
  obtain ⟨t, hrender, hexported, hiff⟩ :=
    nodup_exportedNames_iff (by decide) rfl hpresent hnodup hbuild
  have hlist : exportedNames t =
      ["mapBToCToA", "mapBToCToAToB", "mapCToA", "mapCToAToB"].map String.toList := by
    rw [hexported, hnames.1, hnames.2]
    decide
  refine ⟨by decide, rfl, hpresent, hnodup, a, hbuild, t, hrender, hlist, hiff.1 ?_⟩
  rw [hlist]
  decide

/-- From the first file to the second two mappers share a name. -/
theorem not_nodup_exportedNames_namedAlike :
    let r : Request := { source := "a.ts".toList, target := "c.ts".toList }
    r.bothWays = false ∧ r.missing namedAlike = [] ∧
      namedAlike.namesAt .exportedOnly r.source ++ namedAlike.namesAt .exportedOnly r.target =
        ["A", "AToB", "BToC", "C"].map String.toList ∧
      ∃ a, (build namedAlike {} [r] "m.ts".toList).outcome = .ok a ∧
        ∃ t, a.renderBundled = .ok (a.imports.flatMap (· ++ ['\n']) ++ t) ∧
          exportedNames t = ["mapAToBToC", "mapAToC", "mapAToBToBToC", "mapAToBToC"].map
            String.toList ∧
          ¬(exportedNames t).Nodup := by
  intro r
  have hrun : (build namedAlike {} [r] "m.ts".toList).outcome.toOption.map
      (fun a => a.mappers.map fun p => mapperName p.pair) =
        some (["mapAToBToC", "mapAToC", "mapAToBToBToC", "mapAToBToC"].map String.toList) := by
    decide +kernel
  obtain ⟨a, ha, hnames⟩ := Option.map_eq_some_iff.1 hrun
  have hbuild := eq_ok_of_toOption ha
  obtain ⟨t, hrender, hexported⟩ := exists_renderBundled_of_outcome_build (by decide) hbuild
  rw [hnames] at hexported
  refine ⟨rfl, by decide +kernel, by decide +kernel, a, hbuild, t, hrender, hexported, ?_⟩
  rw [hexported]
  decide

end Run

end ShapeMapper
