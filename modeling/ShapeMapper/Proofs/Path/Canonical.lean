import ShapeMapper.Proofs.Path.Specifier

/-!
# Canonical specifiers

A route goes up first and then down (`exists_route_eq`), so a specifier is a normal form of its own
(`IsCanonical`): it has no idle segment but a dot at its start. Read inside the file it was made
for, it denotes the normal form of its target, and two targets have one specifier exactly if they
have one normal form: `exists_canonical_relative`.
-/

namespace ShapeMapper.Path

variable {cwd source target other : Text}

/-! ### Segments of a specifier -/

/-- A route goes up for some steps, and then down to its target. -/
theorem exists_route_eq (xs ys : List Text) :
    ∃ n down, route xs ys = List.replicate n up ++ down ∧ down <:+ ys := by
  fun_induction route xs ys with
  | case1 xs y ys ih =>
    obtain ⟨n, down, hroute, hdown⟩ := ih
    exact ⟨n, down, hroute, hdown.trans (List.suffix_cons y ys)⟩
  | case2 x xs y ys h =>
    exact ⟨(x :: xs).length, y :: ys, by rw [List.map_const'], List.suffix_refl _⟩
  | case3 xs ys h => exact ⟨xs.length, ys, by rw [List.map_const'], List.suffix_refl _⟩

theorem isRelative_joined (s : Text) (l : List Text) (hs : s ≠ []) :
    isRelative (joined (s :: l)) = isRelative s := by
  obtain ⟨c, s, rfl⟩ := List.exists_cons_of_ne_nil hs
  simp [isRelative, joined, List.intercalate_cons_cons_left]

/-- A dot comes before the segments of a specifier unless they begin with one already. -/
theorem segments_dotted {l : List Text} (h : ∀ s ∈ l, s ≠ [] ∧ '/' ∉ s) :
    segments (dotted (ofSegments l)) = if l.head?.any isRelative then l else here :: l := by
  cases l with
  | nil => decide
  | cons s l =>
    have hsegments : segments (joined (s :: l)) = s :: l :=
      segments_joined (List.cons_ne_nil s l) fun t ht => (h t ht).2
    have hhere : segments ('.' :: '/' :: joined (s :: l)) = here :: segments (joined (s :: l)) :=
      segments_append_slash here _
    rw [ofSegments, if_neg (List.cons_ne_nil s l), dotted,
      isRelative_joined s l (h s List.mem_cons_self).1, List.head?_cons, Option.any_some]
    by_cases hs : isRelative s = true
    · rw [if_pos hs, if_pos hs, hsegments]
    · rw [if_neg hs, if_neg hs, hhere, hsegments]

/-! ### Canonical specifiers -/

/-- A specifier goes up first, has no empty segment, and a dot at most at its start. -/
structure IsCanonical (p : Text) : Prop where
  up_first : (segments p).Pairwise fun s t => t = up → s = up
  nil_notMem : [] ∉ segments p
  here_notMem_tail : here ∉ (segments p).tail

theorem isCanonical_of_segments {p : Text} {l : List Text}
    (hup : l.Pairwise fun s t => t = up → s = up) (hidle : ∀ s ∈ l, s ≠ [] ∧ s ≠ here)
    (h : segments p = l ∨ segments p = here :: l ∧ up ∉ l) : IsCanonical p := by
  have hnil : [] ∉ l := fun hmem => (hidle [] hmem).1 rfl
  have hhere : here ∉ l := fun hmem => (hidle here hmem).2 rfl
  rcases h with h | ⟨h, hdown⟩
  · refine ⟨?_, ?_, ?_⟩ <;> rw [h]
    · exact hup
    · exact hnil
    · exact fun hmem => hhere (List.mem_of_mem_tail hmem)
  · refine ⟨?_, ?_, ?_⟩ <;> rw [h]
    · exact List.pairwise_cons.2 ⟨fun t ht ht' => absurd (ht' ▸ ht) hdown, hup⟩
    · rw [List.mem_cons, not_or]
      exact ⟨by decide, hnil⟩
    · exact hhere

/-- The specifier of a way up and down again is canonical. -/
theorem isCanonical_dotted (n : Nat) {down : List Text} (h : ∀ s ∈ down, IsName s ∧ '/' ∉ s) :
    IsCanonical (dotted (ofSegments (List.replicate n up ++ down))) := by
  have hsegment : ∀ s ∈ List.replicate n up ++ down, s ≠ [] ∧ s ≠ here ∧ '/' ∉ s := by
    intro s hs
    rcases List.mem_append.1 hs with hs | hs
    · rw [List.eq_of_mem_replicate hs]
      decide
    · exact ⟨(h s hs).1.ne_nil, (h s hs).1.ne_here, (h s hs).2⟩
  have hsegments := segments_dotted fun s hs => ⟨(hsegment s hs).1, (hsegment s hs).2.2⟩
  refine isCanonical_of_segments (l := List.replicate n up ++ down) ?_
    (fun s hs => ⟨(hsegment s hs).1, (hsegment s hs).2.1⟩) ?_
  · refine List.pairwise_append.2 ⟨?_, ?_, ?_⟩
    · exact List.pairwise_replicate.2 (.inr fun _ => rfl)
    · exact List.pairwise_of_forall_mem_list fun s _ t ht ht' => absurd ht' (h t ht).1.ne_up
    · exact fun s hs _ _ _ => List.eq_of_mem_replicate hs
  · cases n with
    | zero =>
      -- only a way that does not go up may need a dot in front
      have hdown : up ∉ List.replicate 0 up ++ down := fun hup => (h up hup).1.ne_up rfl
      by_cases hhead : (List.replicate 0 up ++ down).head?.any isRelative
      · exact .inl (by rw [hsegments, if_pos hhead])
      · exact .inr ⟨by rw [hsegments, if_neg hhead], hdown⟩
    | succ n => exact .inl (by rw [hsegments, if_pos (by rw [List.replicate_succ]; rfl)])

theorem isCanonical_relative (hsource : Rooted source) (htarget : Rooted target)
    (hback : ∀ s ∈ Location.ofPath target, '\\' ∉ s) :
    IsCanonical (relative cwd source target) := by
  rw [relative_eq_of_rooted hsource htarget, withSlashes_route hback]
  obtain ⟨n, down, hroute, hdown⟩ := exists_route_eq (Location.ofPath (directory source))
    (Location.ofPath target)
  rw [hroute]
  exact isCanonical_dotted n fun s hs => ⟨isName_of_mem_reduce (hdown.subset hs),
    slash_notMem_of_mem_reduce (hdown.subset hs)⟩

/-! ### Specifiers and their targets -/

theorem normalize_of_oneSlash (h : OneSlash target) :
    normalize target = '/' :: joined (Location.ofPath target) := by
  rw [normalize_of_rooted h.1, h.root_eq, ofPath_eq_reduce_moves]
  rfl

theorem backslash_notMem_of_mem_ofPath (h : '\\' ∉ target) :
    ∀ s ∈ Location.ofPath target, '\\' ∉ s := by
  intro s hs hc
  rw [ofPath_eq_reduce_moves] at hs
  exact h (mem_of_mem_moves (mem_of_mem_reduce hs).1 hc)

/-- Read inside the file it was made for, a specifier denotes the normal form of its target. -/
theorem beside_relative_eq_normalize (cwd : Text) (hsource : OneSlash source)
    (htarget : OneSlash target) (hback : '\\' ∉ target) :
    beside source (relative cwd source target) = normalize target := by
  rw [beside_of_oneSlash hsource (not_rooted_of_isRelative (isRelative_relative ..)),
    reduce_append_moves_relative hsource.1 htarget.1 (backslash_notMem_of_mem_ofPath hback),
    normalize_of_oneSlash htarget]

theorem ofPath_eq_of_normalize_eq (h : normalize target = normalize other) :
    Location.ofPath target = Location.ofPath other := by
  have hplace (p : Text) : Location.ofPath (normalize p) = Location.ofPath p := by
    simpa [append] using ofPath_append_normalize [] p
  rw [← hplace target, h, hplace other]

/-- A file reaches every target by a canonical specifier, which denotes the normal form of the
target, and which no target has that has another normal form. -/
theorem exists_canonical_relative (cwd : Text) (hsource : OneSlash source)
    (htarget : OneSlash target) (hback : '\\' ∉ target) :
    ∃ p, relative? cwd source target = some p ∧ IsCanonical p ∧
      beside source p = normalize target ∧
      ∀ other, OneSlash other → '\\' ∉ other →
        (relative? cwd source other = some p ↔ normalize other = normalize target) := by
  have hne (p : Text) (hp : OneSlash p) : p ≠ [] := by
    rintro rfl
    exact absurd hp.1 (by decide)
  refine ⟨relative cwd source target, if_neg (hne target htarget), ?_, ?_, ?_⟩
  · exact isCanonical_relative hsource.1 htarget.1 (backslash_notMem_of_mem_ofPath hback)
  · exact beside_relative_eq_normalize cwd hsource htarget hback
  · intro other hother hback'
    rw [relative?, if_neg (hne other hother), Option.some.injEq]
    constructor
    · intro h
      rw [← beside_relative_eq_normalize cwd hsource hother hback', h,
        beside_relative_eq_normalize cwd hsource htarget hback]
    · intro h
      rw [relative_eq_of_rooted hsource.1 hother.1, relative_eq_of_rooted hsource.1 htarget.1,
        ofPath_eq_of_normalize_eq h]

/-- A target with idle segments has the specifier of the same target without them. -/
theorem exists_canonical_relative_user :
    let source := "/out/gen/mapper.ts".toList
    let target := "/src//./api/../user.ts".toList
    let user := "/src/user.ts".toList
    OneSlash source ∧ OneSlash target ∧ '\\' ∉ target ∧ OneSlash user ∧ '\\' ∉ user ∧
      ∃ p, relative? [] source target = some p ∧ IsCanonical p ∧
        beside source p = normalize target ∧
        (relative? [] source user = some p ↔ normalize user = normalize target) ∧
        normalize user = normalize target := by
  have hsource : OneSlash "/out/gen/mapper.ts".toList := ⟨by decide, by decide⟩
  have htarget : OneSlash "/src//./api/../user.ts".toList := ⟨by decide, by decide⟩
  have hback : '\\' ∉ "/src//./api/../user.ts".toList := by decide
  have huser : OneSlash "/src/user.ts".toList := ⟨by decide, by decide⟩
  have hback' : '\\' ∉ "/src/user.ts".toList := by decide
  obtain ⟨p, hp, hcanonical, hbeside, hother⟩ :=
    exists_canonical_relative [] hsource htarget hback
  exact ⟨hsource, htarget, hback, huser, hback', p, hp, hcanonical, hbeside,
    hother _ huser hback', by decide +kernel⟩

end ShapeMapper.Path
