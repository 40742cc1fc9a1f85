import ShapeMapper.Path.Specifier
import ShapeMapper.Proofs.Path.Beside

/-!
# Specifiers and the places they reach

The specifier by which one file reaches another is a route between two places (`relative_congr`:
nothing else of the target matters), it is relative and not rooted, and read inside the first file
it leads to the place of the second (`ofPath_beside_relative`). Where the files are named by paths
with one slash at their start, it leads to the same path: `beside_relative`.
-/

namespace ShapeMapper.Path

/-! ### Routes -/

theorem foldl_push_up {stack : List Text} (h : ∀ s ∈ stack, IsName s) (base : List Text) :
    (List.replicate stack.length up).foldl (push true) (stack ++ base) = base := by
  induction stack with
  | nil => rfl
  | cons s stack ih =>
    rw [List.length_cons, List.replicate_succ, List.foldl_cons, List.cons_append,
      push_up_cons (h s (by simp)).ne_up]
    exact ih fun t ht => h t (by simp [ht])

/-- The route to a place leads there. -/
theorem foldl_push_route {xs ys base : List Text} (hx : ∀ s ∈ xs, IsName s)
    (hy : ∀ s ∈ ys, IsName s) :
    (route xs ys).foldl (push true) (xs.reverse ++ base) = ys.reverse ++ base := by
  have hup (l : List Text) (hl : ∀ s ∈ l, IsName s) (base : List Text) :
      (l.map fun _ => up).foldl (push true) (l.reverse ++ base) = base := by
    rw [List.map_const', ← List.length_reverse]
    exact foldl_push_up (fun s hs => hl s (List.mem_reverse.1 hs)) base
  fun_induction route xs ys generalizing base with
  | case1 xs y ys ih =>
    have hbase : (route xs ys).foldl (push true) (xs.reverse ++ y :: base) =
        ys.reverse ++ y :: base :=
      ih (fun s hs => hx s (by simp [hs])) fun s hs => hy s (by simp [hs])
    simpa using hbase
  | case2 x xs y ys h => rw [List.foldl_append, hup _ hx, foldl_push_isName hy]
  | case3 xs ys h => rw [List.foldl_append, hup _ hx, foldl_push_isName hy]

theorem reduce_append_route {xs ys : List Text} (hx : ∀ s ∈ xs, IsName s)
    (hy : ∀ s ∈ ys, IsName s) : reduce true (xs ++ route xs ys) = ys := by
  rw [reduce, List.foldl_append, foldl_push_isName hx, foldl_push_route hx hy]
  simp

theorem mem_route {xs ys : List Text} {s : Text} (h : s ∈ route xs ys) : s = up ∨ s ∈ ys := by
  fun_induction route xs ys <;> grind

/-! ### The segments of a normal form -/

theorem mem_segments_normalize {p s : Text} (hp : Rooted p) (h : s ∈ segments (normalize p)) :
    s = [] ∨ s ∈ reduce true (moves p) := by
  rw [normalize_of_rooted hp] at h
  have hjoined : s ∈ segments (joined (reduce true (moves p))) → s = [] ∨
      s ∈ reduce true (moves p) := by
    intro h
    by_cases hnil : reduce true (moves p) = []
    · rw [hnil] at h
      exact .inl (by simpa [joined, segments] using h)
    · rw [← reduce_segments] at h hnil ⊢
      rw [segments_joined hnil fun t ht => slash_notMem_of_mem_reduce ht] at h
      exact .inr h
  have hslash (q : Text) : segments ('/' :: q) = [] :: segments q :=
    segments_append_slash [] q
  unfold root at h
  split at h <;> simp only [List.cons_append, List.nil_append, hslash, List.mem_cons] at h
  · exact h.elim .inl hjoined
  · exact h.elim .inl fun h => h.elim .inl hjoined
  · exact h.elim .inl hjoined
  · exact hjoined h

theorem steps_normalize {p : Text} (hp : Rooted p) :
    steps (normalize p) = Location.ofPath p := by
  have hmoves : steps (normalize p) = moves (normalize p) := by
    refine List.filter_congr fun s hs => ?_
    rcases mem_segments_normalize hp hs with rfl | hs
    · simp
    · simp [(mem_of_mem_reduce hs).2]
  rw [hmoves, moves_normalize, decide_eq_true (root_ne_nil_iff.2 hp), ofPath_eq_reduce_moves]

/-! ### Specifiers as routes -/

/-- Segments as a path; no segment is the directory itself. -/
def ofSegments (l : List Text) : Text := if l = [] then here else joined l

/-- A path with `./` in front of it, unless it is relative already. -/
def dotted (p : Text) : Text := if isRelative p then p else '.' :: '/' :: p

/-- The directory of a file, from which its specifiers are read. -/
def start (source : Text) : Text := if directory source = [] then here else directory source

theorem between_eq {cwd p q : Text} (hp : Rooted (append cwd p)) (hq : Rooted (append cwd q)) :
    between cwd p q =
      ofSegments (route (Location.ofPath (append cwd p)) (Location.ofPath (append cwd q))) := by
  rw [between, absolute, absolute, steps_normalize hp, steps_normalize hq, ofSegments]
  split
  · next h => rw [h, if_pos rfl]
  · next h => rw [if_neg h]

theorem relative_eq {cwd source target : Text} (hsource : Rooted (append cwd (start source)))
    (htarget : Rooted (append cwd target)) :
    relative cwd source target = dotted (withSlashes (ofSegments
      (route (Location.ofPath (append cwd (start source)))
        (Location.ofPath (append cwd target))))) := by
  rw [← between_eq hsource htarget]
  rfl

/-- A specifier depends on the place of its target only. -/
theorem relative_congr {cwd target other : Text} (hcwd : Rooted cwd)
    (h : Location.ofPath (append cwd target) = Location.ofPath (append cwd other))
    (source : Text) : relative cwd source target = relative cwd source other := by
  rw [relative_eq (rooted_append hcwd _) (rooted_append hcwd _),
    relative_eq (rooted_append hcwd _) (rooted_append hcwd _), h]

theorem isRelative_dotted (p : Text) : isRelative (dotted p) = true := by
  unfold dotted
  split
  · assumption
  · rfl

theorem isRelative_relative (cwd source target : Text) :
    isRelative (relative cwd source target) = true :=
  isRelative_dotted _

theorem not_rooted_of_isRelative {p : Text} (h : isRelative p = true) : ¬Rooted p := by
  simp only [isRelative, decide_eq_true_eq] at h
  simp [Rooted, h]

theorem moves_dotted (p : Text) : moves (dotted p) = moves p := by
  unfold dotted
  split
  · rfl
  · have hhere := moves_append_slash here p
    rwa [moves_here, List.nil_append] at hhere

theorem moves_ofSegments {l : List Text} (h : ∀ s ∈ l, s ≠ [] ∧ s ≠ here ∧ '/' ∉ s) :
    moves (ofSegments l) = l := by
  unfold ofSegments
  split
  · next hl => rw [hl, moves_here]
  · exact moves_joined h

theorem mem_of_mem_ofSegments {l : List Text} {c : Char} (h : c ∈ ofSegments l) :
    c = '.' ∨ c = '/' ∨ ∃ s ∈ l, c ∈ s := by
  unfold ofSegments at h
  split at h
  · exact .inl (by simpa [here] using h)
  · exact .inr (mem_of_mem_joined h)

theorem mem_of_mem_dotted {p : Text} {c : Char} (h : c ∈ dotted p) :
    c = '.' ∨ c = '/' ∨ c ∈ p := by
  unfold dotted at h
  split at h
  · exact .inr (.inr h)
  · simpa using h

theorem withSlashes_eq_self {p : Text} (h : '\\' ∉ p) : withSlashes p = p := by
  rw [withSlashes, List.map_congr_left (g := id), List.map_id]
  intro c hc
  exact if_neg fun hback : c = '\\' => h (hback ▸ hc)

/-! ### From one file to another and back -/

theorem withSlashes_route {xs ys : List Text} (hback : ∀ s ∈ ys, '\\' ∉ s) :
    withSlashes (ofSegments (route xs ys)) = ofSegments (route xs ys) := by
  refine withSlashes_eq_self fun h => ?_
  rcases mem_of_mem_ofSegments h with h | h | ⟨s, hs, hc⟩
  · cases h
  · cases h
  · rcases mem_route hs with rfl | hs
    · simp [up] at hc
    · exact hback s hs hc

section Reach

variable {cwd source target : Text} (hsource : Rooted source) (htarget : Rooted target)
include hsource htarget

theorem relative_eq_of_rooted :
    relative cwd source target = dotted (withSlashes (ofSegments
      (route (Location.ofPath (directory source)) (Location.ofPath target)))) := by
  have hdir : Rooted (directory source) := rooted_directory_iff.2 hsource
  have hstart : start source = directory source := by
    unfold start
    exact if_neg fun hnil => by simp [Rooted, hnil] at hdir
  have happend : append cwd (directory source) = directory source := append_of_rooted hdir
  rw [relative_eq (by rwa [hstart, happend]) (by rwa [append_of_rooted htarget]), hstart, happend,
    append_of_rooted htarget]

variable (hback : ∀ s ∈ Location.ofPath target, '\\' ∉ s)
include hback

/-- A specifier holds, beside dots and slashes, what the place of its target holds. -/
theorem mem_of_mem_relative {c : Char} (h : c ∈ relative cwd source target) :
    c = '.' ∨ c = '/' ∨ ∃ s ∈ Location.ofPath target, c ∈ s := by
  rw [relative_eq_of_rooted hsource htarget, withSlashes_route hback] at h
  rcases mem_of_mem_dotted h with h | h | h
  · exact .inl h
  · exact .inr (.inl h)
  · rcases mem_of_mem_ofSegments h with h | h | ⟨s, hs, hc⟩
    · exact .inl h
    · exact .inr (.inl h)
    · rcases mem_route hs with rfl | hs
      · exact .inl (by simpa [up] using hc)
      · exact .inr (.inr ⟨s, hs, hc⟩)

/-- Read inside the file it was made for, a specifier leads to its target. -/
theorem reduce_append_moves_relative :
    reduce true (moves (directory source) ++ moves (relative cwd source target)) =
      Location.ofPath target := by
  have hroute : moves (ofSegments (route (Location.ofPath (directory source))
      (Location.ofPath target))) =
      route (Location.ofPath (directory source)) (Location.ofPath target) := by
    refine moves_ofSegments fun s hs => ?_
    rcases mem_route hs with rfl | hs
    · decide
    · exact ⟨(mem_of_mem_reduce hs).2.1, (mem_of_mem_reduce hs).2.2,
        slash_notMem_of_mem_reduce hs⟩
  -- the directory may be reduced first, and from its place the route leads to the target
  rw [relative_eq_of_rooted hsource htarget, withSlashes_route hback,
    moves_dotted, hroute, ← reduce_reduce_append, ← ofPath_eq_reduce_moves]
  exact reduce_append_route (fun s hs => isName_of_mem_reduce hs) fun s hs =>
    isName_of_mem_reduce hs

end Reach

/-- A path with exactly one slash at its start. -/
def OneSlash (p : Text) : Prop := Rooted p ∧ p[1]? ≠ some '/'

theorem OneSlash.root_eq {p : Text} (h : OneSlash p) : root p = ['/'] := by
  unfold root
  obtain ⟨hp, hsecond⟩ := h
  split <;> simp_all
  rename_i hslash
  cases p with
  | nil => simp [Rooted] at hp
  | cons c p => exact hslash p (by rw [show c = '/' by simpa [Rooted] using hp])

theorem OneSlash.append {base p : Text} (h : OneSlash base) (hp : ¬Rooted p) :
    OneSlash (append base p) := by
  refine ⟨rooted_append h.1 p, ?_⟩
  unfold Path.append
  rw [if_neg (show ¬p.head? = some '/' from hp)]
  obtain ⟨hbase, hsecond⟩ := h
  match base with
  | [] => simp [Rooted] at hbase
  | [c] =>
    obtain rfl : c = '/' := by simpa [Rooted] using hbase
    simpa [Rooted, List.head?_eq_getElem?] using hp
  | c :: d :: base => split <;> simpa using hsecond

theorem OneSlash.directory {p : Text} (h : OneSlash p) : OneSlash (directory p) := by
  refine ⟨rooted_directory_iff.2 h.1, fun hsecond => h.2 ?_⟩
  obtain ⟨n, hn⟩ := exists_head_eq p
  rw [← head_append_fileName p, hn, List.append_assoc, List.getElem?_append_left]
  · exact hsecond
  · exact (List.getElem?_eq_some_iff.1 hsecond).1

/-- What is written inside a file named with one slash is a path with one slash. -/
theorem beside_of_oneSlash {file p : Text} (h : OneSlash file) (hp : ¬Rooted p) :
    beside file p = '/' :: joined (reduce true (moves (directory file) ++ moves p)) := by
  have happend := h.directory.append hp
  rw [beside, normalize_of_rooted happend.1, happend.root_eq, moves_append hp]
  rfl

theorem ofPath_beside_of_oneSlash {file p : Text} (h : OneSlash file) (hp : ¬Rooted p) :
    Location.ofPath (beside file p) = reduce true (moves (directory file) ++ moves p) := by
  have hbeside := ofPath_append_beside hp [] file
  have hfile : Rooted (directory file) := h.directory.1
  have hroot : Rooted (beside file p) := rooted_normalize_iff.2 (h.directory.append hp).1
  rwa [append_of_rooted hroot, append_of_rooted hfile, ofPath_eq_reduce_moves (directory file),
    reduce_reduce_append] at hbeside

theorem mem_of_mem_beside {file p s : Text} {c : Char} (h : OneSlash file) (hp : ¬Rooted p)
    (hs : s ∈ Location.ofPath (beside file p)) (hc : c ∈ s) : c ∈ file ∨ c ∈ p := by
  rw [ofPath_beside_of_oneSlash h hp] at hs
  rcases List.mem_append.1 (mem_of_mem_reduce hs).1 with hs | hs
  · refine .inl (mem_of_mem_moves ?_ hc)
    rw [moves_eq_directory_append]
    exact List.mem_append_left _ hs
  · exact .inr (mem_of_mem_moves hs hc)

/-- The specifier by which one file reaches what is written inside another denotes the same
path. -/
theorem beside_relative {cwd source file p : Text} (hsource : OneSlash source)
    (hfile : OneSlash file) (hp : ¬Rooted p) (hbackFile : '\\' ∉ file) (hbackP : '\\' ∉ p) :
    beside source (relative cwd source (beside file p)) = beside file p := by
  have htarget : Rooted (beside file p) := rooted_normalize_iff.2 (hfile.directory.append hp).1
  have hplace := ofPath_beside_of_oneSlash hfile hp
  have hback : ∀ s ∈ Location.ofPath (beside file p), '\\' ∉ s := fun s hs hc =>
    (mem_of_mem_beside hfile hp hs hc).elim hbackFile hbackP
  rw [beside_of_oneSlash hsource (not_rooted_of_isRelative (isRelative_relative ..)),
    reduce_append_moves_relative hsource.1 htarget hback, hplace, beside_of_oneSlash hfile hp]

end ShapeMapper.Path
