import ShapeMapper.Proofs.Path.Beside

/-!
# Following paths in a file tree

A path that leads somewhere leads to the place that its reduction names (`eq_ofPath_of_locate`),
and so does the path without its idle segments (`find_tidy`). What is read at an existing path
depends on that place only: `readText_tidy`. A path that leads to a file ends in the name of the
file: `isName_fileName`.
-/

namespace ShapeMapper

/-- The place one segment away. -/
def Location.next (l : Location) (s : Text) : Location :=
  if s = [] ∨ s = Path.here then l
  else if s = Path.up then l.dropLast
  else l ++ [s]

namespace FileTree

open ShapeMapper.Path

variable {files : FileTree}

theorem walk_cons_eq_ok {start place : Location} {s : Text} {l : List Text} :
    files.walk start (s :: l) = .ok place ↔
      files.get? start = some .directory ∧ files.walk (start.next s) l = .ok place := by
  rw [walk]
  cases files.get? start with
  | none => simp
  | some entry =>
    cases entry with
    | directory => simp only [Location.next, true_and]; split_ifs <;> rfl
    | file content => simp

theorem walk_append_eq_ok {start place : Location} {a b : List Text} :
    files.walk start (a ++ b) = .ok place ↔
      ∃ mid, files.walk start a = .ok mid ∧ files.walk mid b = .ok place := by
  induction a generalizing start with
  | nil => simp [walk]
  | cons s a ih =>
    simp only [List.cons_append, walk_cons_eq_ok, ih]
    grind

theorem directory_of_walk {start place : Location} {l : List Text} (hl : l ≠ [])
    (h : files.walk start l = .ok place) : files.get? start = some .directory := by
  obtain ⟨s, l, rfl⟩ := List.exists_cons_of_ne_nil hl
  exact (walk_cons_eq_ok.1 h).1

theorem reverse_next {l : Location} (h : up ∉ l) (s : Text) :
    (l.next s).reverse = push true l.reverse s := by
  unfold Location.next push
  split
  · rfl
  · split
    · cases hl : l.reverse with
      | nil => simp_all
      | cons t r =>
        have ht : t ≠ up := fun ht => h (List.mem_reverse.1 (by simp [hl, ht]))
        simp [← List.tail_reverse, hl, ht]
    · simp

theorem up_notMem_next {l : Location} (h : up ∉ l) (s : Text) : up ∉ l.next s := by
  unfold Location.next
  split_ifs with hidle hup
  · exact h
  · exact fun hmem => h (List.dropLast_subset l hmem)
  · simpa [h] using fun hs => hup hs.symm

/-- Following segments is reducing them. -/
theorem eq_of_walk {start place : Location} {l : List Text} (hstart : up ∉ start)
    (h : files.walk start l = .ok place) : place = (l.foldl (push true) start.reverse).reverse := by
  induction l generalizing start with
  | nil => cases h; simp
  | cons s l ih =>
    obtain ⟨-, h⟩ := walk_cons_eq_ok.1 h
    rw [ih (up_notMem_next hstart s) h, reverse_next hstart, List.foldl_cons]

theorem eq_ofPath_of_locate {cwd p : Text} {place : Location} (h : files.locate cwd p = .ok place) :
    place = Location.ofPath (append cwd p) := by
  unfold locate at h
  split at h
  · cases h
  · exact eq_of_walk List.not_mem_nil h

/-! ### Idle segments -/

theorem walk_filter {start place : Location} {l : List Text}
    (h : files.walk start l = .ok place) :
    files.walk start (l.filter fun s => s ≠ [] ∧ s ≠ here) = .ok place := by
  induction l generalizing start with
  | nil => exact h
  | cons s l ih =>
    obtain ⟨hdir, h⟩ := walk_cons_eq_ok.1 h
    by_cases hs : s = [] ∨ s = here
    · rw [Location.next, if_pos hs] at h
      rw [List.filter_cons_of_neg (by simpa using fun h => hs.resolve_left h)]
      exact ih h
    · rw [List.filter_cons_of_pos (by simpa using hs)]
      exact walk_cons_eq_ok.2 ⟨hdir, ih h⟩

/-- The segments of a path may be replaced by its moves, or by idle ones if it has none. -/
theorem walk_moves {start place : Location} {p : Text} {idle : List Text}
    (hidle : idle = [[]] ∨ idle = [here]) (h : files.walk start (segments p) = .ok place) :
    files.walk start (if moves p = [] then idle else moves p) = .ok place := by
  have hmoves : files.walk start (moves p) = .ok place := walk_filter h
  split
  · next hnil =>
    rw [hnil] at hmoves
    have hdir := directory_of_walk (List.splitOn_ne_nil '/' p) h
    rcases hidle with rfl | rfl <;>
      exact walk_cons_eq_ok.2 ⟨hdir, by simpa [Location.next] using hmoves⟩
  · exact hmoves

theorem walk_tidy_of_rooted {p : Text} {place : Location} (hp : Rooted p)
    (h : files.walk [] (segments p) = .ok place) :
    files.walk [] (segments (tidy p)) = .ok place := by
  obtain ⟨q, rfl⟩ : ∃ q, p = '/' :: q := by
    cases p with
    | nil => simp [Rooted] at hp
    | cons c q => exact ⟨q, by rw [show c = '/' by simpa [Rooted] using hp]⟩
  have hslash (t : Text) : segments ('/' :: t) = [] :: segments t := segments_append_slash [] t
  rw [hslash] at h
  obtain ⟨hdir, h⟩ := walk_cons_eq_ok.1 h
  have hjoined : files.walk [] (segments (joined (moves ('/' :: q)))) = .ok place := by
    rw [segments_joined_moves, moves_slash_cons]
    exact walk_moves (.inl rfl) h
  rw [tidy_of_rooted hp]
  have hone : files.walk [] (segments ('/' :: joined (moves ('/' :: q)))) = .ok place := by
    rw [hslash]
    exact walk_cons_eq_ok.2 ⟨hdir, hjoined⟩
  unfold root
  split
  · exact hone
  · rw [List.cons_append, hslash]
    exact walk_cons_eq_ok.2 ⟨hdir, hone⟩
  · exact hone
  · exact hjoined

theorem exists_segments_append {cwd : Text} (h : Rooted cwd) :
    ∃ a, ∀ p, ¬Rooted p → segments (append cwd p) = a ++ segments p := by
  by_cases hlast : cwd.getLast? = some '/'
  · obtain ⟨b, rfl⟩ := List.getLast?_eq_some_iff.1 hlast
    refine ⟨segments b, fun p hp => ?_⟩
    rw [append, if_neg (show ¬p.head? = some '/' from hp), if_pos (.inr hlast), List.append_assoc]
    exact segments_append_slash b p
  · refine ⟨segments cwd, fun p hp => ?_⟩
    have hnil : cwd ≠ [] := fun hnil => by simp [Rooted, hnil] at h
    rw [append, if_neg (show ¬p.head? = some '/' from hp), if_neg (not_or.2 ⟨hnil, hlast⟩)]
    exact segments_append_slash cwd p

/-- A path that leads somewhere may be tidied. -/
theorem locate_tidy {cwd p : Text} {place : Location} (hcwd : Rooted cwd)
    (h : files.locate cwd p = .ok place) : files.locate cwd (tidy p) = .ok place := by
  unfold locate at h ⊢
  split at h
  · cases h
  · rw [if_neg (tidy_ne_nil p)]
    by_cases hp : Rooted p
    · rw [append_of_rooted hp] at h
      rw [append_of_rooted (rooted_tidy_iff.2 hp)]
      exact walk_tidy_of_rooted hp h
    · obtain ⟨a, ha⟩ := exists_segments_append hcwd
      rw [ha p hp] at h
      obtain ⟨mid, hmid, h⟩ := walk_append_eq_ok.1 h
      rw [ha _ (mt rooted_tidy_iff.1 hp), segments_tidy_of_not_rooted hp]
      exact walk_append_eq_ok.2 ⟨mid, hmid, walk_moves (.inr rfl) h⟩

theorem find_eq_ok {cwd p : Text} {place : Location} {entry : Entry} :
    files.find cwd p = .ok (place, entry) ↔
      files.locate cwd p = .ok place ∧ files.get? place = some entry := by
  unfold find
  cases files.locate cwd p with
  | error fault => simp [bind, Except.bind]
  | ok l =>
    simp only [bind, Except.bind, Except.ok.injEq]
    cases hl : files.get? l with
    | none =>
      simp only [throw, throwThe, MonadExceptOf.throw, reduceCtorEq, false_iff, not_and]
      rintro rfl
      simp [hl]
    | some e =>
      simp only [pure, Except.pure, Except.ok.injEq, Prod.mk.injEq]
      grind

theorem exists_find_of_contains {cwd p : Text} (h : files.contains cwd p) :
    ∃ entry, files.find cwd p = .ok (Location.ofPath (append cwd p), entry) := by
  unfold contains at h
  cases hfind : files.find cwd p with
  | error fault => simp [hfind, Except.isOk, Except.toBool] at h
  | ok found =>
    rw [← eq_ofPath_of_locate (find_eq_ok.1 hfind).1]
    exact ⟨found.2, rfl⟩

theorem find_tidy {cwd p : Text} {found : Location × Entry} (hcwd : Rooted cwd)
    (h : files.find cwd p = .ok found) : files.find cwd (tidy p) = .ok found := by
  obtain ⟨hlocate, hget⟩ := find_eq_ok.1 h
  exact find_eq_ok.2 ⟨locate_tidy hcwd hlocate, hget⟩

/-- The text of the file at a place. -/
def textAt (files : FileTree) (place : Location) : Except FileFault Text :=
  match files.get? place with
  | none => .error (absence place)
  | some .directory => .error .isADirectory
  | some (.file content) =>
    match String.fromUTF8? content with
    | some s => .ok (Text.normalizeNewlines s.toList)
    | none => .error .notUtf8

/-- What is read at an existing path is the text at its place. -/
theorem readText_tidy {cwd p : Text} (hcwd : Rooted cwd) (h : files.contains cwd p) :
    files.readText cwd (tidy p) = files.textAt (Location.ofPath (append cwd p)) := by
  obtain ⟨entry, hfind⟩ := exists_find_of_contains h
  rw [readText, find_tidy hcwd hfind, textAt, (find_eq_ok.1 hfind).2]
  cases entry with
  | directory => rfl
  | file content =>
    simp only [bind, Except.bind]
    cases String.fromUTF8? content <;> rfl

theorem exists_file_of_textAt {place : Location} {t : Text} (h : files.textAt place = .ok t) :
    ∃ content, files.get? place = some (.file content) := by
  unfold textAt at h
  split at h
  · cases h
  · cases h
  · next content hget => exact ⟨content, hget⟩

/-- An insertion makes no file but the one that is inserted. -/
theorem eq_or_of_get?_insert {place l : Location} {entry : Entry} {content : ByteArray}
    (h : (files.insert place entry).get? l = some (.file content)) :
    l = place ∨ files.get? l = some (.file content) := by
  unfold insert at h
  dsimp only at h
  split at h
  · next hl => exact .inl hl
  split at h
  · cases hget : files.get? l <;> rw [hget] at h <;> cases h
    exact .inr rfl
  · exact .inr h

/-! ### Names of files -/

/-- Whether there are directories on the way to a place. -/
def Reached (files : FileTree) (place : Location) : Prop :=
  ∀ n < place.length, files.get? (place.take n) = some .directory

theorem Reached.next {start : Location} (hdir : files.get? start = some .directory)
    (h : files.Reached start) (s : Text) : files.Reached (start.next s) := by
  unfold Location.next
  split_ifs with hidle hup
  · exact h
  · intro n hn
    rw [List.length_dropLast] at hn
    rw [List.dropLast_eq_take, List.take_take, Nat.min_eq_left (Nat.le_of_lt hn)]
    exact h n (by omega)
  · intro n hn
    rw [List.length_append, List.length_singleton] at hn
    rw [List.take_append_of_le_length (by omega)]
    by_cases hlast : n = start.length
    · rwa [hlast, List.take_length]
    · exact h n (by omega)

theorem Reached.walk {start place : Location} {l : List Text} (hstart : files.Reached start)
    (h : files.walk start l = .ok place) : files.Reached place := by
  induction l generalizing start with
  | nil => cases h; exact hstart
  | cons s l ih =>
    obtain ⟨hdir, h⟩ := walk_cons_eq_ok.1 h
    exact ih (hstart.next hdir s) h

/-- Only a name leads to a file. -/
theorem isName_of_walk {place : Location} {l : List Text} {s : Text} {content : ByteArray}
    (h : files.walk [] (l ++ [s]) = .ok place)
    (hfile : files.get? place = some (.file content)) : IsName s := by
  obtain ⟨mid, hmid, h⟩ := walk_append_eq_ok.1 h
  obtain ⟨hdir, h⟩ := walk_cons_eq_ok.1 h
  obtain rfl : mid.next s = place := by simpa [FileTree.walk] using h
  have hroot : files.Reached [] := fun n hn => absurd hn (Nat.not_lt_zero n)
  have hreached : files.Reached mid := hroot.walk hmid
  by_cases hidle : s = [] ∨ s = here
  -- an idle segment stays at the directory `mid`
  · rw [Location.next, if_pos hidle, hdir] at hfile
    cases hfile
  -- going up from `mid` leads to a directory on the way to it
  · refine ⟨fun h => hidle (.inl h), fun h => hidle (.inr h), fun hup => ?_⟩
    rw [Location.next, if_neg hidle, if_pos hup] at hfile
    rcases List.eq_nil_or_concat mid with rfl | ⟨above, t, rfl⟩
    · rw [List.dropLast_nil, hdir] at hfile
      cases hfile
    · have habove := hreached above.length (by simp)
      simp_all

theorem exists_segments_append_eq {cwd : Text} (hcwd : Rooted cwd) (p : Text) :
    ∃ l, segments (append cwd p) = l ++ [fileName p] := by
  have hname : segments (fileName p) = [fileName p] :=
    segments_of_slash_notMem (slash_notMem_fileName p)
  have hp : ∃ l, segments p = l ++ [fileName p] := by
    rcases head_eq_nil_or p with hhead | ⟨b, hhead⟩
    · refine ⟨[], ?_⟩
      have happend := head_append_fileName p
      rw [hhead, List.nil_append] at happend
      rw [List.nil_append, ← hname, happend]
    · refine ⟨segments b, ?_⟩
      have happend := head_append_fileName p
      rw [hhead, List.append_assoc, List.singleton_append] at happend
      rw [← hname, ← segments_append_slash, happend]
  by_cases hrooted : Rooted p
  · rwa [append_of_rooted hrooted]
  · obtain ⟨l, hl⟩ := hp
    obtain ⟨a, ha⟩ := exists_segments_append hcwd
    exact ⟨a ++ l, by rw [ha p hrooted, hl, List.append_assoc]⟩

/-- A path that leads to a file ends in the name of the file. -/
theorem isName_fileName {cwd p : Text} {place : Location} {content : ByteArray}
    (hcwd : Rooted cwd) (h : files.find cwd p = .ok (place, .file content)) :
    IsName (fileName p) := by
  obtain ⟨hlocate, hget⟩ := find_eq_ok.1 h
  obtain ⟨l, hl⟩ := exists_segments_append_eq hcwd p
  unfold locate at hlocate
  split at hlocate
  · cases hlocate
  · rw [hl] at hlocate
    exact isName_of_walk hlocate hget

end FileTree

end ShapeMapper
