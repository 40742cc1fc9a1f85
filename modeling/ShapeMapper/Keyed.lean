/-!
# Keyed lists

Lists in which every element has a key. Putting an element replaces the one with its key,
in place, or appends it.
-/

namespace ShapeMapper.Keyed

variable {α κ : Type} [DecidableEq κ]

/-- `a` in the place of the element with its key, or at the end if there is none. -/
def put (key : α → κ) (a : α) : List α → List α
  | [] => [a]
  | b :: l => if key b = key a then a :: l else b :: put key a l

/-- The elements put one after the other: a key keeps its first place and its last element. -/
def ofList (key : α → κ) (l : List α) : List α :=
  l.foldl (fun kept a => put key a kept) []

/-- The element with a given key. -/
def find? (key : α → κ) (k : κ) (l : List α) : Option α :=
  l.find? fun a => key a = k

/-- Only a new key changes the keys, and it goes to the end. -/
theorem map_key_put (key : α → κ) (a : α) (l : List α) :
    (put key a l).map key = if key a ∈ l.map key then l.map key else l.map key ++ [key a] := by
  induction l with
  | nil => simp [put]
  | cons b l ih => by_cases h : key b = key a <;> grind [put]

/-- What was put last is what is found. -/
theorem find?_put (key : α → κ) (a : α) (k : κ) (l : List α) :
    find? key k (put key a l) = if key a = k then some a else find? key k l := by
  induction l with
  | nil => simp [put, find?]
  | cons b l ih =>
    by_cases h : key b = key a <;> by_cases hk : key a = k <;>
      simp_all [put, find?, List.find?_cons]

theorem nodup_put {key : α → κ} {l : List α} (a : α) (h : (l.map key).Nodup) :
    ((put key a l).map key).Nodup := by
  rw [map_key_put]
  split
  · exact h
  · next ha => exact List.nodup_append.2 ⟨h, by simp, by simp; grind⟩

/-- No two elements of a keyed list have one key. -/
theorem nodup_ofList (key : α → κ) (l : List α) : ((ofList key l).map key).Nodup := by
  suffices ∀ kept : List α, (kept.map key).Nodup →
      ((l.foldl (fun kept a => put key a kept) kept).map key).Nodup from this [] (by simp)
  induction l with
  | nil => exact fun _ h => h
  | cons a l ih => exact fun kept h => ih _ (nodup_put a h)

end ShapeMapper.Keyed
