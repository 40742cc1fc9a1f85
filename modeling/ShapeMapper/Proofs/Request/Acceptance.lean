import Mathlib.Data.List.Forall2
import Mathlib.Order.Bounds.Basic
import ShapeMapper.Config
import ShapeMapper.Proofs.Except

/-!
# Accepted configurations

Which values are entries of a configuration, and which requests they make (`Request.Makes`), is said
here of the fields of an entry, and so is the first fault of a value that is no entry
(`Request.HasFault`). A configuration is accepted exactly if it is an array of entries, and
otherwise the first value that is none is reported with its first fault:
`Request.ofDocument_accepts`.
-/

namespace ShapeMapper

/-- The field that a fault is about. -/
def EntryFault.field? : EntryFault → Option Text
  | notAnObject => none
  | missing field | notAText field | notABool field => some field

/-- A fault in words begins with the field that it is about. -/
theorem EntryFault.prefix_message {fault : EntryFault} {field : Text}
    (h : field ∈ fault.field?) : field ++ ": ".toList <+: fault.message := by
  cases fault with
  | notAnObject => cases h
  | missing name =>
    cases h
    exact ⟨"Field required".toList, List.append_assoc _ _ _⟩
  | notAText name =>
    cases h
    exact ⟨"Input should be a valid string".toList, List.append_assoc _ _ _⟩
  | notABool name =>
    cases h
    exact ⟨"Input should be a valid boolean".toList, List.append_assoc _ _ _⟩

namespace Request

/-! ### Entries -/

/-- The flag of an entry and the name it stands under, the first of the two that the entry has. -/
def flagField? (fields : List (Text × Json)) : Option (Text × Json) :=
  ((Json.field? "viceVersa".toList fields).map ("viceVersa".toList, ·)).or
    ((Json.field? "vice_versa".toList fields).map ("vice_versa".toList, ·))

/-- Whether the fields of an entry make the request `r`. An entry without a flag goes one way. -/
structure HasFields (fields : List (Text × Json)) (r : Request) : Prop where
  source : Json.field? "source".toList fields = some (.text r.source)
  target : Json.field? "target".toList fields = some (.text r.target)
  bothWays : (∃ name, flagField? fields = some (name, .bool r.bothWays)) ∨
    flagField? fields = none ∧ r.bothWays = false

/-- Whether a value is an entry that makes the request `r`. -/
def Makes (v : Json) (r : Request) : Prop :=
  ∃ fields, v = .object fields ∧ HasFields fields r

/-- Whether a field that has to hold a text does not, and what is wrong with it. -/
inductive TextFault (name : Text) (fields : List (Text × Json)) : EntryFault → Prop
  | missing (h : Json.field? name fields = none) : TextFault name fields (.missing name)
  | notAText {v : Json} (h : Json.field? name fields = some v) (hv : ∀ t, v ≠ .text t) :
    TextFault name fields (.notAText name)

/-- Whether a value is no entry, and what is wrong with it: of several fields that do not hold what
they have to it is the first one, in the order of source, target and flag. -/
inductive HasFault : Json → EntryFault → Prop
  | notAnObject {v : Json} (h : ∀ fields, v ≠ .object fields) : HasFault v .notAnObject
  | source {fields : List (Text × Json)} {fault : EntryFault}
    (h : TextFault "source".toList fields fault) : HasFault (.object fields) fault
  | target {fields : List (Text × Json)} {source : Text} {fault : EntryFault}
    (hsource : Json.field? "source".toList fields = some (.text source))
    (h : TextFault "target".toList fields fault) : HasFault (.object fields) fault
  | flag {fields : List (Text × Json)} {source target name : Text} {v : Json}
    (hsource : Json.field? "source".toList fields = some (.text source))
    (htarget : Json.field? "target".toList fields = some (.text target))
    (h : flagField? fields = some (name, v)) (hv : ∀ b, v ≠ .bool b) :
    HasFault (.object fields) (.notABool name)

section entry

variable {fields : List (Text × Json)} {name t : Text} {fault : EntryFault} {v : Json}
  {r : Request} {b : Bool}

theorem textField_eq_ok_iff :
    textField name fields = .ok t ↔ Json.field? name fields = some (.text t) := by
  unfold textField
  split <;> simp_all

theorem textField_eq_error_iff :
    textField name fields = .error fault ↔ TextFault name fields fault := by
  unfold textField
  constructor
  · intro h
    split at h
    · cases h
    · next v hnot hv =>
      cases h
      exact .notAText hv fun t ht => hnot t ht
    · next hnone =>
      cases h
      exact .missing hnone
  · rintro (hnone | ⟨hv, hnot⟩)
    · rw [hnone]
    · rw [hv]
      split <;> simp_all

theorem flag_eq : flag fields =
    match flagField? fields with
    | some (_, .bool b) => .ok b
    | some (name, _) => .error (.notABool name)
    | none => .ok false := by
  unfold flag boolField? flagField?
  cases hfirst : Json.field? "viceVersa".toList fields with
  | some v => cases v <;> rfl
  | none =>
    cases hsecond : Json.field? "vice_versa".toList fields with
    | some v => cases v <;> rfl
    | none => rfl

theorem flag_eq_ok_iff : flag fields = .ok b ↔
    (∃ name, flagField? fields = some (name, .bool b)) ∨ flagField? fields = none ∧ b = false := by
  rw [flag_eq]
  cases flagField? fields with
  | none => simp [eq_comm]
  | some found =>
    obtain ⟨name, v⟩ := found
    cases v <;> simp [eq_comm]

theorem flag_eq_error_iff : flag fields = .error fault ↔
    ∃ name v, flagField? fields = some (name, v) ∧ (∀ b, v ≠ .bool b) ∧
      fault = .notABool name := by
  rw [flag_eq]
  cases flagField? fields with
  | none => simp [eq_comm]
  | some found =>
    obtain ⟨name, v⟩ := found
    cases v <;> simp [eq_comm]

theorem ofEntry_eq_ok_iff : ofEntry v = .ok r ↔ Makes v r := by
  constructor
  · intro h
    unfold ofEntry at h
    split at h
    · next fields =>
      obtain ⟨source, hsource, h⟩ := exists_ok_of_bind h
      obtain ⟨target, htarget, h⟩ := exists_ok_of_bind h
      obtain ⟨bothWays, hflag, h⟩ := exists_ok_of_bind h
      cases h
      exact ⟨fields, rfl, textField_eq_ok_iff.1 hsource, textField_eq_ok_iff.1 htarget,
        flag_eq_ok_iff.1 hflag⟩
    · cases h
  · rintro ⟨fields, rfl, hsource, htarget, hflag⟩
    rw [ofEntry, textField_eq_ok_iff.2 hsource, textField_eq_ok_iff.2 htarget,
      flag_eq_ok_iff.2 hflag]
    rfl

theorem ofEntry_eq_error_iff : ofEntry v = .error fault ↔ HasFault v fault := by
  constructor
  · intro h
    unfold ofEntry at h
    split at h
    · next fields =>
      rcases bind_eq_error_iff.1 h with h | ⟨source, hsource, h⟩
      · exact .source (textField_eq_error_iff.1 h)
      have hsource := textField_eq_ok_iff.1 hsource
      rcases bind_eq_error_iff.1 h with h | ⟨target, htarget, h⟩
      · exact .target hsource (textField_eq_error_iff.1 h)
      have htarget := textField_eq_ok_iff.1 htarget
      rcases bind_eq_error_iff.1 h with h | ⟨bothWays, -, h⟩
      · obtain ⟨name, v, hflag, hv, rfl⟩ := flag_eq_error_iff.1 h
        exact .flag hsource htarget hflag hv
      · cases h
    · next hnot =>
      cases h
      exact .notAnObject hnot
  · intro h
    cases h with
    | notAnObject h =>
      unfold ofEntry
      split
      · next fields => exact absurd rfl (h fields)
      · rfl
    | source h =>
      rw [ofEntry, textField_eq_error_iff.2 h]
      rfl
    | target hsource h =>
      rw [ofEntry, textField_eq_ok_iff.2 hsource, textField_eq_error_iff.2 h]
      rfl
    | flag hsource htarget h hv =>
      rw [ofEntry, textField_eq_ok_iff.2 hsource, textField_eq_ok_iff.2 htarget,
        flag_eq_error_iff.2 ⟨_, _, h, hv, rfl⟩]
      rfl

/-- A value is an entry, or it has a fault. -/
theorem exists_makes_or_hasFault (v : Json) : (∃ r, Makes v r) ∨ ∃ fault, HasFault v fault := by
  cases h : ofEntry v with
  | ok r => exact .inl ⟨r, ofEntry_eq_ok_iff.1 h⟩
  | error fault => exact .inr ⟨fault, ofEntry_eq_error_iff.1 h⟩

theorem not_makes_of_hasFault (h : HasFault v fault) (r : Request) : ¬Makes v r := by
  intro hmakes
  cases (ofEntry_eq_error_iff.2 h).symm.trans (ofEntry_eq_ok_iff.2 hmakes)

end entry

/-! ### Configurations -/

theorem ofEntries_cons_of_makes {v : Json} {r : Request} (h : Makes v r) (index : Nat)
    (entries : List Json) :
    ofEntries index (v :: entries) = (ofEntries (index + 1) entries).map (r :: ·) := by
  rw [ofEntries, ofEntry_eq_ok_iff.2 h]
  cases ofEntries (index + 1) entries with
  | error e => rfl
  | ok requests => rfl

theorem ofEntries_cons_of_hasFault {v : Json} {fault : EntryFault} (h : HasFault v fault)
    (index : Nat) (entries : List Json) :
    ofEntries index (v :: entries) = .error (.invalidEntry index fault) := by
  rw [ofEntries, ofEntry_eq_error_iff.2 h]
  rfl

/-- A list of entries has the requests that they make, in their order. -/
theorem ofEntries_eq_ok_iff {index : Nat} {entries : List Json} {requests : List Request} :
    ofEntries index entries = .ok requests ↔ List.Forall₂ Makes entries requests := by
  induction entries generalizing index requests with
  | nil =>
    rw [List.forall₂_nil_left_iff]
    exact ⟨fun h => (Except.ok.inj h).symm, fun h => h ▸ rfl⟩
  | cons v entries ih =>
    constructor
    · intro h
      rcases exists_makes_or_hasFault v with ⟨r, hr⟩ | ⟨fault, hfault⟩
      · rw [ofEntries_cons_of_makes hr] at h
        obtain ⟨later, hlater, rfl⟩ := exists_ok_of_map h
        exact .cons hr (ih.1 hlater)
      · cases (ofEntries_cons_of_hasFault hfault index entries).symm.trans h
    · intro h
      cases h with
      | cons hr hlater =>
        rw [ofEntries_cons_of_makes hr, ih.2 hlater]
        rfl

/-- Every value of a list of entries makes a request. -/
theorem exists_makes_of_mem {entries : List Json} {requests : List Request}
    (h : List.Forall₂ Makes entries requests) {v : Json} (hv : v ∈ entries) : ∃ r, Makes v r := by
  obtain ⟨i, hi, rfl⟩ := List.getElem_of_mem hv
  exact ⟨requests.get ⟨i, h.length_eq ▸ hi⟩, h.get hi _⟩

/-- The places of the values that are no entries. -/
def faultyPlaces (entries : List Json) : Set Nat :=
  {i | ∃ v ∈ entries[i]?, ∀ r, ¬Makes v r}

theorem isLeast_faultyPlaces_of_hasFault {v : Json} {fault : EntryFault} (h : HasFault v fault)
    (entries : List Json) : IsLeast (faultyPlaces (v :: entries)) 0 :=
  ⟨⟨v, rfl, not_makes_of_hasFault h⟩, fun _ _ => Nat.zero_le _⟩

theorem isLeast_faultyPlaces_of_makes {v : Json} {r : Request} (h : Makes v r)
    (entries : List Json) (i : Nat) : IsLeast (faultyPlaces (v :: entries)) i ↔
      ∃ j, i = j + 1 ∧ IsLeast (faultyPlaces entries) j := by
  have hzero : 0 ∉ faultyPlaces (v :: entries) := by
    rintro ⟨u, hu, hnot⟩
    cases hu
    exact hnot r h
  constructor
  · rintro ⟨hmem, hle⟩
    cases i with
    | zero => exact absurd hmem hzero
    | succ j => exact ⟨j, rfl, hmem, fun k hk => Nat.le_of_succ_le_succ (hle (a := k + 1) hk)⟩
  · rintro ⟨j, rfl, hmem, hle⟩
    refine ⟨hmem, fun k hk => ?_⟩
    cases k with
    | zero => exact absurd hk hzero
    | succ k => exact Nat.succ_le_succ (hle hk)

/-- A list of values is refused at the first one that is no entry. -/
theorem ofEntries_eq_error_iff {index : Nat} {entries : List Json} {e : ConfigError} :
    ofEntries index entries = .error e ↔ ∃ i fault, IsLeast (faultyPlaces entries) i ∧
      (∃ v ∈ entries[i]?, HasFault v fault) ∧ e = .invalidEntry (index + i) fault := by
  induction entries generalizing index with
  | nil =>
    constructor
    · intro h
      cases h
    · rintro ⟨i, fault, -, ⟨v, hv, -⟩, -⟩
      cases hv
  | cons v entries ih =>
    rcases exists_makes_or_hasFault v with ⟨r, hr⟩ | ⟨fault, hfault⟩
    · have hstep : ofEntries index (v :: entries) = .error e ↔
          ofEntries (index + 1) entries = .error e := by
        rw [ofEntries_cons_of_makes hr, map_eq_error_iff]
      simp only [hstep, ih, isLeast_faultyPlaces_of_makes hr]
      constructor
      · rintro ⟨j, fault, hleast, hfault, rfl⟩
        exact ⟨j + 1, fault, ⟨j, rfl, hleast⟩, hfault, by rw [Nat.add_assoc, Nat.add_comm 1]⟩
      · rintro ⟨i, fault, ⟨j, rfl, hleast⟩, hfault, rfl⟩
        exact ⟨j, fault, hleast, hfault, by rw [Nat.add_assoc, Nat.add_comm 1]⟩
    · have hleast := isLeast_faultyPlaces_of_hasFault hfault entries
      rw [ofEntries_cons_of_hasFault hfault, Except.error.injEq]
      constructor
      · rintro rfl
        exact ⟨0, fault, hleast, ⟨v, rfl, hfault⟩, rfl⟩
      · rintro ⟨i, other, hleast', ⟨u, hu, hother⟩, rfl⟩
        obtain rfl := hleast.unique hleast'
        cases hu
        cases (ofEntry_eq_error_iff.2 hfault).symm.trans (ofEntry_eq_error_iff.2 hother)
        rfl

/-- In a list with a value that is no entry there is a first one, and it has a fault. -/
theorem exists_isLeast_faultyPlaces_iff {entries : List Json} :
    (∃ i fault, IsLeast (faultyPlaces entries) i ∧ ∃ v ∈ entries[i]?, HasFault v fault) ↔
      ∃ v ∈ entries, ∀ r, ¬Makes v r := by
  constructor
  · rintro ⟨i, fault, -, v, hv, hfault⟩
    exact ⟨v, List.mem_of_getElem? hv, not_makes_of_hasFault hfault⟩
  · rintro ⟨v, hv, hnot⟩
    cases h : ofEntries 0 entries with
    | ok requests =>
      obtain ⟨r, hr⟩ := exists_makes_of_mem (ofEntries_eq_ok_iff.1 h) hv
      exact absurd hr (hnot r)
    | error e =>
      obtain ⟨i, fault, hleast, hfault, -⟩ := ofEntries_eq_error_iff.1 h
      exact ⟨i, fault, hleast, hfault⟩

/-- A configuration is accepted exactly if it is an array of entries, and then it has the requests
that these make, each where it is made for the first time. Of any other value it is reported that it
is no array, and of any other array the first value that is no entry, with its first fault. A fault
in words begins with the field that it is about. -/
theorem ofDocument_accepts :
    (∀ d kind, ofDocument d = .error (.notAnArray kind) ↔
      (∀ entries, d ≠ .list entries) ∧ kind = d.kind) ∧
    (∀ entries,
      ((∃ index fault, ofDocument (.list entries) = .error (.invalidEntry index fault)) ↔
        ∃ v ∈ entries, ∀ r, ¬Makes v r) ∧
      (∀ index fault, ofDocument (.list entries) = .error (.invalidEntry index fault) ↔
        IsLeast (faultyPlaces entries) index ∧ ∃ v ∈ entries[index]?, HasFault v fault) ∧
      ∀ requests, ofDocument (.list entries) = .ok requests ↔
        ∃ made, List.Forall₂ Makes entries made ∧ requests = made.eraseDups) ∧
    ∀ fault : EntryFault, ∀ field ∈ fault.field?, field ++ ": ".toList <+: fault.message := by
  have hrefused (entries : List Json) (e : ConfigError) :
      ofDocument (.list entries) = .error e ↔ ofEntries 0 entries = .error e := map_eq_error_iff
  have hfirst (entries : List Json) (index : Nat) (fault : EntryFault) :
      ofDocument (.list entries) = .error (.invalidEntry index fault) ↔
        IsLeast (faultyPlaces entries) index ∧ ∃ v ∈ entries[index]?, HasFault v fault := by
    rw [hrefused, ofEntries_eq_error_iff]
    constructor
    · rintro ⟨i, other, hleast, hfault, h⟩
      cases h
      rw [Nat.zero_add]
      exact ⟨hleast, hfault⟩
    · rintro ⟨hleast, hfault⟩
      exact ⟨index, fault, hleast, hfault, by rw [Nat.zero_add]⟩
  refine ⟨fun d kind => ?_, fun entries => ⟨?_, hfirst entries, fun requests => ?_⟩,
    fun fault field h => EntryFault.prefix_message h⟩
  · cases d with
    | list entries =>
      rw [hrefused, ofEntries_eq_error_iff]
      simp
    | _ => simp [ofDocument, eq_comm]
  · simp only [hfirst]
    exact exists_isLeast_faultyPlaces_iff
  · constructor
    · intro h
      obtain ⟨made, hmade, rfl⟩ := exists_ok_of_map h
      exact ⟨made, ofEntries_eq_ok_iff.1 hmade, rfl⟩
    · rintro ⟨made, hmade, rfl⟩
      rw [ofDocument, ofEntries_eq_ok_iff.2 hmade]
      rfl

end Request

end ShapeMapper
