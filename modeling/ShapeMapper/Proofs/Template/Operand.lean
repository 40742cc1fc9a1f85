import Mathlib.Logic.Basic
import ShapeMapper.Proofs.Except
import ShapeMapper.Template.Render

/-!
# What the operations of a template take

Printing, testing and reaching into a value fail only where something is missing. The other
operations take values of some kinds only, and filters take some arguments only (`Value.IsKey`,
`Value.IsIterable`, `Value.IsIncludable`, `Value.IsFilterable`): there is one lemma for each. An
operation that is not supported takes its values, too, and fails with a fault of its own.
-/

namespace ShapeMapper.Template.Value

/-! ### Kinds of values -/

def IsText : Value → Prop
  | text _ => True
  | _ => False

def IsMissing : Value → Prop
  | missing _ => True
  | _ => False

/-- Whether a value can be a key of a record. -/
def IsKey : Value → Prop
  | list _ false | record _ => False
  | _ => True

/-- Whether a value has items, which a loop can go through. -/
def IsIterable : Value → Prop
  | list .. | text _ | record _ | loop .. => True
  | _ => False

/-- Whether templates can be looked for under all of several values, and the last is the name that
is told when there is none. -/
def AreSought (names : List Value) : Prop :=
  (∀ name ∈ names, name.IsText ∨ name.IsMissing) ∧ ∃ name ∈ names.getLast?, name.IsText

/-- Whether a value tells which template is not there to be included, or that it leaves no choice of
one. Without a file there is no place to look for what has a name. -/
def IsIncludable (fromFile : Bool) : Value → Prop
  | text _ | missing _ => fromFile = true
  | list (name :: names) _ => fromFile = true ∧ AreSought (name :: names)
  | value => value.test = .ok false

/-- The argument of a filter that takes at most one, by its place or under a label. -/
def argument? (label : Text) (otherwise : Value) : List Argument → Option Value
  | [] => some otherwise
  | [(none, value)] => some value
  | [(some l, value)] => if l = label then some value else none
  | _ => none

/-- Whether a value can be joined with some arguments. Of items of which a part is named, the parts
would be joined, whatever the separator. -/
def IsJoinable (value : Value) (arguments : List Argument) : Prop :=
  if namesAttribute arguments then value.IsMissing ∨ value.IsIterable
  else ∃ separator, argument? ['d'] (text []) arguments = some separator ∧
    (separator.IsMissing ∨ value.IsMissing ∨ value.IsIterable)

/-- Whether a filter can be applied to a value with some arguments. Where the value or the argument
is missing, or there is no such filter, the failure is one of its own, unless the filter writes
property names: those take nothing but texts. -/
structure IsFilterable (value : Value) (name : Text) (arguments : List Argument) : Prop where
  join : name = "join".toList → value.IsJoinable arguments
  length : name = "length".toList → arguments = [] ∧ (value.IsMissing ∨ value.IsIterable)
  key : name = "ts_key".toList → arguments = [] ∧ value.IsText
  access : name = "ts_access".toList →
    (argument? "optional".toList (bool false) arguments).isSome = true ∧ value.IsText

variable {value : Value}

/-! ### Operations on all values -/

theorem print_ne_wrongKind (value : Value) : value.print ≠ .error .wrongKind := by
  cases value <;> simp [print]

theorem test_ne_wrongKind (value : Value) : value.test ≠ .error .wrongKind := by
  cases value <;> simp [test]

theorem field_ne_wrongKind (value : Value) (name : Text) :
    value.field name ≠ .error .wrongKind := by
  cases value <;> simp [field]

theorem item_ne_wrongKind (value key : Value) : value.item key ≠ .error .wrongKind := by
  unfold item
  split <;> simp

/-! ### Operations on some values -/

theorem items_eq_wrongKind_iff :
    value.items = .error .wrongKind ↔ ¬(value.IsMissing ∨ value.IsIterable) := by
  cases value <;> simp [items, IsMissing, IsIterable]

theorem entryName_eq_wrongKind_iff : value.entryName = .error .wrongKind ↔ ¬value.IsKey := by
  cases value with
  | list items fixed => cases fixed <;> simp [entryName, IsKey]
  | _ => simp [entryName, IsKey]

theorem isSought_iff : value.isSought = true ↔ value.IsText ∨ value.IsMissing := by
  cases value <;> simp [isSought, IsText, IsMissing]

theorem choiceFault_eq_wrongKind_iff (names : List Value) :
    choiceFault names = .wrongKind ↔ ¬AreSought names := by
  unfold choiceFault AreSought
  simp only [← isSought_iff, ← List.all_eq_true]
  cases names.all isSought with
  | false => simp
  | true =>
    cases hlast : names.getLast? with
    | none => simp
    | some last => cases last <;> simp [IsText]

/-- A value that names no template is tested. -/
theorem inclusionFault_eq_wrongKind_iff (fromFile : Bool) :
    value.inclusionFault fromFile = .wrongKind ↔ ¬value.IsIncludable fromFile := by
  cases value with
  | text t => cases fromFile <;> simp [inclusionFault, IsIncludable]
  | missing m => cases fromFile <;> simp [inclusionFault, IsIncludable]
  | list names fixed =>
    cases names with
    | nil => simp [inclusionFault, IsIncludable, test]
    | cons name names =>
      cases fromFile <;> simp [inclusionFault, IsIncludable, choiceFault_eq_wrongKind_iff]
  | _ =>
    simp only [inclusionFault, IsIncludable]
    split <;> simp_all

theorem mapM_print_ne_wrongKind (l : List Value) : l.mapM print ≠ .error .wrongKind := by
  induction l with
  | nil => simp [pure, Except.pure]
  | cons value l ih =>
    rw [List.mapM_cons, Ne, bind_eq_error_iff]
    simp [print_ne_wrongKind, bind_eq_error_iff, ih, pure, Except.pure]

theorem print_eq_error_of_isMissing (h : value.IsMissing) :
    ∃ m, value.print = .error (.missing m) := by
  cases value with
  | missing m => exact ⟨m, rfl⟩
  | _ => cases h

theorem exists_print_of_not_isMissing (h : ¬value.IsMissing) : ∃ t, value.print = .ok t := by
  cases value with
  | missing m => exact absurd trivial h
  | _ => exact ⟨_, rfl⟩

/-- The separator is looked at before the value. -/
theorem join_eq_wrongKind_iff {separator : Value} : value.join separator = .error .wrongKind ↔
    ¬(separator.IsMissing ∨ value.IsMissing ∨ value.IsIterable) := by
  unfold join
  by_cases h : separator.IsMissing
  · obtain ⟨m, hm⟩ := print_eq_error_of_isMissing h
    simp [bind_eq_error_iff, hm, h]
  · obtain ⟨t, ht⟩ := exists_print_of_not_isMissing h
    simp [bind_eq_error_iff, ht, h, items_eq_wrongKind_iff, mapM_print_ne_wrongKind, pure,
      Except.pure]

theorem length_eq_wrongKind_iff :
    value.length = .error .wrongKind ↔ ¬(value.IsMissing ∨ value.IsIterable) := by
  cases value <;> simp [length, items, Except.map, IsMissing, IsIterable]

theorem key_eq_wrongKind_iff : value.key = .error .wrongKind ↔ ¬value.IsText := by
  cases value <;> simp [Value.key, IsText]

theorem access_eq_wrongKind_iff {guarded : Value} :
    value.access guarded = .error .wrongKind ↔ ¬value.IsText := by
  cases value with
  | text t =>
    cases h : Access.isPlain t <;>
      simp [access, IsText, bind_eq_error_iff, h, test_ne_wrongKind, pure, Except.pure]
  | _ => simp [access, IsText]

/-! ### Filters -/

section filters

variable {name : Text} {arguments : List Argument}

theorem filter_join (h : namesAttribute arguments = false) :
    value.filter "join".toList arguments =
      (argument? ['d'] (text []) arguments).elim (.error .wrongKind) value.join := by
  unfold filter argument?
  rw [if_pos rfl, if_neg (by simp [h])]
  rcases arguments with _ | ⟨⟨_ | label, argument⟩, _ | _⟩
  · rfl
  · rfl
  · rfl
  · by_cases h : label = ['d'] <;> simp [h]
  · rfl

theorem filter_length : value.filter "length".toList arguments =
    if arguments.isEmpty then value.length else .error .wrongKind := by
  unfold filter
  rw [if_neg (by decide), if_pos rfl]

theorem filter_key : value.filter "ts_key".toList arguments =
    if arguments.isEmpty then value.key else .error .wrongKind := by
  unfold filter
  rw [if_neg (by decide), if_neg (by decide), if_pos rfl]

theorem filter_access : value.filter "ts_access".toList arguments =
    (argument? "optional".toList (bool false) arguments).elim (.error .wrongKind) value.access := by
  unfold filter argument?
  rw [if_neg (by decide), if_neg (by decide), if_neg (by decide), if_pos rfl]
  rcases arguments with _ | ⟨⟨_ | label, argument⟩, _ | _⟩
  · rfl
  · rfl
  · rfl
  · by_cases h : label = "optional".toList <;> simp only [h, if_true, if_false] <;> rfl
  · rfl

/-- A filter that does not exist fails with its name. -/
theorem filter_of_notMem (h : name ∉ filterNames) :
    value.filter name arguments = .error (.unknownFilter name) := by
  simp only [filterNames, List.map_cons, List.map_nil, List.mem_cons, List.not_mem_nil, or_false,
    not_or] at h
  unfold filter
  rw [if_neg h.1, if_neg h.2.1, if_neg h.2.2.1, if_neg h.2.2.2]

theorem filter_join_eq_wrongKind_iff :
    value.filter "join".toList arguments = .error .wrongKind ↔ ¬value.IsJoinable arguments := by
  unfold IsJoinable
  cases h : namesAttribute arguments with
  | true =>
    -- the items are taken before the parts of them
    unfold filter
    rw [if_pos rfl, if_pos h, bind_eq_error_iff, items_eq_wrongKind_iff]
    simp [throw, throwThe, MonadExceptOf.throw]
  | false =>
    rw [filter_join h]
    cases argument? ['d'] (text []) arguments with
    | none => simp
    | some separator => simp [join_eq_wrongKind_iff]

theorem filter_access_eq_wrongKind_iff :
    value.filter "ts_access".toList arguments = .error .wrongKind ↔
      ¬((argument? "optional".toList (bool false) arguments).isSome = true ∧ value.IsText) := by
  rw [filter_access]
  cases h : argument? "optional".toList (bool false) arguments with
  | none => simp
  | some guarded => simp [access_eq_wrongKind_iff]

theorem filter_length_eq_wrongKind_iff :
    value.filter "length".toList arguments = .error .wrongKind ↔
      ¬(arguments = [] ∧ (value.IsMissing ∨ value.IsIterable)) := by
  rw [filter_length]
  cases arguments with
  | nil => simp [length_eq_wrongKind_iff]
  | cons => simp

theorem filter_key_eq_wrongKind_iff :
    value.filter "ts_key".toList arguments = .error .wrongKind ↔
      ¬(arguments = [] ∧ value.IsText) := by
  rw [filter_key]
  cases arguments with
  | nil => simp [key_eq_wrongKind_iff]
  | cons => simp

theorem filter_eq_wrongKind_iff :
    value.filter name arguments = .error .wrongKind ↔ ¬value.IsFilterable name arguments := by
  by_cases hname : name ∈ filterNames
  · simp only [filterNames, List.map_cons, List.map_nil, List.mem_cons, List.not_mem_nil,
      or_false] at hname
    rcases hname with rfl | rfl | rfl | rfl
    · rw [filter_join_eq_wrongKind_iff, not_iff_not]
      exact ⟨fun h => ⟨fun _ => h, nofun, nofun, nofun⟩, fun h => h.join rfl⟩
    · rw [filter_length_eq_wrongKind_iff, not_iff_not]
      exact ⟨fun h => ⟨nofun, fun _ => h, nofun, nofun⟩, fun h => h.length rfl⟩
    · rw [filter_key_eq_wrongKind_iff, not_iff_not]
      exact ⟨fun h => ⟨nofun, nofun, fun _ => h, nofun⟩, fun h => h.key rfl⟩
    · rw [filter_access_eq_wrongKind_iff, not_iff_not]
      exact ⟨fun h => ⟨nofun, nofun, nofun, fun _ => h⟩, fun h => h.access rfl⟩
  · rw [filter_of_notMem hname]
    have hfilterable : value.IsFilterable name arguments := by
      constructor <;> rintro rfl <;> exact absurd (by decide) hname
    simp [hfilterable]

end filters

end ShapeMapper.Template.Value
