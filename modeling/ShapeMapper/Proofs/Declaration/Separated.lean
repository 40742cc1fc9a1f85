import ShapeMapper.Proofs.Declaration.LineType

/-!
# Properties between separators

Properties with semicolons, commas and line ends between them are read back in their order,
whatever blanks stand around them: `members_listing`.
-/

namespace ShapeMapper.Written

open Source Declaration

/-! ### One property -/

/-- A property whose type stands complete on one line, with no operator in front of it. -/
structure Signature where
  readonly : Bool
  name : PropertyName
  optional : Bool
  type : Text
  isLineType : IsLineType type
  not_operator_head : ∀ c ∈ type.head?, c ≠ '|' ∧ c ≠ '&'

namespace Signature

def text (p : Signature) : Text :=
  (if p.readonly then "readonly ".toList else []) ++ p.name.typed p.optional p.type

/-- The property that is declared, with its type as it is written. -/
def declared (p : Signature) : ShapeMapper.Property where
  name := p.name.value
  type := p.type
  optional := p.optional

theorem ofText_text (p : Signature) : Member.ofText p.text = .property p.declared := by
  have hread := p.name.ofText_typed p.readonly p.optional p.isLineType.ne_nil
    p.isLineType.isSpaced.not_isBlank_head
  rwa [normalizeType_eq_self p.isLineType.isSpaced p.not_operator_head] at hread

theorem isLine_text (p : Signature) : IsLine (fun _ => True) p.text := by
  have hline := p.name.isLine_typed p.optional p.isLineType
  rw [text]
  cases p.readonly with
  | false => exact hline
  | true => exact {
      bracketed := .append (t := "readonly ".toList) (.of_all (by decide)) hline.bracketed
      ne_nil := List.append_ne_nil_of_right_ne_nil _ hline.ne_nil
      not_isBlank_head := by
        rintro c ⟨⟩
        decide
      not_isBlank_last := by
        rw [List.getLast?_append_of_ne_nil _ hline.ne_nil]
        exact hline.not_isBlank_last
      not_operator_head := by
        rintro c ⟨⟩
        decide
      isComplete := hline.isComplete.append "readonly".toList rfl }

end Signature

/-! ### Between two separators -/

/-- What separates properties. -/
inductive Separator
  | semicolon
  | comma
  | newline
  deriving DecidableEq

def Separator.char : Separator → Char
  | semicolon => ';'
  | comma => ','
  | newline => '\n'

theorem Separator.isMark_char (s : Separator) : IsMark s.char := by
  cases s
  · exact .inl rfl
  · exact .inr (.inl rfl)
  · exact .inr (.inr rfl)

theorem Separator.isFiller_char (s : Separator) : IsFiller s.char := by
  cases s
  · exact .inr (.inl rfl)
  · exact .inr (.inr rfl)
  · exact .inl rfl

/-- What stands between two separators: a property or none, and some blanks. -/
structure Field where
  before : Text
  property? : Option Signature
  after : Text
  isBlank_before : ∀ c ∈ before, Text.isBlank c = true
  isBlank_after : ∀ c ∈ after, Text.isBlank c = true

namespace Field

variable {u : Text} (f : Field)

def text : Text :=
  f.before ++ (f.property?.elim [] Signature.text ++ f.after)

/-- The properties of a field: one or none. -/
def properties : List Signature :=
  f.property?.toList

/-- A field is the blanks around a property, or nothing but blanks. -/
theorem text_cases :
    (∃ p, f.properties = [p] ∧ f.text = f.before ++ (p.text ++ f.after)) ∨
      (f.properties = [] ∧ f.text = f.before ++ f.after) := by
  rw [text, properties]
  cases f.property? with
  | none => exact .inr ⟨rfl, rfl⟩
  | some p => exact .inl ⟨p, rfl, rfl⟩

theorem isFiller_before : ∀ c ∈ f.before, IsFiller c := fun c hc => .inl (f.isBlank_before c hc)

theorem isFiller_after : ∀ c ∈ f.after, IsFiller c := fun c hc => .inl (f.isBlank_after c hc)

theorem isFiller_blanks : ∀ c ∈ f.before ++ f.after, IsFiller c :=
  List.forall_mem_append.2 ⟨f.isFiller_before, f.isFiller_after⟩

theorem bracketed_text : Bracketed (fun _ => True) (fun _ => True) f.text := by
  rcases f.text_cases with ⟨p, -, htext⟩ | ⟨-, htext⟩
  · rw [htext]
    exact (bracketed_of_isFiller f.isFiller_before).append
      ((p.isLine_text.bracketed.mono fun _ _ => trivial).append
        (bracketed_of_isFiller f.isFiller_after))
  · rw [htext]
    exact bracketed_of_isFiller f.isFiller_blanks

theorem startsFresh_append (hu : StartsFresh u) : StartsFresh (f.text ++ u) := by
  rcases f.text_cases with ⟨p, -, htext⟩ | ⟨-, htext⟩
  · rw [htext, List.append_assoc, List.append_assoc]
    exact (p.isLine_text.startsFresh_append _).blank_append f.isBlank_before
  · rw [htext]
    exact hu.filler_append f.isFiller_blanks

/-- A field is read up to the separator after it. -/
theorem trimmedFrom_append (s : Separator) (hu : StartsFresh u) :
    trimmedFrom [] (f.text ++ s.char :: u) =
      f.properties.map Signature.text ++ trimmedFrom [] u := by
  have hseparator : ∀ c ∈ [s.char], IsFiller c := List.forall_mem_singleton.2 s.isFiller_char
  rcases f.text_cases with ⟨p, hproperties, htext⟩ | ⟨hproperties, htext⟩
  · have hafter : ∀ c ∈ f.after ++ [s.char], IsFiller c :=
      List.forall_mem_append.2 ⟨f.isFiller_after, hseparator⟩
    have hread := p.isLine_text.trimmedFrom_append f.isFiller_before hafter
      ⟨s.char, by simp, s.isMark_char⟩ hu
    rw [hproperties, htext]
    simpa using hread
  · have hblanks : ∀ c ∈ f.before ++ f.after ++ [s.char], IsFiller c :=
      List.forall_mem_append.2 ⟨f.isFiller_blanks, hseparator⟩
    have hread := trimmedFrom_filler hblanks u
    rw [hproperties, htext]
    simpa using hread

/-- The last field needs no separator. -/
theorem trimmedFrom_last : trimmedFrom [] f.text = f.properties.map Signature.text := by
  rcases f.text_cases with ⟨p, hproperties, htext⟩ | ⟨hproperties, htext⟩
  · rw [hproperties, htext]
    exact p.isLine_text.trimmedFrom_last f.isFiller_before f.isFiller_after
  · have hread := trimmedFrom_filler f.isFiller_blanks []
    rw [List.append_nil, trimmedFrom_nil] at hread
    rw [hproperties, htext, hread]
    rfl

end Field

/-! ### All properties -/

/-- Fields with a separator after each but the last. -/
def listing (fields : List (Field × Separator)) (last : Field) : Text :=
  (fields.flatMap fun (f, s) => f.text ++ [s.char]) ++ last.text

/-- The properties of such fields. -/
def listedProperties (fields : List (Field × Separator)) (last : Field) : List Signature :=
  (fields.flatMap fun (f, _) => f.properties) ++ last.properties

section

variable (fields : List (Field × Separator)) (last : Field)

theorem listing_cons (f : Field) (s : Separator) :
    listing ((f, s) :: fields) last = f.text ++ (s.char :: listing fields last) := by
  simp [listing]

theorem startsFresh_listing : StartsFresh (listing fields last) := by
  induction fields with
  | nil =>
    have hlast := last.startsFresh_append (u := []) (by simp [StartsFresh, Text.trimStart])
    rwa [List.append_nil] at hlast
  | cons field fields ih =>
    obtain ⟨f, s⟩ := field
    rw [listing_cons]
    exact f.startsFresh_append
      (ih.filler_append (u := [s.char]) (List.forall_mem_singleton.2 s.isFiller_char))

theorem trimmedFrom_listing :
    trimmedFrom [] (listing fields last) = (listedProperties fields last).map Signature.text := by
  induction fields with
  | nil => exact last.trimmedFrom_last
  | cons field fields ih =>
    obtain ⟨f, s⟩ := field
    rw [listing_cons, f.trimmedFrom_append s (startsFresh_listing fields last), ih]
    simp [listedProperties]

theorem bracketed_listing : Bracketed (fun _ => True) (fun _ => True) (listing fields last) := by
  refine .append (.flatMap fun field _ => ?_) last.bracketed_text
  exact field.1.bracketed_text.append
    (bracketed_of_isFiller (List.forall_mem_singleton.2 field.2.isFiller_char))

/-- Properties are read back in their order, whatever separates them. -/
theorem members_listing :
    members (listing fields last) =
      .ok ((listedProperties fields last).map fun p => .property p.declared) := by
  simp only [members, (bracketed_listing fields last).torn_ofText, if_true, splitMembers_eq,
    trimmedFrom_listing, List.map_map]
  congr 2
  funext p
  exact p.ofText_text

end

/-- A property that has the name of the word in front of it and a separator in its type, twice, and
one with a quoted name, with all three separators and some fields without a property. -/
theorem members_listing_twice :
    let readonly : ShapeMapper.Property :=
      { name := "readonly".toList, type := "Map<string, Node[]> | 'a;b'".toList, optional := true }
    ∃ (fields : List (Field × Separator)) (last : Field),
      listing fields last =
        (" readonly readonly?: Map<string, Node[]> | 'a;b'\n,\n ;'c d': Z\n".toList ++
          "readonly readonly?: Map<string, Node[]> | 'a;b';\n".toList) ∧
      members (listing fields last) =
        .ok [.property readonly, .property { name := "c d".toList, type := ['Z'] },
          .property readonly] := by
  let readonly : Signature := {
    readonly := true
    name := .plain ⟨'r', "eadonly".toList, by decide, Text.forall_mem_of_all (by decide)⟩
    optional := true
    type := "Map<string, Node[]> | 'a;b'".toList
    isLineType := isLineType_union
    not_operator_head := by
      rintro c ⟨⟩
      decide }
  let quoted : Signature := {
    readonly := false
    name := .quoted ⟨'\'', "c d".toList, .inl rfl, Text.forall_mem_of_all (by decide)⟩
    optional := false
    type := ['Z']
    isLineType := Name.isLineType_text (n := ⟨'Z', [], rfl, List.forall_mem_nil _⟩) (by decide)
    not_operator_head := by
      rintro c ⟨⟩
      decide }
  have hspace : ∀ c ∈ [' '], Text.isBlank c = true := Text.forall_mem_of_all (by decide)
  have hnewline : ∀ c ∈ ['\n'], Text.isBlank c = true := Text.forall_mem_of_all (by decide)
  have hnil : ∀ c ∈ ([] : Text), Text.isBlank c = true := List.forall_mem_nil _
  let fields : List (Field × Separator) := [
    (⟨[' '], some readonly, ['\n'], hspace, hnewline⟩, .comma),
    (⟨['\n'], none, [' '], hnewline, hspace⟩, .semicolon),
    (⟨[], some quoted, [], hnil, hnil⟩, .newline),
    (⟨[], some readonly, [], hnil, hnil⟩, .semicolon)]
  exact ⟨fields, ⟨['\n'], none, [], hnewline, hnil⟩, rfl, members_listing fields _⟩

end ShapeMapper.Written
