import ShapeMapper.Proofs.Declaration.LineType
import ShapeMapper.Proofs.Plan.Access
import ShapeMapper.Proofs.Template.Bundled

/-!
# Reading the type of the custom functions

A mapper written by the bundled template takes a map of custom functions, and the type of that
map is itself the body of a declaration: read as such it gives back one property for every slot
of the plan (`Artifact.members_customMapBody`).
-/

namespace ShapeMapper

open Source Declaration

/-! ### Keys -/

/-- Whether a character is printed as it is inside double quotes. -/
def isPrinted (c : Char) : Prop :=
  0x20 ≤ c.toNat ∧ c.toNat < 0x7F ∧ c ≠ '"' ∧ c ≠ '\\'

instance : DecidablePred isPrinted := fun c =>
  inferInstanceAs (Decidable (0x20 ≤ c.toNat ∧ c.toNat < 0x7F ∧ c ≠ '"' ∧ c ≠ '\\'))

theorem isPrinted.ne_newline {c : Char} (h : isPrinted c) : c ≠ '\n' := by
  rintro rfl
  exact absurd h.1 (by decide)

theorem Text.Quoted.escape_of_isPrinted {c : Char} (h : isPrinted c) : escape c = [c] := by
  have hcontrol : ∀ d ∈ ['\n', '\r', '\t', '\x08', '\x0c'], c ≠ d := by
    intro d hd hcd
    have hcodes : ∀ d ∈ ['\n', '\r', '\t', '\x08', '\x0c'], d.toNat < 0x20 :=
      Text.forall_mem_of_all (by decide)
    have := hcodes d hd
    rw [← hcd] at this
    exact absurd h.1 (by omega)
  obtain ⟨hlow, hhigh, hquote, hescape⟩ := h
  simp only [List.mem_cons, List.not_mem_nil, or_false, forall_eq_or_imp, forall_eq] at hcontrol
  obtain ⟨hn, hr, ht, hb, hf⟩ := hcontrol
  simp only [escape, hquote, hescape, hn, hr, ht, hb, hf, if_false]
  rw [if_pos ⟨hlow, hhigh⟩]

theorem Text.Quoted.encode_of_isPrinted {t : Text} (h : ∀ c ∈ t, isPrinted c) :
    encode t = '"' :: (t ++ ['"']) := by
  have hescape : t.flatMap escape = t := by
    induction t with
    | nil => rfl
    | cons c t ih =>
      rw [List.flatMap_cons, escape_of_isPrinted (h c List.mem_cons_self),
        ih fun d hd => h d (List.mem_cons_of_mem c hd)]
      rfl
  rw [encode, hescape]
  rfl

/-- The key of a property is a written name that reads as the property's. -/
theorem Access.exists_propertyName {name : Text} (h : ∀ c ∈ name, isPrinted c) :
    ∃ n : Written.PropertyName, n.text = key name ∧ n.value = name := by
  cases hplain : isPlain name with
  | true =>
    obtain ⟨n, rfl | rfl⟩ := exists_name_of_isPlain hplain
    · exact ⟨.plain n, by rw [key, hplain, if_pos rfl]; rfl, rfl⟩
    · exact absurd rfl (h '\n' (by simp)).ne_newline
  | false =>
    refine ⟨.quoted { quote := '"', value := name, quote_eq := .inr rfl, not_end_of_mem := ?_ },
      ?_, rfl⟩
    · exact fun c hc => ⟨(h c hc).2.2.1, (h c hc).2.2.2, (h c hc).ne_newline⟩
    · rw [key, hplain, if_neg (by decide), Text.Quoted.encode_of_isPrinted h]
      rfl

/-! ### Types -/

/-- What a property's function returns is a type that stands on one line if the property's is. -/
theorem Property.isLineType_returnType {p : Property} (h : IsLineType p.type) :
    IsLineType p.returnType := by
  rw [Property.returnType]
  cases p.optional with
  | false => exact h
  | true =>
    have hname : ∀ c ∈ "ndefined".toList, Text.isNameChar c = true :=
      Text.forall_mem_of_all (by decide)
    have hne : "undefined".toList ≠ "extends".toList := by decide
    have habsent : IsLineType "undefined".toList :=
      Written.Name.isLineType_text (n := ⟨'u', "ndefined".toList, by decide, hname⟩) hne
    have hspaced := h.isSpaced.append (.of_all (t := ['|']) (by decide) (by decide)) h.ne_nil
      (by decide)
    have htype := habsent.append
      (h.bracketed.append (.of_all (t := [' ', '|']) (by decide))) hspaced (by simp)
    rwa [List.append_assoc] at htype

/-! ### Functions -/

/-- The type of a function from `source`. -/
def functionType (source type : Text) : Text :=
  "(source: ".toList ++ source ++ ") => ".toList ++ type

/-- What stands in such a type before what the function returns. -/
def functionHead (source : Text) : Text :=
  "(source:".toList ++ ' ' :: (source ++ [')']) ++ ' ' :: "=>".toList

theorem functionType_eq (source type : Text) :
    functionType source type = functionHead source ++ ' ' :: type := by
  have hopen : "(source: ".toList = "(source:".toList ++ [' '] := by decide
  have hclose : ") => ".toList = [')', ' '] ++ "=>".toList ++ [' '] := by decide
  unfold functionType functionHead
  rw [hopen, hclose]
  simp only [List.append_assoc, List.cons_append, List.nil_append]

theorem bracketed_functionHead (n : Written.Name) :
    Bracketed (fun _ => True) isWithinType (functionHead n.text) := by
  have hname : Bracketed (fun _ => True) (fun _ => True) n.text :=
    n.bracketed.weaken (fun _ _ => trivial) fun _ _ => trivial
  have hparameter : Bracketed (fun _ => True) (fun _ => True) ("source: ".toList ++ n.text) :=
    (Bracketed.of_all (by decide)).append hname
  have hparentheses : ('(', ')') ∈ brackets := by decide
  have hgroup : Bracketed (fun _ => True) isWithinType
      ('(' :: ("source: ".toList ++ n.text) ++ ')' :: " =>".toList) :=
    .group hparentheses hparameter (.char (by decide) (by decide) (.arrow .nil))
  have hhead : functionHead n.text =
      '(' :: ("source: ".toList ++ n.text) ++ ')' :: " =>".toList := by
    have hopen : "source: ".toList = "source:".toList ++ [' '] := by decide
    have hopen' : "(source:".toList = '(' :: "source:".toList := by decide
    have hclose : " =>".toList = ' ' :: "=>".toList := by decide
    unfold functionHead
    rw [hopen, hopen', hclose]
    simp only [List.append_assoc, List.cons_append, List.nil_append]
  rwa [hhead]

theorem isSpaced_functionHead (n : Written.Name) : Text.IsSpaced (functionHead n.text) := by
  have hname : ∀ c ∈ n.text ++ [')'], Text.isBlank c = false := by
    intro c hc
    rcases List.mem_append.1 hc with hc | hc
    · exact Text.not_isBlank_of_isNameChar (Written.Name.isNameChar_of_mem hc)
    · rw [List.mem_singleton.1 hc]
      decide
  have hword : Text.IsSpaced (n.text ++ [')']) := .of_word (by simp) hname
  have hparameter : Text.IsSpaced ("(source:".toList ++ ' ' :: (n.text ++ [')'])) :=
    .append (.of_all (by decide) (by decide)) hword (by decide) (by simp)
  exact hparameter.append (.of_all (by decide) (by decide)) (by simp) (by decide)

theorem isLineType_functionType (n : Written.Name) {type : Text} (h : IsLineType type) :
    IsLineType (functionType n.text type) := by
  rw [functionType_eq]
  exact h.append (bracketed_functionHead n) (isSpaced_functionHead n)
    (List.append_ne_nil_of_right_ne_nil _ (List.cons_ne_nil _ _))

/-! ### Entries -/

/-- A property whose function is declared on one line. -/
structure Property.IsListed (p : Property) : Prop where
  isPrinted_name : ∀ c ∈ p.name, isPrinted c
  isLineType_type : IsLineType p.type

/-- The declaration of a function without the spaces before it and the end of its line. -/
def Slot.entry (source : Text) (s : Slot) : Text :=
  Access.key s.name ++ (optionalMark s.optional ++ ": ".toList ++
    functionType source s.returnType)

theorem Slot.flatMap_declaration (source : Text) (slots : List Slot) :
    slots.flatMap (Slot.declaration source) = linesOf 4 (slots.map (Slot.entry source)) := by
  have hcolon : ": (source: ".toList = ": ".toList ++ "(source: ".toList := by decide
  unfold linesOf
  rw [List.flatMap_map]
  congr 1
  funext s
  unfold Slot.declaration Slot.entry functionType
  rw [hcolon]
  simp only [List.append_assoc]
  rfl

/-- The entry of a property is one line, and it is read as what the slot says. -/
theorem Property.ofText_entry {p : Property} (h : p.IsListed) (source : Option Property)
    (n : Written.Name) :
    IsLine (fun _ => True) ((Slot.of p source).entry n.text) ∧
      Member.ofText ((Slot.of p source).entry n.text) =
        .property { name := (Slot.of p source).name
                    type := functionType n.text (Slot.of p source).returnType
                    optional := (Slot.of p source).optional } := by
  obtain ⟨m, htext, hvalue⟩ := Access.exists_propertyName h.isPrinted_name
  have hreturn := isLineType_returnType h.isLineType_type
  have htype := isLineType_functionType n hreturn
  have hentry : (Slot.of p source).entry n.text =
      m.typed (Slot.of p source).optional (functionType n.text p.returnType) := by
    rw [Written.PropertyName.typed, htext]
    rfl
  rw [hentry]
  have hhead : ∀ c ∈ (functionType n.text p.returnType).head?, c = '(' := fun c hc =>
    (Option.some.inj hc).symm
  have hread := m.ofText_typed false (Slot.of p source).optional htype.ne_nil fun c hc => by
    rw [hhead c hc]
    decide
  have hkept := normalizeType_eq_self htype.isSpaced fun c hc => by
    rw [hhead c hc]
    decide
  rw [hkept, hvalue] at hread
  exact ⟨m.isLine_typed _ htype, hread⟩

/-! ### The whole type -/

/-- A mapper up to the brace that opens the type of its custom functions. -/
def Plan.customMapHead (p : Plan) : Text :=
  "\nexport const map".toList ++ p.source ++ "To".toList ++ p.target ++ " = (\n".toList ++
    "  source: ".toList ++ p.source ++ ",\n".toList ++
    "  customMap".toList ++ optionalMark p.allOptional ++ ": \x7b".toList

/-- What a mapper has between that brace and the line that closes it. -/
def Plan.customMapBody (p : Plan) : Text :=
  '\n' :: p.slots.flatMap (Slot.declaration p.source)

/-- What a mapper has after that line. -/
def Plan.customMapRest (p : Plan) : Text :=
  "): ".toList ++ p.target ++ " => (\x7b\n".toList ++ p.slots.flatMap Slot.assignment ++
    "\x7d)\n".toList

theorem Plan.text_eq (p : Plan) :
    p.text = p.customMapHead ++ p.customMapBody ++ "  \x7d,\n".toList ++ p.customMapRest := by
  have hopen : ": \x7b\n".toList = ": \x7b".toList ++ ['\n'] := by decide
  unfold Plan.text customMapHead customMapBody customMapRest
  rw [hopen]
  simp only [List.append_assoc]
  rfl

/-- The properties that the body of such a type declares. -/
def Plan.customMap (p : Plan) : List Property :=
  p.slots.map fun s =>
    { name := s.name, type := functionType p.source s.returnType, optional := s.optional }

section readBack

variable {source target : Entity} (n : Written.Name)

/-- The body has a line for every slot, and each is read as its slot says. -/
theorem Plan.exists_lines_customMapBody (hsource : source.name = n.text)
    (htarget : ∀ p ∈ target.properties, p.IsListed) :
    ∃ lines : List Text, (∀ t ∈ lines, IsLine (fun _ => True) t) ∧
      (Plan.of source target).customMapBody = '\n' :: linesOf 4 lines ∧
      lines.map Member.ofText = (Plan.of source target).customMap.map .property := by
  have hentry (p : Property) (hp : p ∈ target.properties) :=
    Property.ofText_entry (htarget p hp) (source.property? p.name) n
  refine ⟨(Plan.of source target).slots.map (Slot.entry source.name), ?_, ?_, ?_⟩
  · simp only [Plan.of, List.map_map, List.mem_map]
    rintro t ⟨p, hp, rfl⟩
    rw [hsource]
    exact (hentry p hp).1
  · rw [Plan.customMapBody, Slot.flatMap_declaration]
    rfl
  · simp only [Plan.customMap, Plan.of, List.map_map]
    refine List.map_congr_left fun p hp => ?_
    rw [hsource]
    exact (hentry p hp).2

/-- The type of the custom functions is read back: the brace that closes it stands on a line of
its own, and what stands before that line is read as one property for every slot. -/
theorem Artifact.members_customMapBody (a : Artifact) (earlier later : List Plan)
    (ha : a.mappers = earlier ++ Plan.of source target :: later) (hsource : source.name = n.text)
    (htarget : ∀ p ∈ target.properties, p.IsListed) :
    let p := Plan.of source target
    a.renderBundled =
      .ok ({ a with mappers := earlier }.text ++ (p.customMapHead ++ p.customMapBody ++
        "  \x7d,\n".toList ++ p.customMapRest) ++ later.flatMap Plan.text) ∧
    (∀ after, enclosed (p.customMapBody ++ "  \x7d,\n".toList ++ after) =
      .ok (p.customMapBody ++ "  ".toList, ",\n".toList ++ after)) ∧
    members p.customMapBody = .ok (p.customMap.map .property) := by
  intro p
  obtain ⟨lines, hlines, hbody, hread⟩ := Plan.exists_lines_customMapBody n hsource htarget
  refine ⟨?_, fun after => ?_, ?_⟩
  · rw [a.renderBundled_eq, Artifact.text, Artifact.text, ha, List.flatMap_append,
      List.flatMap_cons, Plan.text_eq]
    simp only [List.append_assoc]
    rfl
  · have hbracketed : Bracketed (fun _ => True) (fun _ => True)
        (p.customMapBody ++ [' ', ' ']) := by
      rw [hbody]
      exact .append (.char (by decide) trivial (bracketed_linesOf hlines)) (.of_all (by decide))
    have henclosed := hbracketed.enclosed_append (",\n".toList ++ after)
    have hclosing : "  \x7d,\n".toList = [' ', ' '] ++ '\x7d' :: ",\n".toList := by decide
    rw [hclosing]
    simp only [List.append_assoc, List.cons_append] at henclosed ⊢
    exact henclosed
  · rw [hbody, members_lines hlines, hread]

end readBack

/-- A shape with a quoted name, a type that may be left out, and a function among its types. -/
theorem Artifact.members_customMapBody_person :
    let p := Plan.of { name := "Row".toList }
      { name := "Person".toList
        properties := [⟨"first name".toList, "Map<string, Node[]> | 'a;b'".toList, true⟩,
          ⟨"id".toList, "Map<string, Node[]> | 'a;b'".toList, false⟩] }
    ({ mappers := [p] } : Artifact).renderBundled =
      .ok (({} : Artifact).text ++ (p.customMapHead ++ p.customMapBody ++ "  \x7d,\n".toList ++
        p.customMapRest) ++ ([] : List Plan).flatMap Plan.text) ∧
    (∀ after, enclosed (p.customMapBody ++ "  \x7d,\n".toList ++ after) =
      .ok (p.customMapBody ++ "  ".toList, ",\n".toList ++ after)) ∧
    members p.customMapBody = .ok (p.customMap.map .property) :=
  Artifact.members_customMapBody ⟨'R', "ow".toList, by decide, Text.forall_mem_of_all (by decide)⟩
    { mappers := [_] } [] [] rfl rfl <| by
      simp only [List.forall_mem_cons]
      exact ⟨⟨Text.forall_mem_of_all (by decide), Written.isLineType_union⟩,
        ⟨Text.forall_mem_of_all (by decide), Written.isLineType_union⟩, by simp⟩

end ShapeMapper
