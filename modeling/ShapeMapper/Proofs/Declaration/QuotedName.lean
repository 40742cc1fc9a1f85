import ShapeMapper.Proofs.Declaration.Word
import ShapeMapper.Proofs.Plan.Access

/-!
# Property names in quotes

A property may be declared by a string literal, which stands for a string of UTF-16 units by its
escapes (`Declaration.Denotes`). Its name is what stands between the quotes as it is written, up to
the first quote, and its key stands for that name (`Access.value?_key`). So the key stands for what
the literal stands for just if there is no backslash in it (`Declaration.units_value?_key_iff`): an
escape is longer than what it stands for, and at one of the quote itself the name ends too early.
-/

namespace ShapeMapper

/-! ### Units -/

namespace Text

/-- The UTF-16 units of a code point. -/
def codeUnits (n : Nat) : List Nat :=
  if n < 0x10000 then [n] else [0xD800 + (n - 0x10000) / 0x400, 0xDC00 + (n - 0x10000) % 0x400]

/-- The UTF-16 units of a text. -/
def units (t : Text) : List Nat :=
  t.flatMap fun c => codeUnits c.toNat

variable {c : Char} {t u : Text} {n : Nat}

theorem length_codeUnits (n : Nat) : 1 ≤ (codeUnits n).length ∧ (codeUnits n).length ≤ 2 := by
  unfold codeUnits
  split_ifs <;> simp

theorem units_cons (c : Char) (t : Text) : units (c :: t) = codeUnits c.toNat ++ units t := rfl

theorem units_append (t u : Text) : units (t ++ u) = units t ++ units u :=
  List.flatMap_append

theorem length_le_length_units (t : Text) : t.length ≤ (units t).length := by
  induction t with
  | nil => exact Nat.le_refl 0
  | cons c t ih =>
    have hunits := length_codeUnits c.toNat
    rw [units_cons, List.length_append, List.length_cons]
    omega

/-- A character below the surrogates is a unit only of a text that it is in. -/
theorem toNat_notMem_units (hc : c.toNat < 0xD800) (h : c ∉ t) : c.toNat ∉ units t := by
  intro hmem
  obtain ⟨d, hd, hunit⟩ := List.mem_flatMap.1 hmem
  unfold codeUnits at hunit
  split_ifs at hunit with hlow
  · rw [List.mem_singleton, Char.toNat_inj] at hunit
    exact h (hunit ▸ hd)
  · simp only [List.mem_cons, List.not_mem_nil, or_false] at hunit
    omega

theorem exists_hexDigit?_of_hexNumber? (h : hexNumber? t = some n) :
    ∀ c ∈ t, ∃ d, hexDigit? c = some d := by
  have hfold {t : Text} {m n : Nat}
      (h : t.foldlM (fun n c => (hexDigit? c).map (16 * n + ·)) m = some n) :
      ∀ c ∈ t, ∃ d, hexDigit? c = some d := by
    induction t generalizing m with
    | nil => exact List.forall_mem_nil _
    | cons c t ih =>
      rw [List.foldlM_cons] at h
      obtain ⟨k, hk, hrest⟩ := Option.bind_eq_some_iff.1 h
      obtain ⟨d, hd, -⟩ := Option.map_eq_some_iff.1 hk
      exact List.forall_mem_cons.2 ⟨⟨d, hd⟩, ih hrest⟩
  exact hfold h

end Text

/-! ### Keys -/

namespace Access

/-- The string that a key stands for: an identifier for itself, and a JSON string literal for its
value. -/
def value? (key : Text) : Option Text :=
  match Text.name? key with
  | some (name, []) => some name
  | _ => Json.literal? key

variable {name : Text}

theorem name?_encode (t : Text) : Text.name? (Text.Quoted.encode t) = none := by
  rw [Text.Quoted.encode, List.cons_append, Text.name?, if_neg (by decide)]

/-- A key is read as the name that it was written for. -/
theorem value?_key (h : ¬IsBroken name) : value? (key name) = some name := by
  obtain ⟨n, rfl⟩ | hbroken | hplain := cases_name name
  · have hname := n.name?_append (t := []) (by simp)
    rw [List.append_nil] at hname
    rw [key_of_isPlain (isPlain_text n), value?, hname]
  · exact absurd hbroken h
  · rw [key_of_not_isPlain hplain, value?, name?_encode]
    exact Json.literal?_encode name

/-- No key is read as an identifier with a line feed behind it. -/
theorem value?_key_of_isBroken (h : IsBroken name) : value? (key name) = none := by
  obtain ⟨n, rfl⟩ := h
  have hname := n.name?_append (Text.not_isNameChar_head_cons (c := '\n') (by decide) [])
  rw [key_of_isPlain (isPlain_text_newline n), value?, hname]
  rw [← Option.not_isSome_iff_eq_none, Option.isSome_iff_exists]
  exact IsBroken.not_isLiteral ⟨n, rfl⟩

end Access

/-! ### String literals -/

namespace Declaration

/-- The letters that stand for a control character after a backslash, with its code. -/
def controlLetters : List (Char × Nat) :=
  [('b', 0x08), ('t', 0x09), ('n', 0x0A), ('v', 0x0B), ('f', 0x0C), ('r', 0x0D)]

/-- What ends a line in a source text. -/
def lineEnds : List Text :=
  [['\n'], ['\r', '\n'], ['\r'], ['\u2028'], ['\u2029']]

/-- The characters that do not stand for themselves after a backslash. -/
def escapeLetters : Text :=
  controlLetters.map Prod.fst ++ ['x', 'u'] ++ "0123456789".toList ++ lineEnds.flatten

/-- An escape without its backslash, and the units that it stands for. The end of a line stands for
none. -/
inductive Escape : Text → List Nat → Prop
  | control {c : Char} {n : Nat} (h : (c, n) ∈ controlLetters) : Escape [c] [n]
  | self {c : Char} (h : c ∉ escapeLetters) : Escape [c] (Text.codeUnits c.toNat)
  | byte {a b : Char} {n : Nat} (h : Text.hexNumber? [a, b] = some n) : Escape ['x', a, b] [n]
  | unit {a b c d : Char} {n : Nat} (h : Text.hexNumber? [a, b, c, d] = some n) :
      Escape ['u', a, b, c, d] [n]
  | codePoint {digits : Text} {n : Nat} (hdigits : digits ≠ [])
      (h : Text.hexNumber? digits = some n) (hn : n ≤ 0x10FFFF) :
      Escape ('u' :: '{' :: (digits ++ ['}'])) (Text.codeUnits n)
  | lineEnd {t : Text} (h : t ∈ lineEnds) : Escape t []

/-- A string literal after its opening quote, up to the closing one, and the units that it stands
for. -/
inductive Denotes (quote : Char) : Text → List Nat → Prop
  | close : Denotes quote [quote] []
  | char {c : Char} {t : Text} {u : List Nat} (hquote : c ≠ quote) (hescape : c ≠ '\\')
      (hline : c ≠ '\n' ∧ c ≠ '\r') (h : Denotes quote t u) :
      Denotes quote (c :: t) (Text.codeUnits c.toNat ++ u)
  | escape {e t : Text} {n u : List Nat} (he : Escape e n) (h : Denotes quote t u) :
      Denotes quote ('\\' :: (e ++ t)) (n ++ u)
  | zero {t : Text} {u : List Nat} (ht : ∀ c ∈ t.head?, c.isDigit = false)
      (h : Denotes quote t u) : Denotes quote ('\\' :: '0' :: t) (0 :: u)

variable {e t : Text} {n u : List Nat} {quote : Char}

/-- An escape without its backslash is as long as what it stands for. -/
theorem Escape.length_le (h : Escape e n) : n.length ≤ (Text.units e).length := by
  have hlength := Text.length_le_length_units e
  cases h with
  | control h => exact hlength
  | self h => rw [Text.units, List.flatMap_singleton]
  | byte h => exact Nat.le_trans (by simp) hlength
  | unit h => exact Nat.le_trans (by simp) hlength
  | codePoint hdigits h hn => exact ((Text.length_codeUnits _).2.trans (by simp)).trans hlength
  | lineEnd h => exact Nat.zero_le _

/-- A quote that is escaped stands for itself. -/
theorem Escape.notMem_or_eq (hquote : quote = '\'' ∨ quote = '"') (h : Escape e n) :
    quote ∉ e ∨ n = [quote.toNat] := by
  have hcontrol : ∀ pair ∈ controlLetters, quote ≠ pair.1 := by
    rcases hquote with rfl | rfl <;> decide
  have hlines : ∀ t ∈ lineEnds, quote ∉ t := by rcases hquote with rfl | rfl <;> decide
  have hmarks : ∀ c ∈ ['x', 'u', '{', '}'], quote ≠ c := by
    rcases hquote with rfl | rfl <;> exact Text.forall_mem_of_all (by decide)
  have hdigits {t : Text} {m : Nat} (ht : Text.hexNumber? t = some m) : quote ∉ t := by
    intro hmem
    obtain ⟨d, hd⟩ := Text.exists_hexDigit?_of_hexNumber? ht quote hmem
    rcases hquote with rfl | rfl <;> cases hd
  simp only [List.forall_mem_cons] at hmarks
  obtain ⟨hx, hu, hopen, hclose, -⟩ := hmarks
  cases h with
  | control h => exact .inl (by simpa using hcontrol _ h)
  | @self c h =>
    by_cases hc : c = quote
    · right
      rw [hc]
      rcases hquote with rfl | rfl <;> rfl
    · exact .inl (by simpa using Ne.symm hc)
  | byte h => exact .inl (List.not_mem_cons_of_ne_of_not_mem hx (hdigits h))
  | unit h => exact .inl (List.not_mem_cons_of_ne_of_not_mem hu (hdigits h))
  | codePoint hne h hn =>
    have htail := hdigits h
    exact .inl (by simp [hu, hopen, hclose, htail])
  | lineEnd h => exact .inl (hlines _ h)

/-- A literal is longer than what it stands for, and all the more if there is an escape in it. -/
theorem Denotes.length_lt (hquote : quote ≠ '\\') (h : Denotes quote t u) :
    u.length + 1 ≤ (Text.units t).length ∧
      ('\\' ∈ t → u.length + 2 ≤ (Text.units t).length) := by
  induction h with
  | close =>
    refine ⟨(Text.length_codeUnits quote.toNat).1.trans (by simp [Text.units]), fun hmem => ?_⟩
    exact absurd (List.mem_singleton.1 hmem).symm hquote
  | char _ hescape _ _ ih =>
    obtain ⟨hlength, hmore⟩ := ih
    simp only [Text.units_cons, List.length_append, List.mem_cons, Ne.symm hescape, false_or]
    exact ⟨by omega, fun hmem => by have := hmore hmem; omega⟩
  | @escape e t n u he _ ih =>
    have hshort := he.length_le
    have hlength : u.length + n.length + 2 ≤ (Text.units ('\\' :: (e ++ t))).length := by
      rw [Text.units_cons, Text.units_append, List.length_append, List.length_append,
        show (Text.codeUnits '\\'.toNat).length = 1 from rfl]
      omega
    rw [List.length_append]
    exact ⟨by omega, fun _ => by omega⟩
  | @zero t u _ _ ih =>
    have hlength : u.length + 3 ≤ (Text.units ('\\' :: '0' :: t)).length := by
      rw [Text.units_cons, Text.units_cons, List.length_append, List.length_append,
        show (Text.codeUnits '\\'.toNat).length = 1 from rfl,
        show (Text.codeUnits '0'.toNat).length = 1 from rfl]
      omega
    rw [List.length_cons]
    exact ⟨by omega, fun _ => by omega⟩

/-- Up to the first quote a literal is all but its last character, or that quote is among what it
stands for. -/
theorem Denotes.takeWhile_append_or_mem (hquote : quote = '\'' ∨ quote = '"')
    (h : Denotes quote t u) :
    t.takeWhile (· ≠ quote) ++ [quote] = t ∨ quote.toNat ∈ u := by
  have hback : '\\' ≠ quote := by rcases hquote with rfl | rfl <;> decide
  induction h with
  | close => exact .inl (by simp)
  | char hc _ _ _ ih =>
    refine ih.imp (fun hrest => ?_) (List.mem_append_right _)
    rw [List.takeWhile_cons_of_pos (by simpa using hc), List.cons_append, hrest]
  | @escape e t n u he _ ih =>
    rcases he.notMem_or_eq hquote with hnotMem | rfl
    · refine ih.imp (fun hrest => ?_) (List.mem_append_right _)
      have hall : ∀ c ∈ e, decide (c ≠ quote) = true := fun c hc =>
        decide_eq_true (ne_of_mem_of_not_mem hc hnotMem)
      rw [List.takeWhile_cons_of_pos (by simpa using hback),
        List.takeWhile_append_of_pos hall, List.cons_append, List.append_assoc, hrest]
    · exact .inr (by simp)
  | zero _ _ ih =>
    have hzero : '0' ≠ quote := by rcases hquote with rfl | rfl <;> decide
    refine ih.imp (fun hrest => ?_) (List.mem_cons_of_mem _)
    rw [List.takeWhile_cons_of_pos (by simpa using hback),
      List.takeWhile_cons_of_pos (by simpa using hzero), List.cons_append, List.cons_append, hrest]

/-- A literal without escapes stands for what is between its quotes, which is on one line. -/
theorem Denotes.eq_units (h : Denotes quote t u) (hescape : '\\' ∉ t) :
    u = Text.units (t.takeWhile (· ≠ quote)) ∧ ∀ c ∈ t.takeWhile (· ≠ quote), c ≠ '\n' := by
  induction h with
  | close => simp [Text.units]
  | char hc _ hline _ ih =>
    obtain ⟨hunits, hlines⟩ := ih fun hmem => hescape (List.mem_cons_of_mem _ hmem)
    rw [List.takeWhile_cons_of_pos (by simpa using hc), Text.units_cons, ← hunits]
    exact ⟨rfl, List.forall_mem_cons.2 ⟨hline.1, hlines⟩⟩
  | escape => exact absurd List.mem_cons_self hescape
  | zero => exact absurd List.mem_cons_self hescape

theorem Denotes.quote_mem (h : Denotes quote t u) : quote ∈ t := by
  induction h with
  | close => exact List.mem_singleton_self quote
  | char _ _ _ _ ih => exact List.mem_cons_of_mem _ ih
  | escape _ _ ih => exact List.mem_cons_of_mem _ (List.mem_append_right _ ih)
  | zero _ _ ih => exact List.mem_cons_of_mem _ (List.mem_cons_of_mem _ ih)

/-- What stands before the first quote is what the literal stands for just if there is no escape. -/
theorem Denotes.units_takeWhile_iff (hquote : quote = '\'' ∨ quote = '"') (h : Denotes quote t u) :
    Text.units (t.takeWhile (· ≠ quote)) = u ↔ '\\' ∉ t := by
  refine ⟨fun heq hescape => ?_, fun hescape => (h.eq_units hescape).1.symm⟩
  have hback : quote ≠ '\\' := by rcases hquote with rfl | rfl <;> decide
  have hlow : quote.toNat < 0xD800 := by rcases hquote with rfl | rfl <;> decide
  rcases h.takeWhile_append_or_mem hquote with hall | hmem
  · -- the literal is one unit longer than its name, and two longer than what it stands for
    have hlength := (h.length_lt hback).2 hescape
    have hone : (Text.units [quote]).length = 1 := by rcases hquote with rfl | rfl <;> rfl
    rw [← hall, Text.units_append, List.length_append, hone, heq] at hlength
    omega
  · have hnotMem : quote ∉ t.takeWhile (· ≠ quote) := fun hc => by
      simpa using List.mem_takeWhile_imp hc
    exact Text.toNat_notMem_units hlow hnotMem (heq ▸ hmem)

/-! ### Members -/

variable {name : Text} {p : Property}

theorem takeWhile_append_of_mem {c : Char} (h : c ∈ t) (rest : Text) :
    (t ++ rest).takeWhile (· ≠ c) = t.takeWhile (· ≠ c) := by
  obtain ⟨a, b, rfl, ha⟩ := List.eq_append_cons_of_mem h
  have hfirst : ∀ d ∈ a, decide (d ≠ c) = true := fun d hd =>
    decide_eq_true (ne_of_mem_of_not_mem hd ha)
  have hc : decide (c ≠ c) = false := by simp
  rw [List.append_assoc, List.cons_append, (Text.takeWhile_append_cons hfirst hc _).1,
    (Text.takeWhile_append_cons hfirst hc _).1]

theorem exists_propertyName?_of_property? (h : property? t = some p) :
    ∃ rest, propertyName? t = some (p.name, rest) := by
  obtain ⟨⟨name, rest⟩, hname, h⟩ := Option.bind_eq_some_iff.1 h
  obtain ⟨type, -, h⟩ := Option.bind_eq_some_iff.1 h
  dsimp only at h
  split at h
  · cases h
  · exact ⟨rest, by rw [hname, ← Option.some.inj h]⟩

/-- The name of a property that is declared by a literal is what stands before the first quote. -/
theorem name_of_property? (hquote : quote = '\'' ∨ quote = '"')
    (h : property? (quote :: t) = some p) : p.name = t.takeWhile (· ≠ quote) := by
  obtain ⟨rest, hname⟩ := exists_propertyName?_of_property? h
  have hread : propertyName? (quote :: t) = upToQuote? quote t := by
    rcases hquote with rfl | rfl <;> rfl
  rw [hread, upToQuote?] at hname
  split at hname
  · exact (Prod.mk.inj (Option.some.inj hname)).1.symm
  · cases hname

/-- The word `readonly` is no property's name if a literal follows it. -/
theorem property?_readonly (hquote : quote = '\'' ∨ quote = '"') {gap : Text}
    (hgap : Written.IsGap gap) : property? ("readonly".toList ++ (gap ++ quote :: t)) = none := by
  obtain ⟨c, gap, rfl⟩ := List.exists_cons_of_ne_nil hgap.1
  have hblank := Text.not_isNameChar_of_isBlank (hgap.2 c List.mem_cons_self)
  have hname : propertyName? ("readonly".toList ++ (c :: gap ++ quote :: t)) =
      some ("readonly".toList, c :: gap ++ quote :: t) :=
    Written.Name.name?_append ⟨'r', "eadonly".toList, by decide, Text.forall_mem_of_all (by decide)⟩
      (Text.not_isNameChar_head_cons hblank _)
  have hstart : Text.trimStart (c :: gap ++ quote :: t) = quote :: t := by
    rw [Text.trimStart_append hgap.2]
    exact Text.trimStart_eq_self (by rcases hquote with rfl | rfl <;> simp <;> decide)
  simp only [property?, hname, Option.bind_eq_bind, Option.bind_some, hstart]
  rcases hquote with rfl | rfl <;> rfl

/-- So is the name of a member that is read as a property, with the word `readonly` in front of it
or without. -/
theorem name_of_ofText (hquote : quote = '\'' ∨ quote = '"') {readonly : Text}
    (hreadonly : readonly = [] ∨ ∃ gap, Written.IsGap gap ∧ readonly = "readonly".toList ++ gap)
    (h : Member.ofText (readonly ++ quote :: t) = .property p) :
    p.name = t.takeWhile (· ≠ quote) := by
  have hread : ((afterWord? "readonly".toList (readonly ++ quote :: t)).bind property?).or
      (property? (readonly ++ quote :: t)) = property? (quote :: t) := by
    rcases hreadonly with rfl | ⟨gap, hgap, rfl⟩
    · have hword : afterWord? "readonly".toList (quote :: t) = none :=
        afterWord?_cons_of_ne (by rcases hquote with rfl | rfl <;> decide) "eadonly".toList t
      rw [List.nil_append, hword]
      rfl
    · have hblank : ∀ c ∈ (quote :: t).head?, Text.isBlank c = false := by
        rcases hquote with rfl | rfl <;> simp <;> decide
      rw [List.append_assoc, afterWord?_gap "readonly".toList hgap hblank,
        property?_readonly hquote hgap, Option.or_none]
      rfl
  rw [Member.ofText, hread] at h
  split at h
  · next found hfound =>
    cases h
    exact name_of_property? hquote hfound
  · cases h

/-- If a member that a literal names is read as a property, then the key of that property stands for
what the literal stands for just if there is no backslash in the literal. -/
theorem units_value?_key_iff {body readonly literal rest : Text} {found : List Member}
    (hbody : members body = .ok found)
    (hmember : readonly ++ quote :: (literal ++ rest) ∈
      splitMembers (Source.Cut.ofText body).pieces)
    (hquote : quote = '\'' ∨ quote = '"')
    (hreadonly : readonly = [] ∨ ∃ gap, Written.IsGap gap ∧ readonly = "readonly".toList ++ gap)
    (hliteral : Denotes quote literal u)
    (hproperty : Member.ofText (readonly ++ quote :: (literal ++ rest)) = .property p) :
    .property p ∈ found ∧
      ((Access.value? (Access.key p.name)).map Text.units = some u ↔ '\\' ∉ literal) := by
  have hfound : .property p ∈ found := by
    rw [members] at hbody
    split at hbody
    · cases hbody
      exact hproperty ▸ List.mem_map_of_mem hmember
    · cases hbody
  have hname : p.name = literal.takeWhile (· ≠ quote) :=
    (name_of_ofText hquote hreadonly hproperty).trans
      (takeWhile_append_of_mem hliteral.quote_mem rest)
  refine ⟨hfound, ?_⟩
  by_cases hbroken : Access.IsBroken p.name
  · rw [Access.value?_key_of_isBroken hbroken]
    refine iff_of_false (by simp) fun hescape => ?_
    -- a line feed in a literal is part of an escape
    exact (hliteral.eq_units hescape).2 '\n' (hname ▸ hbroken.newline_mem) rfl
  · rw [Access.value?_key hbroken, Option.map_some, Option.some_inj, hname]
    exact hliteral.units_takeWhile_iff hquote

/-- A literal without escapes. -/
theorem units_value?_key_iff_space :
    let p : Property := { name := "a b".toList, type := "string".toList, optional := true }
    members "readonly 'a b'?: string".toList = .ok [.property p] ∧
      (Access.value? (Access.key p.name)).map Text.units = some (Text.units "a b".toList) := by
  intro p
  have hliteral : Denotes '\'' "a b'".toList (Text.units "a b".toList) :=
    .char (by decide) (by decide) (by decide) <| .char (by decide) (by decide) (by decide) <|
      .char (by decide) (by decide) (by decide) .close
  have hread : members "readonly 'a b'?: string".toList = .ok [.property p] := by decide +kernel
  have hmember : "readonly ".toList ++ '\'' :: ("a b'".toList ++ "?: string".toList) ∈
      splitMembers (Source.Cut.ofText "readonly 'a b'?: string".toList).pieces := by decide +kernel
  have hgap : Written.IsGap [' '] := ⟨by decide, Text.isBlank_of_mem_space⟩
  obtain ⟨-, hvalue⟩ := units_value?_key_iff hread hmember (.inl rfl)
    (.inr ⟨[' '], hgap, by decide⟩) hliteral (p := p) (by decide +kernel)
  exact ⟨hread, hvalue.2 (by decide)⟩

/-- A letter that is written by its code. -/
theorem units_value?_key_ne_code :
    let body := "'\\u0061': string".toList
    let p : Property := { name := "\\u0061".toList, type := "string".toList, optional := false }
    Denotes '\'' "\\u0061'".toList (Text.units ['a']) ∧ members body = .ok [.property p] ∧
      (Access.value? (Access.key p.name)).map Text.units ≠ some (Text.units ['a']) := by
  intro body p
  refine ⟨.escape (e := ['u', '0', '0', '6', '1']) (n := [0x61]) (.unit (by decide)) .close,
    by decide +kernel, by decide +kernel⟩

end Declaration

end ShapeMapper
