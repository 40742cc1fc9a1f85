import ShapeMapper.Plan.Access
import ShapeMapper.Proofs.Declaration.Word
import ShapeMapper.Proofs.Text.Quoted
import ShapeMapper.Text.Digit

/-!
# Keys and accesses

What stands for a property in generated code. Its key is read back wherever it stands, if no
character follows that could continue it (`Access.key_append_inj`), so different properties have
different keys and accesses. A key is an identifier or a JSON string literal but for one case
(`Access.isLiteral_or_isIdentifier_iff`): an identifier with a line feed behind it is let through.
-/

namespace ShapeMapper

/-! ### Plain names -/

namespace Access

variable {name : Text} {guarded : Bool}

/-- What may be written without quotes is a name, or one with a line feed behind it. -/
theorem exists_name_of_isPlain (h : isPlain name = true) :
    ∃ n : Written.Name, name = n.text ∨ name = n.text ++ ['\n'] := by
  cases name with
  | nil => cases h
  | cons first t =>
    by_cases hstart : Text.isNameStart first = true
    · rw [isPlain, Text.name?, if_pos hstart] at h
      refine ⟨⟨first, t.takeWhile Text.isNameChar, hstart, fun c => List.mem_takeWhile_imp⟩, ?_⟩
      have hsplit : t.takeWhile Text.isNameChar ++ t.dropWhile Text.isNameChar = t :=
        List.takeWhile_append_dropWhile
      rcases by simpa only [Bool.or_eq_true, decide_eq_true_eq] using h with hrest | hrest
      · rw [hrest, List.append_nil] at hsplit
        exact .inl (congrArg (first :: ·) hsplit.symm)
      · rw [hrest] at hsplit
        exact .inr (congrArg (first :: ·) hsplit.symm)
    · rw [isPlain, Text.name?, if_neg hstart] at h
      cases h

/-- The same as a name and what stands behind it. -/
theorem exists_append_of_isPlain (h : isPlain name = true) :
    ∃ (n : Written.Name) (x : Text), (x = [] ∨ x = ['\n']) ∧ name = n.text ++ x := by
  obtain ⟨n, hname | hname⟩ := exists_name_of_isPlain h
  · exact ⟨n, [], .inl rfl, by rw [hname, List.append_nil]⟩
  · exact ⟨n, ['\n'], .inr rfl, hname⟩

theorem isPlain_text (n : Written.Name) : isPlain n.text = true := by
  have hname := n.name?_append (t := []) (by simp)
  rw [List.append_nil] at hname
  simp [isPlain, hname]

theorem isPlain_text_newline (n : Written.Name) : isPlain (n.text ++ ['\n']) = true := by
  have hname := n.name?_append (Text.not_isNameChar_head_cons (c := '\n') (by decide) [])
  simp [isPlain, hname]

/-! ### The two forms -/

theorem key_of_isPlain (h : isPlain name = true) : key name = name :=
  if_pos h

theorem key_of_not_isPlain (h : isPlain name = false) : key name = Text.Quoted.encode name :=
  if_neg (by simp [h])

theorem member_of_isPlain (h : isPlain name = true) (guarded : Bool) :
    member name guarded = (if guarded then [] else ['.']) ++ name := by
  rw [member, if_pos h]
  cases guarded <;> rfl

theorem member_of_not_isPlain (h : isPlain name = false) (guarded : Bool) :
    member name guarded = '[' :: (Text.Quoted.encode name ++ [']']) :=
  if_neg (by simp [h])

/-! ### Reading back -/

/-- Whether no character at the head of a text continues a plain name. -/
def Ends (t : Text) : Prop :=
  ∀ c ∈ t.head?, Text.isNameChar c = false ∧ c ≠ '\n'

variable {name' t u : Text}

/-- Plain names are equal if the texts from them on are. -/
theorem plain_append_inj (h : isPlain name = true) (h' : isPlain name' = true) (ht : Ends t)
    (hu : Ends u) (heq : name ++ t = name' ++ u) : name = name' ∧ t = u := by
  have hend {x v : Text} (hx : x = [] ∨ x = ['\n']) (hv : Ends v) :
      ∀ c ∈ (x ++ v).head?, Text.isNameChar c = false := by
    rcases hx with rfl | rfl
    · exact fun c hc => (hv c hc).1
    · exact Text.not_isNameChar_head_cons (by decide) v
  obtain ⟨n, x, hx, rfl⟩ := exists_append_of_isPlain h
  obtain ⟨m, y, hy, rfl⟩ := exists_append_of_isPlain h'
  rw [List.append_assoc, List.append_assoc] at heq
  obtain ⟨hname, hrest⟩ := Text.append_inj_of_isNameChar (fun _ => Written.Name.isNameChar_of_mem)
    (fun _ => Written.Name.isNameChar_of_mem) (hend hx ht) (hend hy hu) heq
  rw [hname]
  -- behind the same word both have a line feed or neither
  rcases hx with rfl | rfl <;> rcases hy with rfl | rfl
  · exact ⟨rfl, hrest⟩
  · have hrest : t = '\n' :: u := hrest
    exact absurd rfl (ht '\n' (by rw [hrest]; rfl)).2
  · have hrest : '\n' :: t = u := hrest
    exact absurd rfl (hu '\n' (by rw [← hrest]; rfl)).2
  · exact ⟨rfl, (List.cons.inj hrest).2⟩

/-- A plain name begins as a name does, so with neither a quote nor a bracket. -/
theorem isNameStart_of_isPlain (h : isPlain name = true) :
    ∃ first rest, name = first :: rest ∧ Text.isNameStart first = true := by
  obtain ⟨n, x, -, rfl⟩ := exists_append_of_isPlain h
  exact ⟨n.first, n.rest ++ x, rfl, n.isNameStart_first⟩

theorem plain_append_ne_encode_append (h : isPlain name = true) :
    name ++ t ≠ Text.Quoted.encode name' ++ u := by
  obtain ⟨first, rest, rfl, hstart⟩ := isNameStart_of_isPlain h
  intro heq
  rw [show first = '"' from (List.cons.inj heq).1] at hstart
  exact absurd hstart (by decide)

theorem dot_plain_ne_bracketed (h : isPlain name = true) (guarded : Bool) :
    (if guarded then [] else ['.']) ++ name ≠ '[' :: t := by
  obtain ⟨first, rest, rfl, hstart⟩ := isNameStart_of_isPlain h
  intro heq
  cases guarded with
  | true =>
    rw [show first = '[' from (List.cons.inj heq).1] at hstart
    exact absurd hstart (by decide)
  | false => exact absurd (List.cons.inj heq).1 (by decide)

/-- A key is read back if nothing continues it. -/
theorem key_append_inj (ht : Ends t) (hu : Ends u) (heq : key name ++ t = key name' ++ u) :
    name = name' ∧ t = u := by
  cases h : isPlain name <;> cases h' : isPlain name'
  · rw [key_of_not_isPlain h, key_of_not_isPlain h'] at heq
    exact Text.Quoted.encode_append_inj heq
  · rw [key_of_not_isPlain h, key_of_isPlain h'] at heq
    exact absurd heq.symm (plain_append_ne_encode_append h')
  · rw [key_of_isPlain h, key_of_not_isPlain h'] at heq
    exact absurd heq (plain_append_ne_encode_append h)
  · rw [key_of_isPlain h, key_of_isPlain h'] at heq
    exact plain_append_inj h h' ht hu heq

/-- A key is in quotes just if its name is not plain. -/
theorem head?_key_iff : (key name).head? = some '"' ↔ isPlain name = false := by
  cases h : isPlain name with
  | false =>
    rw [key_of_not_isPlain h]
    exact iff_of_true rfl rfl
  | true =>
    rw [key_of_isPlain h]
    obtain ⟨first, rest, rfl, hstart⟩ := isNameStart_of_isPlain h
    refine iff_of_false (fun hquote => ?_) (by decide)
    rw [show first = '"' from Option.some.inj hquote] at hstart
    exact absurd hstart (by decide)

/-- An access is in brackets just if its name is not plain. -/
theorem head?_member_iff : (member name guarded).head? = some '[' ↔ isPlain name = false := by
  cases h : isPlain name with
  | false =>
    rw [member_of_not_isPlain h]
    exact iff_of_true rfl rfl
  | true =>
    rw [member_of_isPlain h]
    refine iff_of_false (fun hbracket => ?_) (by decide)
    obtain ⟨t, ht⟩ := List.head?_eq_some_iff.1 hbracket
    exact dot_plain_ne_bracketed h guarded ht

/-- Different properties have different keys. -/
theorem key_injective : Function.Injective key := by
  intro name name' heq
  have hempty : Ends [] := by simp [Ends]
  exact (key_append_inj hempty hempty (congrArg (· ++ []) heq)).1

/-- Different properties have different accesses. -/
theorem member_injective (guarded : Bool) : Function.Injective (member · guarded) := by
  intro name name' heq
  have heq : member name guarded = member name' guarded := heq
  cases h : isPlain name <;> cases h' : isPlain name'
  · rw [member_of_not_isPlain h, member_of_not_isPlain h'] at heq
    exact (Text.Quoted.encode_append_inj (List.cons.inj heq).2).1
  · rw [member_of_not_isPlain h, member_of_isPlain h'] at heq
    exact absurd heq.symm (dot_plain_ne_bracketed h' guarded)
  · rw [member_of_isPlain h, member_of_not_isPlain h'] at heq
    exact absurd heq (dot_plain_ne_bracketed h guarded)
  · rw [member_of_isPlain h, member_of_isPlain h'] at heq
    exact List.append_cancel_left heq

/-! ### Identifiers and literals -/

/-- Letters, digits, underscores and dollar signs, with no digit in front. Every number of Unicode
is a digit here, as it is in the words of a regular expression. -/
def IsIdentifier (t : Text) : Prop :=
  t ≠ [] ∧ (∀ c ∈ t, Text.isAlphanumeric c = true ∨ c = '_' ∨ c = '$') ∧
    ∀ c ∈ t.head?, Text.isDecimalDigit c = false

/-- A JSON string literal, and nothing around it. -/
def IsLiteral (t : Text) : Prop :=
  ∃ value, Json.literal? t = some value

/-- What an access to a property should be: a literal in brackets, or an identifier with its dot. -/
def IsAccess (guarded : Bool) (t : Text) : Prop :=
  (∃ u, t = '[' :: (u ++ [']']) ∧ IsLiteral u) ∨
    ∃ u, t = (if guarded then [] else ['.']) ++ u ∧ IsIdentifier u

/-- The characters that break a line. -/
def lineBreaks : Text :=
  ['\n', '\r', '\x0b', '\x0c', '\x1c', '\x1d', '\x1e', '\u0085', '\u2028', '\u2029']

/-- A name with a line feed behind it. -/
def IsBroken (name : Text) : Prop :=
  ∃ n : Written.Name, name = n.text ++ ['\n']

theorem isLiteral_encode (t : Text) : IsLiteral (Text.Quoted.encode t) :=
  ⟨t, Json.literal?_encode t⟩

theorem head?_of_isLiteral (h : IsLiteral t) : t.head? = some '"' := by
  obtain ⟨value, h⟩ := h
  unfold Json.literal? at h
  split at h
  · rfl
  · cases h

theorem not_isDecimalDigit_of_isNameStart {c : Char} (h : Text.isNameStart c = true) :
    Text.isDecimalDigit c = false := by
  simp only [Text.isNameStart, Bool.or_eq_true, beq_iff_eq] at h
  obtain (hletter | rfl) | rfl := h
  · delta Char.isAlpha Char.isUpper Char.isLower at hletter
    simp only [Bool.or_eq_true, Bool.and_eq_true, decide_eq_true_eq] at hletter
    have hascii : c.val < 0x80 := by grind
    have hdigit : c.isDigit = false := by
      delta Char.isDigit
      simp only [Bool.and_eq_false_iff, decide_eq_false_iff_not]
      grind
    simp [Text.isDecimalDigit, Text.digitZero?, hascii, hdigit]
  · decide
  · decide

theorem isIdentifier_text (n : Written.Name) : IsIdentifier n.text := by
  refine ⟨List.cons_ne_nil _ _, fun c hc => ?_, fun c hc => ?_⟩
  · have hname := Written.Name.isNameChar_of_mem hc
    simpa only [Text.isNameChar, Text.isWordChar, Bool.or_eq_true, beq_iff_eq, or_assoc] using hname
  · obtain rfl : n.first = c := Option.some.inj hc
    exact not_isDecimalDigit_of_isNameStart n.isNameStart_first

theorem newline_notMem_of_isIdentifier (h : IsIdentifier t) : '\n' ∉ t := fun hmem =>
  absurd (h.2.1 _ hmem) (by decide)

/-- A name is an identifier, or one with a line feed, or it is quoted. -/
theorem cases_name (name : Text) :
    (∃ n : Written.Name, name = n.text) ∨ IsBroken name ∨ isPlain name = false := by
  cases h : isPlain name with
  | false => exact .inr (.inr rfl)
  | true =>
    obtain ⟨n, hname | hname⟩ := exists_name_of_isPlain h
    · exact .inl ⟨n, hname⟩
    · exact .inr (.inl ⟨n, hname⟩)

namespace IsBroken

theorem isPlain (h : IsBroken name) : isPlain name = true := by
  obtain ⟨n, rfl⟩ := h
  exact isPlain_text_newline n

theorem newline_mem (h : IsBroken name) : '\n' ∈ name := by
  obtain ⟨n, rfl⟩ := h
  simp

theorem not_isLiteral (h : IsBroken name) : ¬IsLiteral name := by
  obtain ⟨first, rest, rfl, hstart⟩ := isNameStart_of_isPlain h.isPlain
  intro hliteral
  rw [show first = '"' from Option.some.inj (head?_of_isLiteral hliteral)] at hstart
  exact absurd hstart (by decide)

theorem not_isAccess (h : IsBroken name) (guarded : Bool) :
    ¬IsAccess guarded ((if guarded then [] else ['.']) ++ name) := by
  rintro (⟨u, heq, -⟩ | ⟨u, heq, hu⟩)
  · exact dot_plain_ne_bracketed h.isPlain guarded heq
  · rw [← List.append_cancel_left heq] at hu
    exact newline_notMem_of_isIdentifier hu h.newline_mem

end IsBroken

theorem isLiteral_or_isIdentifier_key (h : ¬IsBroken name) :
    IsLiteral (key name) ∨ IsIdentifier (key name) := by
  obtain ⟨n, rfl⟩ | hbroken | hplain := cases_name name
  · rw [key_of_isPlain (isPlain_text n)]
    exact .inr (isIdentifier_text n)
  · exact absurd hbroken h
  · rw [key_of_not_isPlain hplain]
    exact .inl (isLiteral_encode name)

theorem isAccess_member (h : ¬IsBroken name) (guarded : Bool) :
    IsAccess guarded (member name guarded) := by
  obtain ⟨n, rfl⟩ | hbroken | hplain := cases_name name
  · rw [member_of_isPlain (isPlain_text n)]
    exact .inr ⟨n.text, rfl, isIdentifier_text n⟩
  · exact absurd hbroken h
  · rw [member_of_not_isPlain hplain]
    exact .inl ⟨_, rfl, isLiteral_encode name⟩

theorem not_isPrintable_of_mem_lineBreaks {c : Char} (h : c ∈ lineBreaks) :
    Text.isNameChar c = false ∧ ¬Text.IsPrintable c := by
  have hbreaks : ∀ c ∈ lineBreaks, Text.isBlank c = true ∧ ¬Text.IsPrintable c :=
    Text.forall_mem_of_all (by decide)
  exact ⟨Text.not_isNameChar_of_isBlank (hbreaks c h).1, (hbreaks c h).2⟩

/-- What is written for a name is made of name characters and printable ones. -/
theorem notMem_lineBreaks (h : ¬IsBroken name) :
    (∀ c ∈ key name, c ∉ lineBreaks) ∧ ∀ guarded, ∀ c ∈ member name guarded, c ∉ lineBreaks := by
  have hdot : ∀ c ∈ ['.', '[', ']'], c ∉ lineBreaks := Text.forall_mem_of_all (by decide)
  obtain ⟨n, rfl⟩ | hbroken | hplain := cases_name name
  · have hname : ∀ c ∈ n.text, c ∉ lineBreaks := fun c hc hbreak =>
      Bool.noConfusion ((Written.Name.isNameChar_of_mem hc).symm.trans
        (not_isPrintable_of_mem_lineBreaks hbreak).1)
    rw [key_of_isPlain (isPlain_text n)]
    refine ⟨hname, fun guarded => ?_⟩
    rw [member_of_isPlain (isPlain_text n)]
    refine List.forall_mem_append.2 ⟨?_, hname⟩
    cases guarded with
    | true => exact List.forall_mem_nil _
    | false => exact List.forall_mem_singleton.2 (hdot '.' (by decide))
  · exact absurd hbroken h
  · have hencode : ∀ c ∈ Text.Quoted.encode name, c ∉ lineBreaks := fun c hc hbreak =>
      (not_isPrintable_of_mem_lineBreaks hbreak).2 (Text.Quoted.isPrintable_of_mem_encode _ c hc)
    rw [key_of_not_isPlain hplain]
    refine ⟨hencode, fun guarded => ?_⟩
    rw [member_of_not_isPlain hplain]
    exact List.forall_mem_cons.2 ⟨hdot '[' (by decide),
      List.forall_mem_append.2 ⟨hencode, List.forall_mem_singleton.2 (hdot ']' (by decide))⟩⟩

/-- A key is a literal or an identifier and an access is made of one of them, and no line is broken
in either, but for the identifiers with a line feed behind them, which are written as they are. -/
theorem isLiteral_or_isIdentifier_iff (name : Text) :
    (IsLiteral (key name) ∨ IsIdentifier (key name) ↔ ¬IsBroken name) ∧
    (∀ guarded, IsAccess guarded (member name guarded) ↔ ¬IsBroken name) ∧
    ((∀ c ∈ key name, c ∉ lineBreaks) ↔ ¬IsBroken name) ∧
    (∀ guarded, (∀ c ∈ member name guarded, c ∉ lineBreaks) ↔ ¬IsBroken name) ∧
    (IsBroken name → key name = name ∧
      ∀ guarded, member name guarded = (if guarded then [] else ['.']) ++ name) := by
  have hbroken (h : IsBroken name) : key name = name ∧
      ∀ guarded, member name guarded = (if guarded then [] else ['.']) ++ name :=
    ⟨key_of_isPlain h.isPlain, member_of_isPlain h.isPlain⟩
  have hbreak : '\n' ∈ lineBreaks := List.mem_cons_self
  refine ⟨⟨fun hkey h => ?_, isLiteral_or_isIdentifier_key⟩,
    fun guarded => ⟨fun hmember h => ?_, (isAccess_member · guarded)⟩,
    ⟨fun hkey h => ?_, fun h => (notMem_lineBreaks h).1⟩,
    fun guarded => ⟨fun hmember h => ?_, fun h => (notMem_lineBreaks h).2 guarded⟩, hbroken⟩
  · rw [(hbroken h).1] at hkey
    rcases hkey with hkey | hkey
    · exact h.not_isLiteral hkey
    · exact newline_notMem_of_isIdentifier hkey h.newline_mem
  · rw [(hbroken h).2] at hmember
    exact h.not_isAccess guarded hmember
  · rw [(hbroken h).1] at hkey
    exact hkey '\n' h.newline_mem hbreak
  · rw [(hbroken h).2] at hmember
    exact hmember '\n' (List.mem_append_right _ h.newline_mem) hbreak

/-- The key of such a name. -/
theorem not_isLiteral_or_isIdentifier_newline :
    key "a\n".toList = "a\n".toList ∧
      ¬(IsLiteral (key "a\n".toList) ∨ IsIdentifier (key "a\n".toList)) := by
  have hkey : key "a\n".toList = "a\n".toList := by decide
  refine ⟨hkey, ?_⟩
  rw [hkey]
  rintro (⟨value, hvalue⟩ | hidentifier)
  · cases hvalue
  · exact newline_notMem_of_isIdentifier hidentifier (by decide)

end Access

end ShapeMapper
