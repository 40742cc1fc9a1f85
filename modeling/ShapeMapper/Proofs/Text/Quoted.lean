import ShapeMapper.Json.Parser
import ShapeMapper.Proofs.Text.Name
import ShapeMapper.Text.Quoted

/-!
# Quoted texts are read back

The quoted form of a text is printable ASCII throughout (`Quoted.isPrintable_of_mem_encode`), and
it is a JSON string literal of that text: the reader of JSON strings takes it up to its closing
quote, whatever follows (`Json.string_encode`), short escapes, UTF-16 units and surrogate pairs
included. So no longer text hides where it ends (`Quoted.encode_append_inj`).
-/

namespace ShapeMapper

namespace Text

/-- Whether a character is a printable one of ASCII: no control character, and none beyond. -/
def IsPrintable (c : Char) : Prop :=
  0x20 ≤ c.toNat ∧ c.toNat < 0x7F

instance : DecidablePred IsPrintable := fun c =>
  inferInstanceAs (Decidable (0x20 ≤ c.toNat ∧ c.toNat < 0x7F))

namespace Quoted

variable {n : Nat}

/-! ### Printable characters -/

theorem isPrintable_of_mem_unit : ∀ c ∈ unit n, IsPrintable c := by
  have hdigit (m : Nat) : IsPrintable (Nat.digitChar (m % 0x10)) := by
    have hall : ∀ d < 0x10, IsPrintable (Nat.digitChar d) := by decide
    exact hall _ (Nat.mod_lt m (by decide))
  simp only [unit, hexDigits, List.map_cons, List.map_nil, List.forall_mem_cons]
  exact ⟨by decide, by decide, hdigit _, hdigit _, hdigit _, hdigit _, List.forall_mem_nil _⟩

/-- A character is written by a short escape, as it is, or by its UTF-16 units. -/
theorem escape_cases (c : Char) :
    (∃ d, escape c = ['\\', d] ∧ IsPrintable d ∧ d ≠ 'u' ∧ Json.escaped? d = some c) ∨
    (escape c = [c] ∧ IsPrintable c ∧ c ≠ '"' ∧ c ≠ '\\') ∨
    (escape c = unit c.toNat ∧ c.toNat < 0x10000) ∨
    (escape c = unit (0xD800 + (c.toNat - 0x10000) / 0x400) ++
        unit (0xDC00 + (c.toNat - 0x10000) % 0x400) ∧ 0x10000 ≤ c.toNat) := by
  by_cases hshort : c ∈ ['"', '\\', '\n', '\r', '\t', '\x08', '\x0c']
  · simp only [List.mem_cons, List.not_mem_nil, or_false] at hshort
    rcases hshort with rfl | rfl | rfl | rfl | rfl | rfl | rfl <;>
      exact .inl ⟨_, rfl, by decide, by decide, rfl⟩
  · simp only [List.mem_cons, List.not_mem_nil, or_false, not_or] at hshort
    obtain ⟨hquote, hback, hn, hr, ht, hb, hf⟩ := hshort
    simp only [escape, hquote, hback, hn, hr, ht, hb, hf, if_false]
    refine .inr ?_
    split_ifs with hprinted hunit
    · exact .inl ⟨rfl, hprinted, hquote, hback⟩
    · exact .inr (.inl ⟨rfl, hunit⟩)
    · exact .inr (.inr ⟨rfl, Nat.le_of_not_lt hunit⟩)

theorem isPrintable_of_mem_escape (c : Char) : ∀ d ∈ escape c, IsPrintable d := by
  rcases escape_cases c with ⟨d, h, hd, -⟩ | ⟨h, hc, -⟩ | ⟨h, -⟩ | ⟨h, -⟩ <;> rw [h]
  · exact List.forall_mem_cons.2 ⟨by decide, List.forall_mem_singleton.2 hd⟩
  · exact List.forall_mem_singleton.2 hc
  · exact isPrintable_of_mem_unit
  · exact List.forall_mem_append.2 ⟨isPrintable_of_mem_unit, isPrintable_of_mem_unit⟩

/-- The quoted form of a text is printable ASCII. -/
theorem isPrintable_of_mem_encode (t : Text) : ∀ c ∈ encode t, IsPrintable c := by
  have hbody : ∀ c ∈ t.flatMap escape, IsPrintable c := fun c hc => by
    obtain ⟨d, -, hd⟩ := List.mem_flatMap.1 hc
    exact isPrintable_of_mem_escape d c hd
  exact List.forall_mem_append.2
    ⟨List.forall_mem_cons.2 ⟨by decide, hbody⟩, List.forall_mem_singleton.2 (by decide)⟩

/-- A quoted text is written on one line. -/
theorem newline_notMem_encode (t : Text) : '\n' ∉ encode t := fun h =>
  absurd (isPrintable_of_mem_encode t _ h) (by decide)

theorem hexNumber?_hexDigits (h : n < 0x10000) : hexNumber? (hexDigits n) = some n := by
  have hdigit (m : Nat) : hexDigit? (Nat.digitChar (m % 0x10)) = some (m % 0x10) :=
    hexDigit?_digitChar (Nat.mod_lt m (by decide))
  simp [hexNumber?, hexDigits, hdigit]
  omega

end Quoted

end Text

/-! ### Reading -/

namespace Json

open Text.Quoted

variable {start u : Text} {high : Option Nat} {n : Nat}

/-- The escape of a UTF-16 unit is read, with something behind it. -/
theorem string_unit (hn : n < 0x10000) (hu : u ≠ []) :
    string start high (Text.Quoted.unit n ++ u) =
      if 0xD800 ≤ n ∧ n < 0xDC00 then
        (string start (some n) u).map fun (s, rest) => (flush high s, rest)
      else (string start none u).map fun (s, rest) => (Json.unit high n s, rest) := by
  obtain ⟨e, u, rfl⟩ := List.exists_cons_of_ne_nil hu
  have hdigits := hexNumber?_hexDigits hn
  simp only [hexDigits, List.map_cons, List.map_nil] at hdigits
  simp only [Text.Quoted.unit, hexDigits, List.map_cons, List.map_nil, List.cons_append,
    List.nil_append, string, hdigits]

/-- A character of at most one UTF-16 unit is read from the escape of that. -/
theorem string_unit_of_char {c : Char} (hc : c.toNat < 0x10000) (hu : u ≠ []) :
    string start none (Text.Quoted.unit c.toNat ++ u) =
      (string start none u).map fun (s, rest) => (c :: s, rest) := by
  have hvalid : c.toNat < 0xD800 ∨ 0xDFFF < c.toNat ∧ c.toNat < 0x110000 := c.valid
  have hunit (t : Text) : Json.unit none c.toNat t = c :: t := by
    rw [Json.unit, if_neg (by omega), Char.ofNat_toNat]
    rfl
  rw [string_unit hc hu, if_neg (by omega)]
  simp only [hunit]

/-- A character of two UTF-16 units is read from their escapes. -/
theorem string_units_of_char {c : Char} (hc : 0x10000 ≤ c.toNat) (hu : u ≠ []) :
    string start none (Text.Quoted.unit (0xD800 + (c.toNat - 0x10000) / 0x400) ++
        (Text.Quoted.unit (0xDC00 + (c.toNat - 0x10000) % 0x400) ++ u)) =
      (string start none u).map fun (s, rest) => (c :: s, rest) := by
  have hvalid : c.toNat < 0xD800 ∨ 0xDFFF < c.toNat ∧ c.toNat < 0x110000 := c.valid
  generalize hhigh : 0xD800 + (c.toNat - 0x10000) / 0x400 = high
  generalize hlow : 0xDC00 + (c.toNat - 0x10000) % 0x400 = low
  have hleading : 0xD800 ≤ high ∧ high < 0xDC00 := by omega
  have htrailing : 0xDC00 ≤ low ∧ low < 0xE000 := by omega
  have hcode : 0x10000 + (high - 0xD800) * 0x400 + (low - 0xDC00) = c.toNat := by omega
  have hpair (t : Text) : Json.unit (some high) low t = c :: t := by
    rw [Json.unit, if_pos htrailing]
    simp only [hcode, Char.ofNat_toNat]
  rw [string_unit (by omega) (by simp [Text.Quoted.unit]), if_pos hleading,
    string_unit (by omega) hu, if_neg (by omega)]
  cases string start none u with
  | error fault => rfl
  | ok reading =>
    obtain ⟨t, rest⟩ := reading
    simp only [Except.map, hpair]
    rfl

/-- What a character is written as is read as that character. -/
theorem string_escape (c : Char) (hu : u ≠ []) :
    string start none (escape c ++ u) =
      (string start none u).map fun (s, rest) => (c :: s, rest) := by
  rcases escape_cases c with
    ⟨d, h, -, hd, hescaped⟩ | ⟨h, hc, hquote, hback⟩ | ⟨h, hc⟩ | ⟨h, hc⟩ <;> rw [h]
  · show string start none ('\\' :: d :: u) = _
    rw [string.eq_6 start none d u (fun _ _ _ _ _ _ hu => absurd hu hd) hd, hescaped]
    rfl
  · have hspace : ¬c < ' ' := fun hlt => absurd hc.1 (Nat.not_le_of_lt hlt)
    show string start none (c :: u) = _
    rw [string.eq_7 start none c u hquote (fun hc => absurd hc hback)
      (fun _ _ _ _ _ _ hc => absurd hc hback) (fun _ hc => absurd hc hback)
      (fun _ _ hc => absurd hc hback), if_neg hspace]
    rfl
  · exact string_unit_of_char hc hu
  · rw [List.append_assoc]
    exact string_units_of_char hc hu

/-- A quoted text is read back up to its closing quote. -/
theorem string_encode (start t rest : Text) :
    string start none (t.flatMap escape ++ '"' :: rest) = .ok (t, rest) := by
  induction t with
  | nil => rfl
  | cons c t ih =>
    rw [List.flatMap_cons, List.append_assoc, string_escape c (by simp), ih]
    rfl

/-- The text that a JSON string literal stands for. -/
def literal? (t : Text) : Option Text :=
  match t with
  | '"' :: rest =>
    match string t none rest with
    | .ok (value, []) => some value
    | _ => none
  | _ => none

theorem literal?_encode (t : Text) : literal? (encode t) = some t := by
  have hread := string_encode (encode t) t []
  show (match string (encode t) none (t.flatMap escape ++ ['"']) with
    | .ok (value, []) => some value
    | _ => none) = some t
  rw [hread]

/-- A string literal is a JSON text by itself. -/
theorem parse_of_literal? {t s : Text} (h : literal? t = some s) : parse t = .ok (.text s) := by
  unfold literal? at h
  split at h
  · next rest =>
    split at h
    · next hread =>
      cases h
      have hvalue : value (2 * ('"' :: rest).length + 1) (skipSpace ('"' :: rest)) =
          .ok (.text s, []) := by
        show (string ('"' :: rest) none rest).map _ = _
        rw [hread]
        rfl
      have hmark : ('"' :: rest).head? ≠ some '\uFEFF' := by simp
      have hdocument : document ('"' :: rest) = .ok (.text s) := by
        unfold document
        rw [if_neg hmark, hvalue]
        rfl
      rw [parse, hdocument]
      rfl
    · cases h
  · cases h

end Json

/-- Two quoted texts are equal if the texts from them on are. -/
theorem Text.Quoted.encode_append_inj {t t' u u' : Text} (h : encode t ++ u = encode t' ++ u') :
    t = t' ∧ u = u' := by
  have hrest : t.flatMap escape ++ '"' :: u = t'.flatMap escape ++ '"' :: u' := by
    simpa [encode] using h
  have hread := congrArg (Json.string [] none) hrest
  rw [Json.string_encode, Json.string_encode] at hread
  exact Prod.mk.inj (Except.ok.inj hread)

end ShapeMapper
