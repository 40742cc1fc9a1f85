import ShapeMapper.Proofs.Declaration.Statement

/-!
# Scanning a written file

What one character, one literal or one statement does to a scan, and from that what each item
of a written file does: `Item.scan_append`. So a scan finds the items one by one
(`scan_print`).
-/

namespace ShapeMapper

namespace Declaration

open Source

variable {file before t u : Text} {depth : Nat} {c : Char}

/-! ### Single steps -/

/-- A scan that has found one more item, if any. -/
def Scan.after (item : Option Item) (s : Scan) : Scan :=
  { s with items := item.toList ++ s.items }

theorem Scan.after_none (s : Scan) : s.after none = s := rfl

theorem scan_of_step {s : Step} (h : step file before depth c t = .ok s) :
    scan file before depth (c :: t) =
      (scan file ((t.take s.further).reverse ++ c :: before) s.depth (t.drop s.further)).after
        s.item := by
  rw [scan, h]
  rfl

/-- A character that a scan looks at only to find a statement. -/
structure IsOrdinary (c : Char) : Prop where
  isQuote_eq : isQuote c = false
  ne_slash : c ≠ '/'
  ne_open : c ≠ '{'
  ne_close : c ≠ '}'

instance : DecidablePred IsOrdinary := fun c =>
  decidable_of_iff (isQuote c = false ∧ c ≠ '/' ∧ c ≠ '{' ∧ c ≠ '}')
    ⟨fun ⟨hquote, hslash, hopen, hclose⟩ => ⟨hquote, hslash, hopen, hclose⟩,
      fun h => ⟨h.isQuote_eq, h.ne_slash, h.ne_open, h.ne_close⟩⟩

theorem isOrdinary_of_isNameChar (h : Text.isNameChar c = true) : IsOrdinary c where
  isQuote_eq := (isPlain_of_isNameChar h).isQuote_eq
  ne_slash := ne_of_isNameChar h (by decide)
  ne_open := ne_of_isNameChar h (by decide)
  ne_close := ne_of_isNameChar h (by decide)

theorem step_of_isOrdinary (hc : IsOrdinary c) (file before : Text) (depth : Nat) (t : Text) :
    step file before depth c t =
      if depth = 0 ∧ !(before.head?.any Text.isNameChar) then do
        match ← statement? file (c :: t) with
        | some (item, rest) => return { item, further := t.length - rest.length, depth }
        | none => return { depth }
      else .ok { depth } := by
  unfold step
  refine (if_neg (by simp [hc.isQuote_eq])).trans ?_
  refine (if_neg hc.ne_slash).trans ?_
  refine (if_neg hc.ne_open).trans ?_
  refine (if_neg hc.ne_close).trans ?_
  rfl

/-- A character is passed over if no statement begins with it. -/
theorem scan_char (hc : IsOrdinary c) (h : depth ≠ 0 ∨ before.head?.any Text.isNameChar = true ∨
    statement? file (c :: t) = .ok none) :
    scan file before depth (c :: t) = scan file (c :: before) depth t := by
  have hstep : step file before depth c t = .ok { depth } := by
    rw [step_of_isOrdinary hc]
    rcases h with h | h | h
    · rw [if_neg fun hzero => h hzero.1]
    · rw [if_neg fun hbefore => by simp [h] at hbefore]
    · rw [h]
      split <;> rfl
  rw [scan_of_step hstep]
  rfl

theorem scan_open : scan file before depth ('{' :: t) =
    scan file ('{' :: before) (depth + 1) t := by
  rw [scan_of_step (s := { depth := depth + 1 }) rfl]
  rfl

theorem scan_close : scan file before depth ('}' :: t) =
    scan file ('}' :: before) (depth - 1) t := by
  rw [scan_of_step (s := { depth := depth - 1 }) rfl]
  rfl

theorem scan_literal (l : Literal) :
    scan file before depth (l.text ++ t) = scan file (l.text.reverse ++ before) depth t := by
  have hstep : step file before depth l.quote (l.rest ++ t) =
      .ok { further := l.rest.length, depth } := by
    rw [step, if_pos l.isQuote_quote, closeString?_append l.isQuote_quote l.closed]
  rw [Literal.text, List.cons_append, scan_of_step hstep]
  simp [Scan.after_none]

/-- A statement is found where no name goes on. -/
theorem scan_statement {item : Option Item} (ht : ∃ c r, t = c :: r ∧ IsOrdinary c)
    (hbefore : before.head?.any Text.isNameChar = false)
    (h : statement? file (t ++ u) = .ok (some (item, u))) :
    scan file before 0 (t ++ u) = (scan file (t.reverse ++ before) 0 u).after item := by
  obtain ⟨c, r, rfl, hc⟩ := ht
  rw [List.cons_append] at h
  have hstep : step file before 0 c (r ++ u) = .ok { item, further := r.length, depth := 0 } := by
    rw [step_of_isOrdinary hc, if_pos ⟨rfl, by rw [hbefore]; rfl⟩, h]
    simp [bind, Except.bind, pure, Except.pure]
  rw [List.cons_append, scan_of_step hstep]
  simp

/-- A character that no statement begins with is passed over. -/
theorem scan_mark (hc : IsOrdinary c) (hhead : c ∉ ['i', 'e', 'd', 't']) :
    scan file before depth (c :: t) = scan file (c :: before) depth t :=
  scan_char hc (.inr (.inr (Written.statement?_of_head hhead file t)))

/-! ### Runs of characters -/

/-- A word that begins no statement is passed over. -/
theorem scan_word (hc : Text.isNameChar c = true) (ht : ∀ d ∈ t, Text.isNameChar d = true)
    (h : statement? file (c :: (t ++ u)) = .ok none) :
    scan file before 0 (c :: (t ++ u)) = scan file (t.reverse ++ c :: before) 0 u := by
  rw [scan_char (isOrdinary_of_isNameChar hc) (.inr (.inr h))]
  -- the other characters of the word stand behind one of a name, where no statement begins
  clear h
  induction t generalizing c before with
  | nil => rfl
  | cons d t ih =>
    have hd := ht d List.mem_cons_self
    rw [List.cons_append, scan_char (isOrdinary_of_isNameChar hd) (.inr (.inl (by simpa using hc))),
      ih hd fun e he => ht e (List.mem_cons_of_mem d he)]
    simp

/-- Inside braces no statement is found. -/
theorem scan_inner (hdepth : depth ≠ 0) (ht : ∀ d ∈ t, IsOrdinary d) :
    scan file before depth (t ++ u) = scan file (t.reverse ++ before) depth u := by
  induction t generalizing before with
  | nil => rfl
  | cons d t ih =>
    rw [List.cons_append, scan_char (ht d List.mem_cons_self) (.inl hdepth),
      ih fun e he => ht e (List.mem_cons_of_mem d he)]
    simp

end Declaration

namespace Written

open Source Declaration

variable {file before : Text}

/-! ### Items -/

/-- What a scan finds at an item. -/
def Item.found (file : Text) : Item → Option Declaration.Item
  | imported i => some (.imported (i.declared file))
  | shape s => some (.entity s.entity [])
  | union _ | exports _ => none

theorem Item.exists_head (item : Item) :
    ∃ c t, item.text = c :: t ∧ c ∈ ['i', 'e', 'd', 't'] := by
  cases item with
  | imported i => exact ⟨'i', _, rfl, by decide⟩
  | shape s =>
    obtain ⟨modifier, ambient, form, name, properties, indent⟩ := s
    cases modifier <;> cases ambient <;> cases form <;> exact ⟨_, _, rfl, by decide⟩
  | union u =>
    obtain ⟨exported, name, first, others⟩ := u
    cases exported <;> exact ⟨_, _, rfl, by decide⟩
  | exports bindings => exact ⟨'e', _, rfl, by decide⟩

theorem print_cons (item : Item) (items : List Item) :
    print (item :: items) = item.text ++ '\n' :: print items := by
  simp [print]

theorem mem_of_mem_head?_print {items : List Item} {c : Char} (h : c ∈ (print items).head?) :
    c ∈ ['i', 'e', 'd', 't'] := by
  cases items with
  | nil => cases h
  | cons item items =>
    obtain ⟨d, t, htext, hd⟩ := item.exists_head
    rw [print_cons, htext] at h
    obtain rfl : d = c := Option.some.inj h
    exact hd

theorem trimStart_print (items : List Item) :
    Text.trimStart ('\n' :: print items) = print items := by
  have hnewline : ∀ c ∈ ['\n'], Text.isBlank c = true := Text.forall_mem_of_all (by decide)
  have hheads : ∀ c ∈ ['i', 'e', 'd', 't'], Text.isBlank c = false :=
    Text.forall_mem_of_all (by decide)
  exact (Text.trimStart_append hnewline (print items)).trans
    (Text.trimStart_eq_self fun c hc => hheads c (mem_of_mem_head?_print hc))

/-- The braces of a shape are its whole type, whatever items follow. -/
theorem isComposite_print (items : List Item) : isComposite ('\n' :: print items) = false := by
  have hheads : ∀ c ∈ ['i', 'e', 'd', 't'], ['&', '|', '['].contains c = false :=
    Text.forall_mem_of_all (by decide)
  rw [isComposite, trimStart_print]
  cases h : print items with
  | nil => rfl
  | cons c t => exact hheads c (mem_of_mem_head?_print (by rw [h]; rfl))

theorem scan_alternative (a : Alternative) {t : Text}
    (ht : ∀ c ∈ t.head?, Text.isNameChar c = false) :
    scan file before 0 (a.text ++ t) = scan file (a.text.reverse ++ before) 0 t := by
  cases a with
  | literal l => exact scan_literal l
  | name n hn =>
    have hfirst := Text.isNameChar_of_isNameStart n.isNameStart_first
    have hscan : scan file before 0 (n.first :: (n.rest ++ t)) =
        scan file (n.rest.reverse ++ n.first :: before) 0 t :=
      scan_word hfirst n.isNameChar_rest (n.statement?_append hn ht file)
    simpa [Alternative.text, Name.text] using hscan

/-! #### Imports -/

theorem Import.scan_append (i : Import) (hbefore : before.head?.any Text.isNameChar = false)
    (t : Text) : ∃ b, scan file before 0 (i.text ++ '\n' :: t) =
      (scan file ('\n' :: b) 0 t).after (some (.imported (i.declared file))) := by
  have hhead : ∃ c r, i.statement = c :: r ∧ IsOrdinary c := ⟨'i', _, rfl, by decide⟩
  have hstatement (u : Text) : statement? file (i.statement ++ u) =
      .ok (some (some (.imported (i.declared file)), u)) := by
    rw [statement?, i.import?_append]
  unfold Import.text
  rw [List.append_assoc, scan_statement hhead hbefore (hstatement _)]
  cases i.semicolon
  · refine ⟨_, congrArg (Scan.after _) (scan_mark (by decide) (by decide))⟩
  · refine ⟨_, congrArg (Scan.after _) ((scan_mark (by decide) (by decide)).trans
      (scan_mark (by decide) (by decide)))⟩

/-! #### Shapes -/

theorem Shape.text_append (s : Shape) (t : Text) :
    s.text ++ t = s.modifier.text ++ plainHead s.ambient s.form
      (s.name.text ++ (formOpening s.form ++ (s.body ++ '}' :: t))) := by
  unfold Shape.text plainHead
  simp only [List.append_assoc, List.cons_append, List.nil_append]

theorem Shape.scan_append (s : Shape) (hbefore : before.head?.any Text.isNameChar = false)
    {t : Text} (ht : isComposite ('\n' :: t) = false) :
    ∃ b, scan file before 0 (s.text ++ '\n' :: t) =
      (scan file ('\n' :: b) 0 t).after (some (.entity s.entity [])) := by
  have hopening : ∀ c ∈ (formOpening s.form ++ (s.body ++ '}' :: '\n' :: t)).head?,
      Text.isNameChar c = false := by
    cases s.form <;> exact fun c hc => Option.some.inj hc ▸ rfl
  have hstatement : statement? file (s.text ++ '\n' :: t) =
      .ok (some (some (.entity s.entity []), '\n' :: t)) := by
    rw [s.text_append, statement?_append file s.modifier s.ambient s.form s.name hopening,
      s.declared_body ht]
    rfl
  have hhead : ∃ c r, s.text = c :: r ∧ IsOrdinary c := by
    obtain ⟨c, r, htext, hc⟩ := Item.exists_head (.shape s)
    have hordinary : ∀ c ∈ ['i', 'e', 'd', 't'], IsOrdinary c := Text.forall_mem_of_all (by decide)
    exact ⟨c, r, htext, hordinary c hc⟩
  rw [scan_statement hhead hbefore hstatement]
  exact ⟨_, congrArg (Scan.after _) (scan_mark (by decide) (by decide))⟩

/-! #### Unions -/

/-- The alternatives of a union after the first one. -/
def othersText (others : List Alternative) : Text :=
  others.flatMap fun a => " | ".toList ++ a.text

theorem not_isNameChar_head_othersText (others : List Alternative) (t : Text) :
    ∀ c ∈ (othersText others ++ '\n' :: t).head?, Text.isNameChar c = false := by
  cases others <;> exact fun c hc => Option.some.inj hc ▸ rfl

theorem scan_othersText (others : List Alternative) (t : Text) :
    ∃ b, scan file before 0 (othersText others ++ '\n' :: t) = scan file ('\n' :: b) 0 t := by
  induction others generalizing before with
  | nil => exact ⟨_, scan_mark (by decide) (by decide)⟩
  | cons a others ih =>
    have htext : othersText (a :: others) ++ '\n' :: t =
        ' ' :: '|' :: ' ' :: (a.text ++ (othersText others ++ '\n' :: t)) := by
      simp [othersText]
    rw [htext, scan_mark (by decide) (by decide), scan_mark (by decide) (by decide),
      scan_mark (by decide) (by decide),
      scan_alternative a (not_isNameChar_head_othersText others t)]
    exact ih

/-- A union up to its alternatives. -/
def Union.head (u : Union) : Text :=
  (if u.exported then Export.plain else .unexported).text ++ formWord .alias ++ [' '] ++
    u.name.text ++ " = ".toList

theorem Union.head_append (u : Union) (t : Text) :
    u.head ++ t = (if u.exported then Export.plain else .unexported).text ++
      plainHead false .alias (u.name.text ++ (" = ".toList ++ t)) := by
  unfold Union.head plainHead
  simp only [Bool.false_eq_true, if_false, List.append_assoc, List.cons_append, List.nil_append]

theorem Union.statement?_append (u : Union) (t : Text) :
    statement? file (u.head ++ (u.alternatives ++ t)) =
      .ok (some (none, u.alternatives ++ t)) := by
  have hequals : ∀ c ∈ (" = ".toList ++ (u.alternatives ++ t)).head?, Text.isNameChar c = false :=
    fun c hc => Option.some.inj hc ▸ rfl
  rw [u.head_append, Written.statement?_append file
    (if u.exported then .plain else .unexported) false .alias u.name hequals,
    u.declared_alternatives]
  rfl

theorem Union.scan_append (u : Union) (hbefore : before.head?.any Text.isNameChar = false)
    (t : Text) : ∃ b, scan file before 0 (u.text ++ '\n' :: t) = scan file ('\n' :: b) 0 t := by
  have hhead : ∃ c r, u.head = c :: r ∧ IsOrdinary c := by
    unfold Union.head
    cases u.exported
    · exact ⟨'t', _, rfl, by decide⟩
    · exact ⟨'e', _, rfl, by decide⟩
  have htext : u.text ++ '\n' :: t = u.head ++ (u.alternatives ++ '\n' :: t) :=
    List.append_assoc _ _ _
  have halternatives : u.alternatives ++ '\n' :: t =
      u.first.text ++ (othersText u.others ++ '\n' :: t) := List.append_assoc _ _ _
  rw [htext, scan_statement hhead hbefore (u.statement?_append _), Scan.after_none, halternatives,
    scan_alternative u.first (not_isNameChar_head_othersText u.others t)]
  exact scan_othersText u.others t

/-! #### Export lists -/

theorem isOrdinary_of_mem_listed {bindings : List Binding} :
    ∀ c ∈ ' ' :: (listed bindings ++ [' ']), IsOrdinary c := by
  intro c hc
  rcases List.mem_cons.1 hc with rfl | hc
  · decide
  · rcases List.mem_append.1 hc with hc | hc
    · exact forall_mem_listed (fun _ => isOrdinary_of_isNameChar) (by decide) (by decide)
        bindings c hc
    · rw [List.mem_singleton.1 hc]
      decide

/-- An export list with the items after it. -/
theorem exports_append (bindings : List Binding) (t : Text) :
    "export ".toList ++ braced 1 bindings ++ '\n' :: t =
      "export".toList ++ ' ' :: '{' :: (' ' :: (listed bindings ++ [' ']) ++ '}' :: '\n' :: t) := by
  have hlist : listed bindings ++ [' '] ++ ['}'] ++ '\n' :: t =
      listed bindings ++ [' '] ++ '}' :: '\n' :: t := by simp
  exact congrArg (fun u => "export \x7b ".toList ++ u) hlist

theorem exports_scan_append (bindings : List Binding) (t : Text) :
    ∃ b, scan file before 0 ("export ".toList ++ braced 1 bindings ++ '\n' :: t) =
      scan file ('\n' :: b) 0 t := by
  have hword (u : Text) : scan file before 0 ("export".toList ++ ' ' :: '{' :: u) =
      scan file ("xport".toList.reverse ++ 'e' :: before) 0 (' ' :: '{' :: u) :=
    scan_word (c := 'e') (t := "xport".toList) (by decide) (Text.forall_mem_of_all (by decide))
      (statement?_exports file u)
  have hlist (b : Text) :
      scan file b 0 (' ' :: '{' :: (' ' :: (listed bindings ++ [' ']) ++ '}' :: '\n' :: t)) =
        scan file ('\n' :: '}' :: ((' ' :: (listed bindings ++ [' '])).reverse ++ '{' :: ' ' :: b))
          0 t := by
    rw [scan_mark (by decide) (by decide), scan_open,
      scan_inner (by decide) isOrdinary_of_mem_listed, scan_close,
      scan_mark (by decide) (by decide)]
  rw [exports_append]
  exact ⟨_, (hword _).trans (hlist _)⟩

/-- An item of a written file is found whole, and what follows it is scanned on its own. -/
theorem Item.scan_append (item : Item) (items : List Item)
    (hbefore : before.head?.any Text.isNameChar = false) :
    ∃ b, scan file before 0 (item.text ++ '\n' :: print items) =
      (scan file ('\n' :: b) 0 (print items)).after (item.found file) := by
  cases item with
  | imported i => exact i.scan_append hbefore _
  | shape s => exact s.scan_append hbefore (isComposite_print items)
  | union u => exact u.scan_append hbefore _
  | exports bindings => exact exports_scan_append bindings _

theorem scan_print (items : List Item) (hbefore : before.head?.any Text.isNameChar = false) :
    scan file before 0 (print items) = { items := items.filterMap (Item.found file) } := by
  induction items generalizing before with
  | nil => rw [print, List.flatMap_nil, scan]; rfl
  | cons item items ih =>
    obtain ⟨b, hscan⟩ := item.scan_append items hbefore
    rw [print_cons, hscan, ih rfl, Scan.after, List.filterMap_cons]
    cases item.found file <;> rfl

end Written

end ShapeMapper
