import ShapeMapper.Proofs.Source.Outside

/-!
# Matching braces

The depth of a text is the number of braces that it opens outside of its literals and does not close
(`HasDepth`). What is read between an open brace and the one that closes it ends the shortest
balanced beginning of the text, and reading fails just if there is none: `enclosed_iff`.
-/

namespace ShapeMapper.Source

variable {t u v w body rest : Text} {n : Int} {pieces : List Piece}

/-! ### Depth -/

/-- The number of braces that are opened and not closed. -/
def braceDepth (u : Text) : Int :=
  u.count '{' - u.count '}'

/-- The depth at the end of a text. Braces in literals do not count, nor do those behind a quote
that opens a literal without an end. -/
def HasDepth (t : Text) (n : Int) : Prop :=
  ∃ v w u, t = v ++ w ∧ Outside v u ∧ (w = [] ∨ Unclosed w) ∧ braceDepth u = n

/-- Whether a text closes all braces that it opens. -/
def IsBalanced (t : Text) : Prop :=
  t ≠ [] ∧ HasDepth t 0

/-- Whether a text is the shortest balanced beginning of another one. -/
structure IsShortestBalanced (t p : Text) : Prop where
  isPrefix : p <+: t
  isBalanced : IsBalanced p
  length_le : ∀ q, q <+: t → IsBalanced q → p.length ≤ q.length

theorem braceDepth_append (t u : Text) : braceDepth (t ++ u) = braceDepth t + braceDepth u := by
  simp only [braceDepth, List.count_append]
  omega

/-- The depth over some pieces. -/
def pieceDepth (pieces : List Piece) : Int :=
  braceDepth (pieces.flatMap Piece.outside)

theorem pieceDepth_nil : pieceDepth [] = 0 := rfl

theorem pieceDepth_cons (p : Piece) (pieces : List Piece) :
    pieceDepth (p :: pieces) = braceDepth p.outside + pieceDepth pieces := by
  rw [pieceDepth, List.flatMap_cons, braceDepth_append]
  rfl

theorem braceDepth_outside_open : braceDepth (Piece.char '{').outside = 1 := rfl

theorem braceDepth_outside_close : braceDepth (Piece.char '}').outside = -1 := rfl

theorem braceDepth_outside {p : Piece} (hopen : p ≠ .char '{') (hclose : p ≠ .char '}') :
    braceDepth p.outside = 0 := by
  cases p with
  | char c =>
    have hcount {d : Char} (hd : Piece.char c ≠ .char d) : [c].count d = 0 :=
      List.count_eq_zero.2 fun hmem => hd (by rw [List.mem_singleton.1 hmem])
    show ([c].count '{' : Int) - [c].count '}' = 0
    rw [hcount hopen, hcount hclose]
    rfl
  | arrow => rfl
  | string => rfl

theorem HasDepth.unique {m : Int} (h : HasDepth t n) (h' : HasDepth t m) : n = m := by
  obtain ⟨v, w, u, rfl, hu, hw, rfl⟩ := h
  obtain ⟨v', w', u', heq, hu', hw', rfl⟩ := h'
  have hpieces := (hu.ofText_append hw).1
  rw [heq, (hu'.ofText_append hw').1] at hpieces
  rw [hpieces]

theorem HasDepth.cons_open (h : HasDepth t n) : HasDepth ('{' :: t) (1 + n) := by
  obtain ⟨v, w, u, rfl, hu, hw, rfl⟩ := h
  exact ⟨'{' :: v, w, '{' :: u, rfl, .char (by decide) hu, hw, braceDepth_append ['{'] u⟩

theorem HasDepth.piece_append {p : Piece} (hp : p.IsWhole) (h : HasDepth t n) :
    HasDepth (p.text ++ t) (braceDepth p.outside + n) := by
  obtain ⟨v, w, u, rfl, hu, hw, rfl⟩ := h
  exact ⟨p.text ++ v, w, p.outside ++ u, (List.append_assoc ..).symm, Piece.outside_text hp hu, hw,
    braceDepth_append p.outside u⟩

theorem hasDepth_textOf_append (h : ∀ p ∈ pieces, p.IsWhole) (hw : w = [] ∨ Unclosed w) :
    HasDepth (textOf pieces ++ w) (pieceDepth pieces) :=
  ⟨textOf pieces, w, pieces.flatMap Piece.outside, rfl, outside_textOf h, hw, rfl⟩

/-- A piece that is cut short opens and closes nothing. -/
theorem Piece.hasDepth_of_prefix {p : Piece} (hp : p.IsWhole) (ht : t <+: p.text)
    (hne : t ≠ p.text) : HasDepth t 0 := by
  have hnil : HasDepth [] 0 := ⟨[], [], [], rfl, .nil, .inl rfl, rfl⟩
  cases p with
  | char c =>
    rcases List.prefix_cons_iff.1 ht with rfl | ⟨u, rfl, hu⟩
    · exact hnil
    · exact absurd (by rw [List.prefix_nil.1 hu, text]) hne
  | arrow =>
    rcases List.prefix_cons_iff.1 ht with rfl | ⟨u, rfl, hu⟩
    · exact hnil
    · rcases List.prefix_cons_iff.1 hu with rfl | ⟨v, rfl, hv⟩
      · exact ⟨['='], [], ['='], rfl, .char (by decide) .nil, .inl rfl, rfl⟩
      · exact absurd (by rw [List.prefix_nil.1 hv, text]) hne
  | string x =>
    obtain ⟨l, rfl⟩ := hp
    by_cases h : t = []
    · rw [h]
      exact hnil
    · exact ⟨[], t, [], rfl, .nil, .inr (l.unclosed_of_prefix ht h hne), rfl⟩

/-- The depth at any place is the one after the pieces that end before it. -/
theorem exists_prefix_hasDepth (h : ∀ p ∈ pieces, p.IsWhole) (ht : t <+: textOf pieces) :
    ∃ q, q <+: pieces ∧ HasDepth t (pieceDepth q) := by
  induction pieces generalizing t with
  | nil =>
    obtain rfl := List.prefix_nil.1 ht
    exact ⟨[], List.nil_prefix, [], [], [], rfl, .nil, .inl rfl, rfl⟩
  | cons p pieces ih =>
    obtain ⟨hp, hpieces⟩ := List.forall_mem_cons.1 h
    have ht' : t <+: p.text ++ textOf pieces := ht
    by_cases hcut : p.text <+: t
    · obtain ⟨t, rfl⟩ := hcut
      obtain ⟨q, hq, hdepth⟩ := ih hpieces ((List.prefix_append_right_inj p.text).1 ht')
      refine ⟨p :: q, List.cons_prefix_cons.2 ⟨rfl, hq⟩, ?_⟩
      rw [pieceDepth_cons]
      exact hdepth.piece_append hp
    · have hshort : t <+: p.text :=
        (List.prefix_or_prefix_of_prefix ht' (List.prefix_append _ _)).resolve_right hcut
      refine ⟨[], List.nil_prefix, Piece.hasDepth_of_prefix hp hshort ?_⟩
      rintro rfl
      exact hcut List.prefix_rfl

/-- The same for all places of a text, in a literal that is never closed as well. -/
theorem exists_prefix_pieces (ht : t <+: u) :
    ∃ q, q <+: (Cut.ofText u).pieces ∧ HasDepth t (pieceDepth q) := by
  have hwhole := isWhole_of_mem_pieces u
  have htext := Cut.textOf_ofText u
  rw [← htext] at ht
  rcases List.prefix_or_prefix_of_prefix ht (List.prefix_append _ _) with hpieces | ⟨w, rfl⟩
  · exact exists_prefix_hasDepth hwhole hpieces
  · have hw := (List.prefix_append_right_inj _).1 ht
    refine ⟨_, List.prefix_rfl, hasDepth_textOf_append hwhole ?_⟩
    by_cases hnil : w = []
    · exact .inl hnil
    · rcases unclosed_torn u with htorn | htorn
      · rw [htorn] at hw
        exact .inl (List.prefix_nil.1 hw)
      · exact .inr (htorn.of_prefix hw hnil)

/-! ### The closing brace -/

/-- Whether no brace of some pieces closes one before `depth` braces that are open. -/
def StaysOpen (depth : Int) (pieces : List Piece) : Prop :=
  ∀ q, q <+: pieces → 0 ≤ depth + pieceDepth q

theorem StaysOpen.nil {depth : Int} (h : 0 ≤ depth) : StaysOpen depth [] := by
  intro q hq
  rw [List.prefix_nil.1 hq, pieceDepth_nil, Int.add_zero]
  exact h

theorem StaysOpen.cons {depth : Int} {p : Piece} (hdepth : 0 ≤ depth)
    (h : StaysOpen (depth + braceDepth p.outside) pieces) : StaysOpen depth (p :: pieces) := by
  intro q hq
  rcases List.prefix_cons_iff.1 hq with rfl | ⟨q, rfl, hq'⟩
  · rw [pieceDepth_nil, Int.add_zero]
    exact hdepth
  · rw [pieceDepth_cons, ← Int.add_assoc]
    exact h q hq'

/-- The depth behind a piece that closes no brace. -/
theorem depth_step {p : Piece} (hclose : p ≠ .char '}') (depth : Nat) :
    ((if p = .char '{' then depth + 1 else depth : Nat) : Int) =
      depth + braceDepth p.outside := by
  split
  · next hopen =>
    rw [hopen, braceDepth_outside_open]
    rfl
  · next hopen => rw [braceDepth_outside hopen hclose, Int.add_zero]

/-- The brace that closes stands where the depth is that of the start for the first time. -/
theorem staysOpen_of_closing? {depth : Nat} {before after : List Piece}
    (h : Piece.closing? depth pieces = some (before, after)) :
    StaysOpen depth before ∧ depth + pieceDepth before = 0 := by
  fun_induction Piece.closing? depth pieces generalizing before with
  | case1 => cases h
  | case2 =>
    cases h
    exact ⟨.nil (Int.le_refl 0), rfl⟩
  | case3 pieces depth ih =>
    obtain ⟨⟨b, r⟩, hb, heq⟩ := Option.map_eq_some_iff.1 h
    cases heq
    obtain ⟨hopen, hend⟩ := ih hb
    have hdepth : (depth : Int) = (depth + 1 : Nat) + braceDepth (Piece.char '}').outside := by
      rw [braceDepth_outside_close]
      omega
    rw [hdepth] at hopen hend
    refine ⟨hopen.cons (by omega), ?_⟩
    rw [pieceDepth_cons, ← Int.add_assoc]
    exact hend
  | case4 depth p pieces hclose ih =>
    obtain ⟨⟨b, r⟩, hb, heq⟩ := Option.map_eq_some_iff.1 h
    cases heq
    obtain ⟨hopen, hend⟩ := ih hb
    rw [depth_step hclose] at hopen hend
    refine ⟨hopen.cons (by omega), ?_⟩
    rw [pieceDepth_cons, ← Int.add_assoc]
    exact hend

/-- Where no brace closes, the depth never falls below that of the start. -/
theorem staysOpen_of_closing?_eq_none {depth : Nat} (h : Piece.closing? depth pieces = none) :
    StaysOpen depth pieces := by
  fun_induction Piece.closing? depth pieces with
  | case1 => exact .nil (by omega)
  | case2 => cases h
  | case3 pieces depth ih =>
    have hopen := ih (Option.map_eq_none_iff.1 h)
    have hdepth : (depth : Int) = (depth + 1 : Nat) + braceDepth (Piece.char '}').outside := by
      rw [braceDepth_outside_close]
      omega
    rw [hdepth] at hopen
    exact hopen.cons (by omega)
  | case4 depth p pieces hclose ih =>
    have hopen := ih (Option.map_eq_none_iff.1 h)
    rw [depth_step hclose] at hopen
    exact hopen.cons (by omega)

/-! ### What is enclosed -/

/-- Whether some braces are open at all places of a text but its start. -/
def IsOpenIn (t : Text) : Prop :=
  ∀ q, q <+: t → q ≠ [] → ∃ n, HasDepth q n ∧ 0 < n

/-- Whether the rest `w` of a text is a literal that is never closed, and nothing before it is
balanced. -/
def BreaksOff (t w : Text) : Prop :=
  ∃ v, t = v ++ w ∧ LiteralsClosed v ∧ Unclosed w ∧ ∀ p, p <+: v → ¬IsBalanced p

/-- No beginning of a text that stays open is balanced. -/
theorem IsOpenIn.not_isBalanced (h : IsOpenIn t) {p : Text} (hp : p <+: t) : ¬IsBalanced p := by
  rintro ⟨hnil, hzero⟩
  obtain ⟨n, hn, hpos⟩ := h p hp hnil
  rw [hn.unique hzero] at hpos
  exact absurd hpos (by decide)

/-- The first place at which a text is balanced is that of its shortest balanced beginning. -/
theorem IsOpenIn.isShortestBalanced {c : Char} (h : IsOpenIn u) (hbalanced : IsBalanced (u ++ [c]))
    (hbegins : u ++ [c] <+: t) : IsShortestBalanced t (u ++ [c]) where
  isPrefix := hbegins
  isBalanced := hbalanced
  length_le q hq hbalanced' := by
    rcases List.prefix_or_prefix_of_prefix hbegins hq with hlong | hshort
    · exact hlong.length_le
    · rcases List.prefix_concat_iff.1 hshort with rfl | hopen
      · exact Nat.le_refl _
      · exact absurd hbalanced' (h.not_isBalanced hopen)

theorem IsShortestBalanced.unique {p q : Text} (hp : IsShortestBalanced t p)
    (hq : IsShortestBalanced t q) : p = q := by
  have hlength := Nat.le_antisymm (hp.length_le q hq.isPrefix hq.isBalanced)
    (hq.length_le p hp.isPrefix hp.isBalanced)
  exact (List.prefix_of_prefix_length_le hp.isPrefix hq.isPrefix hlength.le).eq_of_length hlength

/-- A text behind an open brace stays open as long as its pieces do. -/
theorem StaysOpen.isOpenIn (h : StaysOpen 0 pieces)
    (hdepth : ∀ q, q <+: t → ∃ l, l <+: pieces ∧ HasDepth q (pieceDepth l)) :
    IsOpenIn ('{' :: t) := by
  intro q hq hnil
  obtain ⟨c, q, rfl⟩ := List.exists_cons_of_ne_nil hnil
  obtain ⟨rfl, hq'⟩ := List.cons_prefix_cons.1 hq
  obtain ⟨l, hl, hn⟩ := hdepth q hq'
  have hnonneg := h l hl
  exact ⟨1 + pieceDepth l, hn.cons_open, by omega⟩

theorem of_enclosed_eq_ok (h : enclosed t = .ok (body, rest)) :
    t = body ++ '}' :: rest ∧ IsBalanced ('{' :: body ++ ['}']) ∧ IsOpenIn ('{' :: body) := by
  unfold enclosed at h
  dsimp only at h
  split at h
  · next before after hclosing =>
    cases h
    obtain ⟨hopen, hend⟩ := staysOpen_of_closing? hclosing
    have hpieces := Piece.eq_append_of_closing? hclosing
    have hwhole : ∀ p ∈ before ++ [.char '}'], p.IsWhole := fun p hp =>
      isWhole_of_mem_pieces t p <| by
        rw [hpieces, List.append_cons]
        exact List.mem_append_left after hp
    refine ⟨?_, ⟨List.cons_ne_nil _ _, ?_⟩, hopen.isOpenIn fun q hq =>
      exists_prefix_hasDepth (fun p hp => hwhole p (List.mem_append_left _ hp)) hq⟩
    · conv_lhs => rw [← Cut.textOf_ofText t, hpieces]
      simp [textOf, Piece.text]
    · have hdepth := (hasDepth_textOf_append hwhole (.inl rfl)).cons_open
      have htext : textOf (before ++ [.char '}']) ++ [] = textOf before ++ ['}'] := by
        simp [textOf, Piece.text]
      have hzero : 1 + pieceDepth (before ++ [.char '}']) = 0 := by
        rw [pieceDepth, List.flatMap_append, braceDepth_append]
        show 1 + (pieceDepth before + -1) = 0
        omega
      rwa [htext, hzero] at hdepth
  · cases h

theorem of_enclosed_eq_error {stuck : Stuck} (h : enclosed t = .error stuck) :
    IsOpenIn ('{' :: t) ∧
      stuck = Cut.endedBy (Cut.ofText t).torn ⟨.unbalancedBraces, '{' :: t⟩ := by
  unfold enclosed at h
  dsimp only at h
  split at h
  · cases h
  · next hclosing =>
    cases h
    exact ⟨(staysOpen_of_closing?_eq_none hclosing).isOpenIn fun q hq => exists_prefix_pieces hq,
      rfl⟩

/-- What is enclosed ends the shortest balanced beginning. -/
theorem isShortestBalanced_of_enclosed (h : enclosed t = .ok (body, rest)) :
    IsShortestBalanced ('{' :: t) ('{' :: body ++ ['}']) := by
  obtain ⟨rfl, hbalanced, hopen⟩ := of_enclosed_eq_ok h
  exact hopen.isShortestBalanced hbalanced ⟨rest, by simp⟩

theorem enclosed_of_isBalanced {p : Text} (hp : p <+: '{' :: t) (hbalanced : IsBalanced p) :
    ∃ body rest, enclosed t = .ok (body, rest) := by
  cases h : enclosed t with
  | error stuck => exact absurd hbalanced ((of_enclosed_eq_error h).1.not_isBalanced hp)
  | ok parts => exact ⟨parts.1, parts.2, rfl⟩

/-- A literal that is never closed begins behind the brace. -/
theorem exists_cons_of_brace (ht : '{' :: t = v ++ w) (hw : w = [] ∨ Unclosed w) :
    ∃ v', v = '{' :: v' ∧ t = v' ++ w := by
  cases v with
  | nil =>
    rcases hw with rfl | hw
    · cases ht
    · obtain rfl : '{' :: t = w := ht
      have hquote := hw.isQuote_head
      cases hquote
  | cons c v =>
    obtain ⟨rfl, rfl⟩ := List.cons.inj ht
    exact ⟨v, rfl, rfl⟩

/-- The torn rest of a text is where it breaks off. -/
theorem torn_of_literalsClosed (hv : LiteralsClosed v) (ht : '{' :: t = v ++ w)
    (hw : w = [] ∨ Unclosed w) : (Cut.ofText t).torn = w := by
  obtain ⟨v, rfl, rfl⟩ := exists_cons_of_brace ht hw
  obtain ⟨u, hu⟩ := hv.of_cons (by decide)
  exact (hu.ofText_append hw).2

/-- A text that breaks off is balanced nowhere. -/
theorem BreaksOff.not_isBalanced (h : BreaksOff ('{' :: t) w) {p : Text} (hp : p <+: '{' :: t) :
    ¬IsBalanced p := by
  obtain ⟨v, ht, ⟨u, hu⟩, hw, hopen⟩ := h
  rw [ht] at hp
  rcases List.prefix_or_prefix_of_prefix hp (List.prefix_append v w) with hshort | ⟨w', rfl⟩
  · exact hopen p hshort
  · rintro ⟨-, hzero⟩
    have hw' : w' = [] ∨ Unclosed w' := by
      by_cases h : w' = []
      · exact .inl h
      · exact .inr (hw.of_prefix ((List.prefix_append_right_inj v).1 hp) h)
    -- the depth is that before the literal
    have hdepth : HasDepth v 0 := by
      rw [← HasDepth.unique ⟨v, w', u, rfl, hu, hw', rfl⟩ hzero]
      exact ⟨v, [], u, (List.append_nil v).symm, hu, .inl rfl, rfl⟩
    obtain ⟨v', rfl, -⟩ := exists_cons_of_brace ht (.inr hw)
    exact hopen _ List.prefix_rfl ⟨List.cons_ne_nil _ _, hdepth⟩

theorem literalsClosed_pieces (t : Text) : LiteralsClosed ('{' :: textOf (Cut.ofText t).pieces) :=
  ⟨_, .char (by decide) (outside_textOf (isWhole_of_mem_pieces t))⟩

/-- Reading fails at a literal that is never closed. -/
theorem enclosed_eq_unclosedString_iff :
    enclosed t = .error ⟨.unclosedString, w⟩ ↔ BreaksOff ('{' :: t) w := by
  have htext := Cut.textOf_ofText t
  constructor
  · intro h
    obtain ⟨hopen, hstuck⟩ := of_enclosed_eq_error h
    by_cases htorn : (Cut.ofText t).torn = []
    · rw [Cut.endedBy, if_pos htorn] at hstuck
      cases hstuck
    · rw [Cut.endedBy, if_neg htorn] at hstuck
      obtain rfl : w = _ := congrArg Stuck.rest hstuck
      have hsplit : '{' :: t = ('{' :: textOf (Cut.ofText t).pieces) ++ (Cut.ofText t).torn := by
        rw [List.cons_append, htext]
      refine ⟨_, hsplit, literalsClosed_pieces t, (unclosed_torn t).resolve_left htorn, ?_⟩
      intro p hp
      refine hopen.not_isBalanced (hp.trans ?_)
      rw [hsplit]
      exact List.prefix_append _ _
  · intro h
    obtain ⟨v, ht, hv, hw, -⟩ := id h
    cases hread : enclosed t with
    | ok parts =>
      obtain ⟨hbegins, hbalanced, -⟩ := isShortestBalanced_of_enclosed hread
      exact absurd hbalanced (h.not_isBalanced hbegins)
    | error stuck =>
      rw [(of_enclosed_eq_error hread).2, torn_of_literalsClosed hv ht (.inr hw), Cut.endedBy,
        if_neg hw.ne_nil]

/-- Reading fails at the brace itself if the text ends before it is closed. -/
theorem enclosed_eq_unbalancedBraces_iff :
    enclosed t = .error ⟨.unbalancedBraces, '{' :: t⟩ ↔
      LiteralsClosed ('{' :: t) ∧ ¬∃ p, p <+: '{' :: t ∧ IsBalanced p := by
  constructor
  · intro h
    obtain ⟨hopen, hstuck⟩ := of_enclosed_eq_error h
    refine ⟨?_, fun ⟨p, hp, hbalanced⟩ => hopen.not_isBalanced hp hbalanced⟩
    by_cases htorn : (Cut.ofText t).torn = []
    · have htext := Cut.textOf_ofText t
      rw [htorn, List.append_nil] at htext
      rw [← htext]
      exact literalsClosed_pieces t
    · rw [Cut.endedBy, if_neg htorn] at hstuck
      cases hstuck
  · rintro ⟨hclosed, hnone⟩
    cases hread : enclosed t with
    | ok parts =>
      obtain ⟨hbegins, hbalanced, -⟩ := isShortestBalanced_of_enclosed hread
      exact absurd ⟨_, hbegins, hbalanced⟩ hnone
    | error stuck =>
      have htorn := torn_of_literalsClosed hclosed (List.append_nil _).symm (.inl rfl)
      rw [(of_enclosed_eq_error hread).2, htorn, Cut.endedBy, if_pos rfl]

theorem enclosed_eq_ok_iff : enclosed t = .ok (body, rest) ↔
    t = body ++ '}' :: rest ∧ IsShortestBalanced ('{' :: t) ('{' :: body ++ ['}']) := by
  constructor
  · exact fun h => ⟨(of_enclosed_eq_ok h).1, isShortestBalanced_of_enclosed h⟩
  · rintro ⟨ht, hshortest⟩
    obtain ⟨body', rest', h⟩ := enclosed_of_isBalanced hshortest.isPrefix hshortest.isBalanced
    have hp := hshortest.unique (isShortestBalanced_of_enclosed h)
    obtain rfl : body = body' := by simpa using hp
    have hrest := List.append_cancel_left ((of_enclosed_eq_ok h).1.symm.trans ht)
    rw [h, (List.cons.inj hrest).2]

/-- The shortest balanced beginning ends with a brace, and before it the depth is positive. -/
theorem IsShortestBalanced.exists_concat {p : Text} (h : IsShortestBalanced ('{' :: t) p) :
    (∃ body, p = '{' :: body ++ ['}']) ∧
      ∀ q, q <+: p → q ≠ [] → q ≠ p → ∃ n, HasDepth q n ∧ 0 < n := by
  obtain ⟨body, rest, hread⟩ := enclosed_of_isBalanced h.isPrefix h.isBalanced
  obtain rfl := h.unique (isShortestBalanced_of_enclosed hread)
  refine ⟨⟨body, rfl⟩, fun q hq hnil hne => ?_⟩
  exact (of_enclosed_eq_ok hread).2.2 q ((List.prefix_concat_iff.1 hq).resolve_left hne) hnil

theorem exists_enclosed_eq_error_iff :
    (∃ stuck, enclosed t = .error stuck) ↔ ¬∃ p, p <+: '{' :: t ∧ IsBalanced p := by
  constructor
  · rintro ⟨stuck, h⟩ ⟨p, hp, hbalanced⟩
    exact (of_enclosed_eq_error h).1.not_isBalanced hp hbalanced
  · intro hnone
    cases h : enclosed t with
    | error stuck => exact ⟨stuck, rfl⟩
    | ok parts =>
      obtain ⟨hbegins, hbalanced, -⟩ := isShortestBalanced_of_enclosed h
      exact absurd ⟨_, hbegins, hbalanced⟩ hnone

/-- Behind an open brace, which `t` follows, what is enclosed ends the shortest balanced beginning.
That ends with a brace, and before it the depth is positive. Reading fails just if there is no such
beginning, or if a literal that is never closed comes before one: then the literal is reported, and
otherwise the brace. -/
theorem enclosed_iff (t : Text) :
    (∀ body rest, enclosed t = .ok (body, rest) ↔
        t = body ++ '}' :: rest ∧ IsShortestBalanced ('{' :: t) ('{' :: body ++ ['}'])) ∧
      (∀ p, IsShortestBalanced ('{' :: t) p →
        (∃ body, p = '{' :: body ++ ['}']) ∧
          ∀ q, q <+: p → q ≠ [] → q ≠ p → ∃ n, HasDepth q n ∧ 0 < n) ∧
      ((∃ stuck, enclosed t = .error stuck) ↔
        (¬∃ p, p <+: '{' :: t ∧ IsBalanced p) ∨ ∃ w, BreaksOff ('{' :: t) w) ∧
      (∀ w, enclosed t = .error ⟨.unclosedString, w⟩ ↔ BreaksOff ('{' :: t) w) ∧
      (enclosed t = .error ⟨.unbalancedBraces, '{' :: t⟩ ↔
        LiteralsClosed ('{' :: t) ∧ ¬∃ p, p <+: '{' :: t ∧ IsBalanced p) := by
  refine ⟨fun body rest => enclosed_eq_ok_iff, fun p hp => hp.exists_concat, ?_,
    fun w => enclosed_eq_unclosedString_iff, enclosed_eq_unbalancedBraces_iff⟩
  rw [exists_enclosed_eq_error_iff, iff_self_or]
  rintro ⟨w, hw⟩ ⟨p, hp, hbalanced⟩
  exact hw.not_isBalanced hp hbalanced

/-- A brace in a literal with an escaped quote does not close the one before it, although it would
if the literal were cut short there; and where a literal is never closed, no brace does. -/
theorem enclosed_iff_escaped :
    enclosed "a: '\\'\x7d' \x7d \x7d".toList = .ok ("a: '\\'\x7d' ".toList, " \x7d".toList) ∧
      IsShortestBalanced "\x7ba: '\\'\x7d' \x7d \x7d".toList "\x7ba: '\\'\x7d' \x7d".toList ∧
      (∃ n, HasDepth "\x7ba: '\\'\x7d".toList n ∧ 0 < n) ∧
      BreaksOff "\x7ba: '\\'\x7d \x7d".toList "'\\'\x7d \x7d".toList ∧
      ¬∃ p, p <+: "\x7ba: '\\'\x7d \x7d".toList ∧ IsBalanced p := by
  obtain ⟨hok, hopen, -, -, -⟩ := enclosed_iff "a: '\\'\x7d' \x7d \x7d".toList
  have hread : enclosed "a: '\\'\x7d' \x7d \x7d".toList =
      .ok ("a: '\\'\x7d' ".toList, " \x7d".toList) := by decide +kernel
  have hshortest := ((hok _ _).1 hread).2
  obtain ⟨-, -, herror, hbreaks, -⟩ := enclosed_iff "a: '\\'\x7d \x7d".toList
  have hstuck : enclosed "a: '\\'\x7d \x7d".toList =
      .error ⟨.unclosedString, "'\\'\x7d \x7d".toList⟩ := by decide +kernel
  refine ⟨hread, hshortest, ?_, (hbreaks _).1 hstuck, ?_⟩
  · exact (hopen _ hshortest).2 "\x7ba: '\\'\x7d".toList (by decide) (by decide) (by decide)
  · rcases herror.1 ⟨_, hstuck⟩ with hnone | ⟨w, hw⟩
    · exact hnone
    · rintro ⟨p, hp, hbalanced⟩
      exact hw.not_isBalanced hp hbalanced

end ShapeMapper.Source
