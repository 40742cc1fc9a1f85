import ShapeMapper.Proofs.Plan.Access
import ShapeMapper.Proofs.Template.Guarded

/-!
# Keys in a mapper

A mapper has two rows for every property of its target: the entry of its custom function, and its
line in the object that is made. Both begin with the key of the property and an end of that
(`Row.IsKeyed`), so rows of different properties differ, and no property stands in the place of
another (`Plan.nodup_keys_renderBundled`).
-/

namespace ShapeMapper

/-- Whether a row is written with the key of its property, and its custom function is taken by the
access to it. -/
structure Row.IsKeyed (source : Text) (r : Row) : Prop where
  entry : ∃ optional type, r.entry = "    ".toList ++ Access.key r.name ++ optionalMark optional ++
    ": (source: ".toList ++ source ++ ") => ".toList ++ type ++ ['\n']
  line : r.line = "  ".toList ++ Access.key r.name ++ ": ".toList ++ ("customMap".toList ++
      Access.member r.name false ++ "(source)".toList) ++ ",\n".toList ∨
    r.line = "  ".toList ++ Access.key r.name ++ ": ".toList ++ ("customMap?.".toList ++
      Access.member r.name true ++ " ? ".toList ++ ("customMap".toList ++
        Access.member r.name false ++ "(source)".toList) ++ " : source".toList ++
        Access.member r.name false) ++ ",\n".toList

theorem Slot.isKeyed_row (source : Text) (s : Slot) : (s.row source).IsKeyed source where
  entry := ⟨s.optional, s.returnType, rfl⟩
  line := by
    show s.assignment = _ ∨ s.assignment = _
    rw [assignment]
    cases s.route with
    | custom => exact .inl rfl
    | copied => exact .inr rfl

namespace Row

variable {source : Text} {r r' : Row}

/-- An entry and a line go on after the key with what no key holds. -/
theorem IsKeyed.exists_append (h : r.IsKeyed source) :
    (∃ t, r.entry = "    ".toList ++ (Access.key r.name ++ t) ∧ Access.Ends t) ∧
    ∃ t, r.line = "  ".toList ++ (Access.key r.name ++ t) ∧ Access.Ends t := by
  have hends {c : Char} (hc : Text.isNameChar c = false ∧ c ≠ '\n') {t : Text}
      (ht : t.head? = some c) : Access.Ends t := by
    rw [Access.Ends, ht]
    simpa using hc
  constructor
  · obtain ⟨optional, type, hentry⟩ := h.entry
    refine ⟨optionalMark optional ++ (": (source: ".toList ++ (source ++ (") => ".toList ++
      (type ++ ['\n'])))), by simpa only [List.append_assoc] using hentry, ?_⟩
    cases optional with
    | true => exact hends (c := '?') (by decide) rfl
    | false => exact hends (c := ':') (by decide) rfl
  · rcases h.line with hline | hline
    all_goals
      exact ⟨_, by simpa only [List.append_assoc] using hline, hends (c := ':') (by decide) rfl⟩

theorem IsKeyed.name_eq_of_entry (h : r.IsKeyed source) (h' : r'.IsKeyed source)
    (heq : r.entry = r'.entry) : r.name = r'.name := by
  obtain ⟨⟨t, ht, hends⟩, -⟩ := h.exists_append
  obtain ⟨⟨u, hu, hends'⟩, -⟩ := h'.exists_append
  rw [ht, hu] at heq
  exact (Access.key_append_inj hends hends' (List.append_cancel_left heq)).1

theorem IsKeyed.name_eq_of_line (h : r.IsKeyed source) (h' : r'.IsKeyed source)
    (heq : r.line = r'.line) : r.name = r'.name := by
  obtain ⟨-, t, ht, hends⟩ := h.exists_append
  obtain ⟨-, u, hu, hends'⟩ := h'.exists_append
  rw [ht, hu] at heq
  exact (Access.key_append_inj hends hends' (List.append_cancel_left heq)).1

/-- Of rows with different names whatever gives the name back is different. -/
theorem nodup_map {α : Type} {f : Row → α} {rows : List Row} (hnames : (rows.map name).Nodup)
    (h : ∀ r ∈ rows, ∀ r' ∈ rows, f r = f r' → r.name = r'.name) : (rows.map f).Nodup := by
  refine hnames.of_map.map_on fun r hr r' hr' heq => ?_
  exact List.inj_on_of_nodup_map hnames hr hr' (h r hr r' hr' heq)

end Row

namespace Plan

theorem isKeyed_of_mem_rows {p : Plan} : ∀ r ∈ p.rows, r.IsKeyed p.source := by
  intro r hr
  obtain ⟨s, -, rfl⟩ := List.mem_map.1 hr
  exact s.isKeyed_row p.source

/-- Keys and accesses tell the properties apart, and those in quotes are printable ASCII and give
back the name. So in the mapper that is written for a plan no two rows have the same key, access,
entry or line. -/
theorem nodup_keys_renderBundled {source target : Entity} (htarget : target.IsMade)
    (imports : List Text) (earlier later : List Plan) :
    let p := Plan.of source target
    (Function.Injective Access.key ∧ ∀ guarded, Function.Injective (Access.member · guarded)) ∧
    (∀ name, (Access.key name).head? = some '"' →
      (∀ c ∈ Access.key name, Text.IsPrintable c) ∧
        Json.parse (Access.key name) = .ok (.text name)) ∧
    (∀ name guarded, (Access.member name guarded).head? = some '[' →
      ∃ literal, Access.member name guarded = '[' :: (literal ++ [']']) ∧
        (∀ c ∈ literal, Text.IsPrintable c) ∧ Json.parse literal = .ok (.text name)) ∧
    (∀ name guarded, (Access.key name).head? = some '"' ↔
      (Access.member name guarded).head? = some '[') ∧
    ({ imports, mappers := earlier ++ p :: later } : Artifact).renderBundled =
      .ok (({ imports, mappers := earlier } : Artifact).text ++
        ("\nexport const map".toList ++ p.source ++ "To".toList ++ p.target ++
          " = (\n  source: ".toList ++ p.source ++ ",\n  ".toList ++ p.parameter ++
          ": \x7b\n".toList ++ p.rows.flatMap Row.entry ++ "  \x7d,\n): ".toList ++ p.target ++
          " => (\x7b\n".toList ++ p.rows.flatMap Row.line ++ "\x7d)\n".toList) ++
        later.flatMap Plan.text) ∧
    p.rows.map Row.name = target.properties.map Property.name ∧
    (∀ r ∈ p.rows, r.IsKeyed p.source) ∧
    (p.rows.map fun r => Access.key r.name).Nodup ∧
    (∀ guarded, (p.rows.map fun r => Access.member r.name guarded).Nodup) ∧
    (p.rows.map Row.entry).Nodup ∧ (p.rows.map Row.line).Nodup := by
  intro p
  have hnames : (p.rows.map Row.name).Nodup := by
    rw [map_name_rows]
    exact htarget.nodup
  have hquoted {name : Text} (h : Access.isPlain name = false) :=
    Json.parse_of_literal? (Json.literal?_encode name)
  refine ⟨⟨Access.key_injective, Access.member_injective⟩, fun name h => ?_,
    fun name guarded h => ?_, fun name guarded => ?_, ?_, map_name_rows source target,
    isKeyed_of_mem_rows, ?_, fun guarded => ?_, ?_, ?_⟩
  · have hplain := Access.head?_key_iff.1 h
    rw [Access.key_of_not_isPlain hplain]
    exact ⟨Text.Quoted.isPrintable_of_mem_encode name, hquoted hplain⟩
  · have hplain := Access.head?_member_iff.1 h
    exact ⟨_, Access.member_of_not_isPlain hplain guarded,
      Text.Quoted.isPrintable_of_mem_encode name, hquoted hplain⟩
  · rw [Access.head?_key_iff, Access.head?_member_iff]
  · rw [Artifact.renderBundled_eq, ← p.text_eq_rows]
    simp only [Artifact.text, List.flatMap_append, List.flatMap_cons, List.append_assoc]
  · exact Row.nodup_map hnames fun r _ r' _ heq => Access.key_injective heq
  · exact Row.nodup_map hnames fun r _ r' _ heq => Access.member_injective guarded heq
  · exact Row.nodup_map hnames fun r hr r' hr' heq =>
      (isKeyed_of_mem_rows r hr).name_eq_of_entry (isKeyed_of_mem_rows r' hr') heq
  · exact Row.nodup_map hnames fun r hr r' hr' heq =>
      (isKeyed_of_mem_rows r hr).name_eq_of_line (isKeyed_of_mem_rows r' hr') heq

/-- Two names that a line feed tells apart, and two that are written in quotes. -/
theorem nodup_keys_renderBundled_lineFeed :
    let target := Entity.ofMembers "Person".toList
      [⟨"a".toList, "string".toList, false⟩, ⟨"a\n".toList, "string".toList, true⟩,
        ⟨"first-name".toList, "string".toList, false⟩, ⟨['"', '😀'], "Date".toList, false⟩]
      true false
    let p := Plan.of target target
    target.IsMade ∧
      p.rows.map (fun r => Access.key r.name) = ["a".toList, "a\n".toList, "\"first-name\"".toList,
        "\"\\\"\\ud83d\\ude00\"".toList] ∧
      (p.rows.map Row.entry).Nodup ∧ (p.rows.map Row.line).Nodup := by
  intro target p
  have htarget : target.IsMade := Entity.isMade_ofMembers _ _ _ _
  obtain ⟨-, -, -, -, -, -, -, -, -, hentries, hlines⟩ :=
    @nodup_keys_renderBundled target target htarget [] [] []
  exact ⟨htarget, by decide +kernel, hentries, hlines⟩

end Plan

end ShapeMapper
