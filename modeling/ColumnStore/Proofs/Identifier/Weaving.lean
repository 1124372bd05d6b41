import ColumnStore.Proofs.Sql.Weaving

/-! A name becomes a text of quoted parts with words between them. A plain name does so whatever it
holds, for a function call is the only name that is not quoted.
-/

namespace ColumnStore

open Lexical Statement

variable {Fits : Statement → Prop}

namespace Identifier

theorem ofList_intercalate (separator : List Char) (parts : List (List Char))
    : String.ofList (separator.intercalate parts)
      = (String.ofList separator).intercalate (parts.map String.ofList) := by
  apply String.toList_injective
  simp [String.toList_intercalate, Function.comp_def]

/-- A segment is one quoted name, or the star. -/
theorem isWoven_segment {cs : List Char} (h : PlainName cs)
    : (text (String.ofList (segment cs))).IsWoven Fits := by
  unfold segment
  split
  · rename_i star
    exact star ▸ (isFree_text (by decide)).isWoven
  · refine ⟨.bound, ?_⟩
    rw [symbols_text, textSymbols, String.toList_ofList]
    exact .name .nil h.1

theorem isWoven_dotted {cs : List Char} (h : PlainName cs)
    : (text (String.ofList (dotted cs))).IsWoven Fits := by
  rw [dotted, ofList_intercalate, ← joined_text]
  refine isWoven_joined (by decide) (by decide) ?_
  intro s member
  obtain ⟨sql, known, rfl⟩ := List.mem_map.1 member
  obtain ⟨quoted, listed, rfl⟩ := List.mem_map.1 known
  obtain ⟨part, inside, rfl⟩ := List.mem_map.1 listed
  exact isWoven_segment (h.mono (Text.subset_of_mem_splitOn inside))

theorem isWoven_withAlias {base given : List Char}
    (first : (text (String.ofList base)).IsWoven Fits) (h : PlainName given)
    : (text (String.ofList (withAlias base given))).IsWoven Fits := by
  rw [withAlias, String.ofList_append, String.ofList_append, String.ofList_toList, text_append,
    text_append]
  exact (first.separate (by decide) (by decide)).append (isWoven_segment h)

/-- A column reference is put together of quoted parts, by the recursion on its aliases. -/
theorem isWoven_column {cs : List Char} (h : PlainName cs)
    : (text (String.ofList (column cs))).IsWoven Fits := by
  fun_induction column cs with
  | case1 cs expression => simp [isExpression_of_plain h] at expression
  | case2 cs _ base given split _ ih =>
    have parts := splitAlias?_subset split
    exact isWoven_withAlias (ih (h.mono parts.1)) (h.mono parts.2)
  | case3 cs _ _ => exact isWoven_dotted h

/-- A table reference is put together of quoted parts, whatever plain prefix its table has. -/
theorem isWoven_table {tablePrefix cs : List Char} (plainPrefix : PlainName tablePrefix)
    (h : PlainName cs)
    : (text (String.ofList (table tablePrefix cs))).IsWoven Fits := by
  fun_induction table tablePrefix cs with
  | case1 cs expression => simp [isExpression_of_plain h] at expression
  | case2 cs _ base given split _ ih =>
    have parts := splitAlias?_subset split
    exact isWoven_withAlias (ih (h.mono parts.1)) (h.mono parts.2)
  | case3 cs _ _ database name split =>
    have parts := Text.cutLast?_subset split
    have qualifier : (text (String.ofList (column database))).IsWoven Fits :=
      isWoven_column (h.mono parts.1)
    have dot : (text (String.ofList (column database)) ++ text ".").IsFree Fits :=
      qualifier.separate (by decide) (by decide)
    have last : (text (String.ofList (segment (tablePrefix ++ name)))).IsWoven Fits :=
      isWoven_segment (plainPrefix.append (h.mono parts.2))
    rw [List.append_cons, String.ofList_append, String.ofList_append, text_append, text_append]
    exact dot.append last
  | case4 cs _ _ _ => exact isWoven_segment (plainPrefix.append h)

end Identifier

end ColumnStore
