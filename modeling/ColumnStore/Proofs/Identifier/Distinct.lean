import ColumnStore.Proofs.Identifier.Spelling

/-! Different names are written differently. The segments of a name can be told from its text, since a quote
within one is doubled and the star is the only one without quotes, and the name from its segments.
-/

namespace ColumnStore

namespace Identifier

-----------------------------------------------------------------------------------------
-- Segments from their text
-----------------------------------------------------------------------------------------

/-- A segment is told from its text, where no quote follows: by its quotes, or as the star. -/
theorem segment_unique {a b r s : List Char} (rApart : r.head? ≠ some '"') (sApart : s.head? ≠ some '"')
    (same : segment a ++ r = segment b ++ s)
    : a = b ∧ r = s := by
  rcases segment_cases a with ⟨rfl, left⟩ | ⟨-, left⟩
  · rcases segment_cases b with ⟨rfl, right⟩ | ⟨-, right⟩
    · exact ⟨rfl, List.append_cancel_left same⟩
    · rw [left, right] at same
      exact absurd (List.cons_eq_cons.1 same).1 (by decide)
  · rcases segment_cases b with ⟨rfl, right⟩ | ⟨-, right⟩
    · rw [left, right] at same
      exact absurd (List.cons_eq_cons.1 same).1 (by decide)
    · rw [left, right] at same
      exact quoted_unique rApart sApart same

/-- Segments behind dots are told from their text. By list induction on both, in lockstep: what follows a
segment is a dot, or nothing.
-/
theorem flatMap_segment_injective
    : Function.Injective fun parts : List (List Char) => parts.flatMap fun part => '.' :: segment part := by
  have apart (parts : List (List Char))
      : (parts.flatMap fun part => '.' :: segment part).head? ≠ some '"' := by
    cases parts <;> simp
  intro parts
  induction parts with
  | nil =>
    intro others same
    cases others with
    | nil => rfl
    | cons => cases same
  | cons part more ih =>
    intro others same
    cases others with
    | nil => cases same
    | cons other further =>
      obtain ⟨-, behind⟩ := List.cons_eq_cons.1 same
      obtain ⟨rfl, later⟩ := segment_unique (apart more) (apart further) behind
      rw [ih later]

/-- Segments are told from their text, as they are behind a dot. -/
theorem dots_injective {a b : List (List Char)} (left : a ≠ []) (right : b ≠ [])
    (same : dots a = dots b)
    : a = b := by
  obtain ⟨first, more, rfl⟩ := List.exists_cons_of_ne_nil left
  obtain ⟨other, further, rfl⟩ := List.exists_cons_of_ne_nil right
  apply flatMap_segment_injective
  rw [dots_cons, dots_cons] at same
  simpa using same

-----------------------------------------------------------------------------------------
-- Names from their segments
-----------------------------------------------------------------------------------------

/-- What stands before the last dot of a name is no function call. -/
def HasQuotedDatabase (name : List Char) : Prop :=
  ∀ parts ∈ Text.cutLast? '.' name, isExpression parts.1 = false

instance (name : List Char) : Decidable (HasQuotedDatabase name) :=
  inferInstanceAs (Decidable (∀ parts ∈ Text.cutLast? '.' name, _))

/-- A name is what is between its dots. -/
theorem splitOn_dot_injective : Function.Injective fun name : List Char => name.splitOn '.' :=
  Function.LeftInverse.injective (g := ['.'].intercalate) fun _ => List.intercalate_splitOn '.'

/-- A table is written in the parts of its name between dots, of which the last has the prefix. -/
theorem HasQuotedDatabase.exists_parts {name : List Char} (h : HasQuotedDatabase name)
    : ∃ front last,
        name.splitOn '.' = front ++ [last]
        ∧ ∀ tablePrefix, Spelling.ofTable tablePrefix name
          = { segments := front ++ [tablePrefix ++ last] } := by
  cases found : Text.cutLast? '.' name with
  | none =>
    have whole : name.splitOn '.' = [name] := List.splitOn_eq_singleton (Text.cutLast?_eq_none_iff.1 found)
    exact ⟨[], name, whole, fun tablePrefix => by rw [Spelling.ofTable, found]; rfl⟩
  | some parts =>
    obtain ⟨database, own⟩ := parts
    have quoted : isExpression database = false := h _ found
    refine ⟨database.splitOn '.', own, ?_, fun tablePrefix => ?_⟩
    · obtain ⟨parted, absent⟩ := Text.cutLast?_eq_some_iff.1 found
      rw [parted, List.splitOn_append_cons_self, List.splitOn_eq_singleton absent]
    · rw [Spelling.ofTable, found]
      exact if_neg (by simp [quoted])

/-- A column's name is what its segments are the parts of. -/
theorem text_ofColumn_injective : Function.Injective fun name => (Spelling.ofColumn name).text := by
  intro a b same
  exact splitOn_dot_injective
    (dots_injective (List.splitOn_ne_nil '.' a) (List.splitOn_ne_nil '.' b) same)

/-- A table's name is what its segments are the parts of, once the prefix is taken off the last one. -/
theorem eq_of_text_ofTable {tablePrefix a b : List Char} (left : HasQuotedDatabase a)
    (right : HasQuotedDatabase b)
    (same : (Spelling.ofTable tablePrefix a).text = (Spelling.ofTable tablePrefix b).text)
    : a = b := by
  obtain ⟨front, last, parts, written⟩ := left.exists_parts
  obtain ⟨otherFront, otherLast, otherParts, otherWritten⟩ := right.exists_parts
  rw [written, otherWritten] at same
  have segments : front ++ [tablePrefix ++ last] = otherFront ++ [tablePrefix ++ otherLast] :=
    dots_injective (by simp) (by simp) same
  obtain ⟨fronts, ends⟩ := List.append_inj' segments rfl
  have lasts : last = otherLast := List.append_cancel_left (List.singleton_inj.1 ends)
  apply splitOn_dot_injective
  simp only [parts, otherParts, fronts, lasts]

end Identifier

open Identifier

/-- Names without an alias that are no function calls are written differently as columns if they differ; and
as tables, whatever the prefix, if what stands before the last dot of either is no function call.
-/
theorem sql_eq_sql_iff {a b : String} (left : IsSegmented a.toList) (right : IsSegmented b.toList)
    : (columnSql a = columnSql b ↔ a = b)
      ∧ (HasQuotedDatabase a.toList → HasQuotedDatabase b.toList →
        ∀ d : Dialect, d.tableSql a = d.tableSql b ↔ a = b) := by
  refine ⟨⟨fun same => ?_, congrArg columnSql⟩,
    fun leftDatabase rightDatabase d => ⟨fun same => ?_, congrArg d.tableSql⟩⟩
  · rw [columnSql_of_isSegmented left, columnSql_of_isSegmented right, String.ofList_inj] at same
    exact String.toList_inj.1 (text_ofColumn_injective same)
  · rw [d.tableSql_of_isSegmented left, d.tableSql_of_isSegmented right, String.ofList_inj] at same
    exact String.toList_inj.1 (eq_of_text_ofTable leftDatabase rightDatabase same)

/-- A dot in the quotes of a name is not the dot between two: the first name has two parts that hold a quote
each, and the second has one with dots and quotes that would look alike if quotes were not doubled.
-/
theorem sql_eq_sql_iff_quotes
    : IsSegmented "a\".\"*".toList ∧ IsSegmented "a\"\".\"*".toList
      ∧ HasQuotedDatabase "a\".\"*".toList ∧ HasQuotedDatabase "a\"\".\"*".toList
      ∧ columnSql "a\".\"*" ≠ columnSql "a\"\".\"*"
      ∧ ({ tablePrefix := "p." } : Dialect).tableSql "a\".\"*"
        ≠ ({ tablePrefix := "p." } : Dialect).tableSql "a\"\".\"*" := by
  have left : IsSegmented "a\".\"*".toList := by decide
  have right : IsSegmented "a\"\".\"*".toList := by decide
  have leftDatabase : HasQuotedDatabase "a\".\"*".toList := by decide
  have rightDatabase : HasQuotedDatabase "a\"\".\"*".toList := by decide
  have different : "a\".\"*" ≠ "a\"\".\"*" := by decide
  obtain ⟨columns, tables⟩ := sql_eq_sql_iff left right
  exact ⟨left, right, leftDatabase, rightDatabase, columns.not.2 different,
    (tables leftDatabase rightDatabase _).not.2 different⟩

end ColumnStore
