import ColumnStore.Proofs.Identifier.Restoring

/-! A name is spelled in segments with dots between them, and a table has its prefix in the last one. Only
a function call that stands for the database of a table goes in front of them without quotes.
-/

namespace ColumnStore

namespace Identifier

/-- Segments in quotes, with dots between them. -/
def dots (parts : List (List Char)) : List Char :=
  ['.'].intercalate (parts.map segment)

theorem dots_cons (first : List Char) (more : List (List Char))
    : dots (first :: more) = segment first ++ more.flatMap fun part => '.' :: segment part := by
  rw [dots, List.map_cons, intercalate_dot_cons, List.flatMap_map]

/-- Segments go behind others with one more dot. -/
theorem dots_append {parts others : List (List Char)} (left : parts ≠ []) (right : others ≠ [])
    : dots (parts ++ others) = dots parts ++ '.' :: dots others := by
  obtain ⟨first, more, rfl⟩ := List.exists_cons_of_ne_nil left
  obtain ⟨next, further, rfl⟩ := List.exists_cons_of_ne_nil right
  simp [dots_cons]

theorem dots_singleton (part : List Char)
    : dots [part] = segment part :=
  List.intercalate_singleton

/-- How a name is written: a function call that stands for a database, if there is one, and segments. -/
structure Spelling where
  call : Option (List Char) := none
  segments : List (List Char)

namespace Spelling

/-- The function call with the dot behind it. -/
def lead (s : Spelling) : List Char :=
  match s.call with
  | none => []
  | some call => call ++ ['.']

def text (s : Spelling) : List Char :=
  s.lead ++ dots s.segments

/-- A column is written in the segments of its name. -/
def ofColumn (name : List Char) : Spelling where
  segments := name.splitOn '.'

/-- A table is written in the segments of its database, and one more with the prefix. -/
def ofTable (tablePrefix name : List Char) : Spelling :=
  match Text.cutLast? '.' name with
  | none => { segments := [tablePrefix ++ name] }
  | some (database, own) =>
    if isExpression database then { call := some database, segments := [tablePrefix ++ own] }
    else { segments := database.splitOn '.' ++ [tablePrefix ++ own] }

end Spelling

namespace IsSegmented

theorem column_eq_text {name : List Char} (h : IsSegmented name)
    : column name = (Spelling.ofColumn name).text :=
  h.column_eq

/-- What stands in front of the last dot of a name is written in segments, if it is no function call. -/
theorem database {name database own : List Char} (h : IsSegmented name)
    (found : Text.cutLast? '.' name = some (database, own)) (call : isExpression database = false)
    : IsSegmented database :=
  ⟨call, splitAlias?_of_append ((Text.cutLast?_eq_some_iff.1 found).1 ▸ h.single)⟩

theorem table_eq_text {name : List Char} (h : IsSegmented name) (tablePrefix : List Char)
    : table tablePrefix name = (Spelling.ofTable tablePrefix name).text := by
  rw [table, if_neg (by simp [h.call]), Spelling.ofTable]
  split
  · rename_i aliased
    simp [h.single] at aliased
  cases found : Text.cutLast? '.' name with
  | none => simp [Spelling.text, Spelling.lead, dots_singleton]
  | some parts =>
    obtain ⟨database, own⟩ := parts
    by_cases call : isExpression database
    · simp [column, call, Spelling.text, Spelling.lead, dots_singleton]
    · have front := (h.database found (by simpa using call)).column_eq_text
      have behind := dots_append (List.splitOn_ne_nil '.' database)
        (List.cons_ne_nil (tablePrefix ++ own) [])
      simp [call, front, behind, dots_singleton, Spelling.text, Spelling.lead, Spelling.ofColumn]

end IsSegmented

end Identifier

open Identifier

variable {name : String}

theorem columnSql_of_isSegmented (h : IsSegmented name.toList)
    : columnSql name = .ofList (Spelling.ofColumn name.toList).text :=
  congrArg String.ofList h.column_eq_text

theorem Dialect.tableSql_of_isSegmented (d : Dialect) (h : IsSegmented name.toList)
    : d.tableSql name = .ofList (Spelling.ofTable d.tablePrefix.toList name.toList).text :=
  congrArg String.ofList (h.table_eq_text d.tablePrefix.toList)

end ColumnStore
