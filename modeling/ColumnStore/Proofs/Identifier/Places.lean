import ColumnStore.Proofs.Identifier.Reading
import ColumnStore.Proofs.Identifier.Restoring
import ColumnStore.Proofs.Sql.Quotations

/-! A table reference names a place in the store: a table of the current database, or one of the database that
it is qualified with. A reference is read off SQL text as the store reads it, by its quotes and its dot.
-/

namespace ColumnStore

/-- Where a table is: its database, and its name there. -/
structure Place where
  database : String
  table : String
deriving DecidableEq, Repr

namespace Identifier

open Lexical

-----------------------------------------------------------------------------------------
-- Reading quoted names
-----------------------------------------------------------------------------------------

/-- The place that is named at the start of a text: one quoted name stands for a table of the current
database, and two with a dot between them for a database and its table. Anything else names none.
-/
def readPlace? (current : String) (cs : List Char) : Option Place := do
  let (first, rest) ← readQuoted? '"' cs
  if rest.head? = some '.' then
    let (second, more) ← readQuoted? '"' rest.tail
    if more.head? = some '.' then none
    else some ⟨String.ofList first, String.ofList second⟩
  else some ⟨current, String.ofList first⟩

/-- Between the quotes every character is read as itself, by list induction: a quote is doubled. -/
theorem untilDelimiter?_doubleQuotes {cs : List Char} (backslash : '\\' ∉ cs) {rest : List Char}
    (apart : rest.head? ≠ some '"')
    : untilDelimiter? '"' (doubleQuotes cs ++ '"' :: rest) = some (cs, rest) := by
  induction cs with
  | nil => exact untilDelimiter?_closed (by decide) apart
  | cons c cs ih =>
    simp only [List.mem_cons, not_or] at backslash
    have inside := ih backslash.2
    by_cases quote : c = '"'
    · subst quote
      change untilDelimiter? '"' ('"' :: '"' :: (doubleQuotes cs ++ '"' :: rest)) = _
      rw [untilDelimiter?_doubled (by decide), inside]
      rfl
    · have split : doubleQuotes (c :: cs) ++ '"' :: rest = c :: (doubleQuotes cs ++ '"' :: rest) := by
        simp [doubleQuotes, quote]
      rw [split, untilDelimiter?_plain (Ne.symm backslash.1) quote, inside]
      rfl

/-- A segment is read as the name that it quotes; the star is no quoted name. -/
theorem readQuoted?_segment {cs : List Char} (backslash : '\\' ∉ cs) {rest : List Char}
    (apart : rest.head? ≠ some '"')
    : readQuoted? '"' (segment cs ++ rest) = if cs = ['*'] then none else some (cs, rest) := by
  split
  · rename_i star
    rw [star]
    rfl
  · rename_i star
    have split : segment cs ++ rest = '"' :: (doubleQuotes cs ++ '"' :: rest) := by
      simp [segment, star]
    rw [split, readQuoted?_opened]
    exact untilDelimiter?_doubleQuotes backslash apart

/-- What can follow a name without going on with it. -/
structure EndsName (cs : List Char) : Prop where
  quote : cs.head? ≠ some '"'
  dot : cs.head? ≠ some '.'

/-- The star names no place. -/
theorem readPlace?_star (current : String) (rest : List Char)
    : readPlace? current (segment ['*'] ++ rest) = none :=
  rfl

variable {current : String} {rest : List Char}

theorem readPlace?_segment {name : List Char} (backslash : '\\' ∉ name) (star : name ≠ ['*'])
    (ends : EndsName rest)
    : readPlace? current (segment name ++ rest) = some ⟨current, String.ofList name⟩ := by
  simp [readPlace?, readQuoted?_segment backslash ends.quote, star, ends.dot]

/-- A name with a dot behind it is that of a database. -/
theorem readPlace?_qualified {database : List Char} (backslash : '\\' ∉ database)
    (star : database ≠ ['*'])
    : readPlace? current (segment database ++ '.' :: rest)
      = (readQuoted? '"' rest).bind fun (table, more) =>
          if more.head? = some '.' then none
          else some ⟨String.ofList database, String.ofList table⟩ := by
  have apart : ('.' :: rest).head? ≠ some '"' := by simp
  simp [readPlace?, readQuoted?_segment backslash apart, star]

theorem readPlace?_pair {database table : List Char} (first : '\\' ∉ database)
    (second : '\\' ∉ table) (databaseStar : database ≠ ['*']) (tableStar : table ≠ ['*'])
    (ends : EndsName rest)
    : readPlace? current (segment database ++ '.' :: (segment table ++ rest))
      = some ⟨String.ofList database, String.ofList table⟩ := by
  rw [readPlace?_qualified first databaseStar, readQuoted?_segment second ends.quote,
    if_neg tableStar]
  simp [ends.dot]

-----------------------------------------------------------------------------------------
-- Reading table references
-----------------------------------------------------------------------------------------

variable {tablePrefix own : List Char}

/-- Before a table stands the database alone: one in several segments makes no place, nor does the star. -/
theorem readPlace?_dotted {database table : List Char} (first : '\\' ∉ database)
    (second : '\\' ∉ table) (ends : EndsName rest) {place : Place}
    (read : readPlace? current (dotted database ++ '.' :: (segment table ++ rest)) = some place)
    : place = ⟨String.ofList database, String.ofList table⟩ := by
  obtain ⟨part, others, parts⟩ := List.exists_cons_of_ne_nil (List.splitOn_ne_nil '.' database)
  have inside (name : List Char) (member : name ∈ part :: others) : '\\' ∉ name :=
    fun found => first (Text.subset_of_mem_splitOn (parts ▸ member) found)
  rw [dotted, parts, List.map_cons, intercalate_dot_cons, List.append_assoc] at read
  by_cases star : part = ['*']
  · rw [star, readPlace?_star] at read
    cases read
  cases others with
  | nil =>
    have whole : ['.'].intercalate (database.splitOn '.') = database := List.intercalate_splitOn '.'
    rw [parts, List.intercalate_singleton] at whole
    rw [List.map_nil, List.flatMap_nil, List.nil_append,
      readPlace?_qualified (inside part (by simp)) star, readQuoted?_segment second ends.quote] at read
    split at read
    · cases read
    · simp only [Option.bind_some, if_neg ends.dot, Option.some.injEq] at read
      rw [← whole, read]
  | cons next more =>
    -- The second of the segments has a dot behind it again.
    obtain ⟨further, dot⟩ : ∃ further, (more.map segment).flatMap (fun part => '.' :: part)
        ++ '.' :: (segment table ++ rest) = '.' :: further := by
      cases more <;> exact ⟨_, rfl⟩
    rw [List.map_cons, List.flatMap_cons, List.cons_append, List.cons_append, List.append_assoc, dot,
      readPlace?_qualified (inside part (by simp)) star,
      readQuoted?_segment (inside next (by simp)) (by simp)] at read
    split at read <;> simp at read

/-- A name that is one part is read as itself, in the current database. -/
theorem readPlace?_of_isRestored (h : IsRestored tablePrefix own)
    (backslash : '\\' ∉ tablePrefix ++ own) (ends : EndsName rest)
    : readPlace? current (table tablePrefix own ++ rest)
      = some ⟨current, String.ofList (tablePrefix ++ own)⟩ := by
  have written : table tablePrefix own = segment (tablePrefix ++ own) := by
    rw [← trimEnd_table h.call, trimEnd_table_eq_quoted.2 h, segment, if_neg h.star, quoted]
  rw [written, readPlace?_segment backslash h.star ends]

/-- A name that a database qualifies is read as a table of that database, with the prefix. -/
theorem readPlace?_of_qualified {database name : List Char} (backslash : '\\' ∉ tablePrefix)
    (plain : PlainName (database ++ '.' :: name))
    (single : splitAlias? (database ++ '.' :: name) = none)
    (first : '.' ∉ database ∧ database ≠ ['*']) (second : '.' ∉ name ∧ tablePrefix ++ name ≠ ['*'])
    (ends : EndsName rest)
    : readPlace? current (table tablePrefix (database ++ '.' :: name) ++ rest)
      = some ⟨String.ofList database, String.ofList (tablePrefix ++ name)⟩ := by
  have parts : Text.cutLast? '.' (database ++ '.' :: name) = some (database, name) :=
    Text.cutLast?_eq_some_iff.2 ⟨rfl, second.1⟩
  obtain ⟨ofDatabase, ofName⟩ := Text.cutLast?_subset parts
  have bare : '\\' ∉ tablePrefix ++ name := by
    simpa [backslash] using fun found => plain.1 (ofName found)
  have segmented := isSegmented_of_plain (plain.mono ofDatabase) (splitAlias?_of_append single)
  have written := segmented.column_eq_segment first.1
  rw [table, if_neg (by simp [isExpression_of_plain plain])]
  split
  · rename_i found
    simp [found] at single
  · rw [parts]
    simp only [written, List.append_assoc, List.cons_append]
    exact readPlace?_pair (plain.mono ofDatabase).1 bare first.2 second.2 ends

/-- A reference is read as the whole name in the current database, or as a place with a shorter name. By
induction on what stands before an alias.
-/
theorem readPlace?_table (backslash : '\\' ∉ tablePrefix) (plain : PlainName own)
    (ends : EndsName rest) {place : Place}
    (read : readPlace? current (table tablePrefix own ++ rest) = some place)
    : place = ⟨current, String.ofList (tablePrefix ++ own)⟩ ∧ IsRestored tablePrefix own
      ∨ place.table.toList.length < (tablePrefix ++ own).length := by
  fun_induction table tablePrefix own generalizing rest with
  | case1 own call => simp [isExpression_of_plain plain] at call
  | case2 own _ base given split _ ih =>
    have shorter := length_lt_of_splitAlias? split
    rw [withAlias, List.append_assoc, List.append_assoc] at read
    have between : EndsName (" as ".toList ++ (segment given ++ rest)) := ⟨by simp, by simp⟩
    right
    rcases ih (plain.mono (splitAlias?_subset split).1) between read with ⟨rfl, -⟩ | least
    · simpa using shorter
    · simp only [List.length_append] at least ⊢
      omega
  | case3 own _ single database name split =>
    have whole := (Text.cutLast?_eq_some_iff.1 split).1
    have parts := Text.cutLast?_subset split
    have segmented := isSegmented_of_plain (plain.mono parts.1) (splitAlias?_of_append (whole ▸ single))
    rw [segmented.column_eq, List.append_assoc, List.cons_append] at read
    have second : '\\' ∉ tablePrefix ++ name := by
      simpa [backslash] using fun found => plain.1 (parts.2 found)
    rw [readPlace?_dotted (plain.mono parts.1).1 second ends read, whole]
    right
    simp only [String.toList_ofList, List.length_append, List.length_cons]
    omega
  | case4 own call single split =>
    have bare : '\\' ∉ tablePrefix ++ own := by
      simpa [backslash] using plain.1
    by_cases star : tablePrefix ++ own = ['*']
    · rw [star, readPlace?_star] at read
      cases read
    · rw [readPlace?_segment bare star ends] at read
      cases read
      exact .inl ⟨rfl, isExpression_of_plain plain, single, Text.cutLast?_eq_none_iff.1 split, star⟩

end Identifier

end ColumnStore
