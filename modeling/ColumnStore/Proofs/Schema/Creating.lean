import ColumnStore.Proofs.Identifier.Reading
import ColumnStore.Proofs.Identifier.Restoring
import ColumnStore.Proofs.Sql.Nesting
import ColumnStore.Schema.Compile

/-! The text that creates a table says which table it is and what columns are declared. Names are read off
it by their quotes, types and defaults by their brackets and quotes.
-/

namespace ColumnStore

open Lexical

-----------------------------------------------------------------------------------------
-- Names
-----------------------------------------------------------------------------------------

/-- A name that is one part by itself: a plain one, with neither an alias nor a dot, and not the star. -/
structure IsSingleName (name : String) : Prop where
  column : IsColumnName name
  dot : '.' ∉ name.toList
  star : name ≠ "*"

instance (name : String) : Decidable (IsSingleName name) :=
  decidable_of_iff (IsColumnName name ∧ '.' ∉ name.toList ∧ name ≠ "*")
    ⟨fun ⟨column, dot, star⟩ => ⟨column, dot, star⟩, fun h => ⟨h.1, h.2, h.3⟩⟩

theorem toList_columnSql {name : String} (single : IsSingleName name)
    : (columnSql name).toList = Identifier.quoted name.toList := by
  have star : name.toList ≠ ['*'] := fun same => single.star (String.toList_inj.1 same)
  have segmented := Identifier.isSegmented_of_plain single.column.1 single.column.2
  rw [columnSql, String.toList_ofList, segmented.column_eq_segment single.dot, Identifier.segment,
    if_neg star]
  rfl

theorem toList_tableSql {d : Dialect} {name : String} (ofPrefix : IsSingleName d.tablePrefix)
    (single : IsSingleName name)
    : (d.tableSql name).toList = Identifier.quoted (d.tablePrefix.toList ++ name.toList) := by
  have call := Identifier.isExpression_of_plain single.column.1
  have star : d.tablePrefix.toList ++ name.toList ≠ ['*'] := by
    intro same
    rcases List.append_eq_singleton_iff.1 same with ⟨-, own⟩ | ⟨own, -⟩
    · exact single.star (String.toList_inj.1 own)
    · exact ofPrefix.star (String.toList_inj.1 own)
  have restored := Identifier.trimEnd_table_eq_quoted.2 ⟨call, single.column.2, single.dot, star⟩
  rw [Dialect.tableSql, String.toList_ofList, ← restored, Identifier.trimEnd_table call]

-----------------------------------------------------------------------------------------
-- Types
-----------------------------------------------------------------------------------------

theorem isPart_word {cs : List Char} (word : ∀ c ∈ cs, IsScalarChar c) (depth : Nat)
    : IsPart depth cs :=
  isPart_of_inert fun c member => (word c member).inert depth

theorem isPart_enumerationSql (e : Escaping) (allowed : List String) (depth : Nat)
    : IsPart depth (enumerationSql e allowed).toList := by
  have written : (enumerationSql e allowed).toList = "Enum".toList ++ '(' ::
      ([',', ' '].intercalate (allowed.zipIdx.map fun pair =>
        (e.quoteText pair.1).toList ++ ' ' :: (['=', ' '] ++ (toString (pair.2 + 1)).toList))
          ++ [')']) := by
    simp [enumerationSql, Function.comp_def]
  rw [written]
  refine (isPart_word (by simp [IsScalarChar]) depth).bracketed (IsPart.intercalate ?_) rfl rfl
  intro cs member
  obtain ⟨⟨text, i⟩, -, rfl⟩ := List.mem_map.1 member
  refine (isPart_quoteText e text (depth + 1)).append_cons ['=', ' '] ?_
    ((scalarText_nat (i + 1)).isPart (depth + 1))
  have blank : IsInert (depth + 1) ' ' := ⟨by decide, rfl, rfl, by simp⟩
  have equals : IsInert (depth + 1) '=' := ⟨by decide, rfl, rfl, by simp⟩
  simpa using ⟨blank, equals, blank⟩

theorem isPart_type (e : Escaping) (type : ColumnType) (depth : Nat)
    : IsPart depth (type.sql e).toList := by
  cases type with
  | enumeration allowed => exact isPart_enumerationSql e allowed depth
  | timestamp =>
    have written : "DateTime64(3)".toList = "DateTime64".toList ++ '(' :: ("3".toList ++ [')']) := by
      simp
    have digits : IsPart (depth + 1) "3".toList := isPart_word (by simp [IsScalarChar]) (depth + 1)
    rw [ColumnType.sql, written]
    exact (isPart_word (by simp [IsScalarChar]) depth).bracketed digits rfl rfl
  -- The others are words.
  | _ => exact isPart_word (by simp [ColumnType.sql, IsScalarChar]) depth

theorem head?_type (e : Escaping) (type : ColumnType)
    : (type.sql e).toList.head? ≠ some 'N' := by
  cases type with
  | enumeration allowed => simp [ColumnType.sql, enumerationSql]
  | _ => simp [ColumnType.sql]

namespace ColumnSpec

theorem isPart_typeSql (e : Escaping) (column : ColumnSpec)
    : IsPart 0 (column.typeSql e).toList := by
  rw [typeSql]
  split
  · have written : ("Nullable(" ++ column.type.sql e ++ ")").toList
        = "Nullable".toList ++ '(' :: ((column.type.sql e).toList ++ [')']) := by
      simp
    rw [written]
    exact (isPart_word (by simp [IsScalarChar]) 0).bracketed (isPart_type e column.type 1) rfl rfl
  · exact isPart_type e column.type 0

/-- The native text of a type and its nullability are read off the text of both. -/
theorem typeSql_unique {e : Escaping} {c d : ColumnSpec} (same : c.typeSql e = d.typeSql e)
    : c.type.sql e = d.type.sql e ∧ c.nullable = d.nullable := by
  have opened (cs : List Char) : ("Nullable(".toList ++ cs).head? = some 'N' := rfl
  have unwrapped {type other : ColumnType} : "Nullable(" ++ type.sql e ++ ")" ≠ other.sql e := by
    intro same
    refine head?_type e other ?_
    rw [← same, String.toList_append, String.toList_append, List.append_assoc, opened]
  simp only [typeSql] at same
  cases left : c.nullable <;> cases right : d.nullable
  all_goals simp only [left, right, if_true, if_false, Bool.false_eq_true] at same
  · exact ⟨same, rfl⟩
  · exact (unwrapped same.symm).elim
  · exact (unwrapped same).elim
  · have inner := congrArg String.toList same
    simp only [String.toList_append, List.append_assoc] at inner
    exact ⟨String.toList_inj.1 (List.append_cancel_right (List.append_cancel_left inner)), rfl⟩

end ColumnSpec

-----------------------------------------------------------------------------------------
-- Columns
-----------------------------------------------------------------------------------------

/-- What a table is told about a column. -/
structure Declaration where
  name : String
  /-- The text of the native type. -/
  type : String
  nullable : Bool
  /-- The literal of the default. -/
  default : Option String
deriving DecidableEq

namespace ColumnSpec

def declaration (e : Escaping) (column : ColumnSpec) : Declaration where
  name := column.name
  type := column.type.sql e
  nullable := column.nullable
  default := column.default.map e.quote

theorem declaration_eq_iff {e : Escaping} {c d : ColumnSpec}
    : c.declaration e = d.declaration e
      ↔ c.name = d.name ∧ (c.type.sql e = d.type.sql e ∧ c.nullable = d.nullable)
        ∧ c.default.map e.quote = d.default.map e.quote := by
  simp only [declaration, Declaration.mk.injEq, and_assoc]

/-- The text of a column holds nothing but its declaration. -/
theorem sql_congr {e : Escaping} {c d : ColumnSpec} (same : c.declaration e = d.declaration e)
    : c.sql e = d.sql e := by
  obtain ⟨name, ⟨type, nullable⟩, literal⟩ := declaration_eq_iff.1 same
  have typed : c.typeSql e = d.typeSql e := by
    rw [typeSql, typeSql, type, nullable]
  cases left : c.default <;> cases right : d.default <;> rw [left, right] at literal
  · simp only [sql, name, typed, left, right]
  · cases literal
  · cases literal
  · simp only [sql, name, typed, left, right, Option.some.inj literal]

def defaultText (e : Escaping) (column : ColumnSpec) : List Char :=
  match column.default with
  | none => []
  | some value => " DEFAULT ".toList ++ (e.quote value).toList

theorem toList_sql_eq (e : Escaping) (column : ColumnSpec)
    : (column.sql e).toList = (columnSql column.name).toList
      ++ ' ' :: ((column.typeSql e).toList ++ column.defaultText e) := by
  cases given : column.default <;> simp [sql, defaultText, given]

theorem toList_sql {column : ColumnSpec} (single : IsSingleName column.name) (e : Escaping)
    : (column.sql e).toList = Identifier.quoted column.name.toList
      ++ ' ' :: ((column.typeSql e).toList ++ column.defaultText e) := by
  rw [toList_sql_eq, toList_columnSql single]

end ColumnSpec

/-- Where the declaration of a column can end: before a comma or before the last parenthesis. -/
def EndsColumn (cs : List Char) : Prop :=
  ∃ c rest, cs = c :: rest ∧ (c = ',' ∨ c = ')')

theorem EndsColumn.startsApart {cs : List Char} (ends : EndsColumn cs)
    : StartsApart cs := by
  obtain ⟨c, rest, rfl, rfl | rfl⟩ := ends
  · exact ⟨_, rest, rfl, rfl⟩
  · exact ⟨_, rest, rfl, rfl⟩

namespace ColumnSpec

theorem startsApart_defaultText (e : Escaping) (column : ColumnSpec) {r : List Char}
    (ends : EndsColumn r)
    : StartsApart (column.defaultText e ++ r) := by
  rw [defaultText]
  split
  · exact ends.startsApart
  · exact ⟨' ', _, rfl, rfl⟩

/-- The literal of a default is read off the text after a type, and so is that there is none. -/
theorem defaultText_unique {e : Escaping} {c d : ColumnSpec} {r s : List Char} (rEnds : EndsColumn r)
    (sEnds : EndsColumn s) (same : c.defaultText e ++ r = d.defaultText e ++ s)
    : c.default.map e.quote = d.default.map e.quote ∧ r = s := by
  have bare {r : List Char} (ends : EndsColumn r) (value : Value) (s : List Char)
      : r ≠ " DEFAULT ".toList ++ (e.quote value).toList ++ s := by
    obtain ⟨c, rest, rfl, rfl | rfl⟩ := ends
    · intro same
      cases same
    · intro same
      cases same
  cases left : c.default with
  | none =>
    cases right : d.default with
    | none =>
      simp only [defaultText, left, right, List.nil_append] at same
      exact ⟨rfl, same⟩
    | some w =>
      simp only [defaultText, left, right, List.nil_append] at same
      exact (bare rEnds w s same).elim
  | some v =>
    cases right : d.default with
    | none =>
      simp only [defaultText, left, right, List.nil_append] at same
      exact (bare sEnds v r same.symm).elim
    | some w =>
      simp only [defaultText, left, right, List.append_assoc] at same
      obtain ⟨literal, rest⟩ := ((literalText_quote e v).isPart 0).unique
        ((literalText_quote e w).isPart 0) rEnds.startsApart sEnds.startsApart
        (List.append_cancel_left same)
      exact ⟨by rw [Option.map_some, Option.map_some, String.toList_inj.1 literal], rest⟩

/-- A column is read off the text of a table: its name ends with its quotes, its type before a blank or
with the column, and its default with the column.
-/
theorem declaration_unique {e : Escaping} {c d : ColumnSpec} (cSingle : IsSingleName c.name)
    (dSingle : IsSingleName d.name) {r s : List Char} (rEnds : EndsColumn r) (sEnds : EndsColumn s)
    (same : (c.sql e).toList ++ r = (d.sql e).toList ++ s)
    : c.declaration e = d.declaration e ∧ r = s := by
  simp only [toList_sql cSingle, toList_sql dSingle, List.append_assoc, List.cons_append] at same
  obtain ⟨name, afterName⟩ := Identifier.quoted_unique (by simp) (by simp) same
  obtain ⟨type, afterType⟩ := (isPart_typeSql e c).unique (isPart_typeSql e d)
    (startsApart_defaultText e c rEnds) (startsApart_defaultText e d sEnds)
    (List.cons_eq_cons.1 afterName).2
  obtain ⟨literal, rest⟩ := defaultText_unique rEnds sEnds afterType
  have written := typeSql_unique (String.toList_inj.1 type)
  exact ⟨declaration_eq_iff.2 ⟨String.toList_inj.1 name, written, literal⟩, rest⟩

/-- The text of columns that follow another one. -/
def furtherText (e : Escaping) (columns : List ColumnSpec) : List Char :=
  columns.flatMap fun column => [',', ' '] ++ (column.sql e).toList

theorem endsColumn_furtherText (e : Escaping) (columns : List ColumnSpec) (more : List Char)
    : EndsColumn (furtherText e columns ++ ')' :: more) := by
  cases columns with
  | nil => exact ⟨')', more, rfl, .inr rfl⟩
  | cons column columns => exact ⟨',', _, rfl, .inl rfl⟩

/-- A list of columns is read off the text of a table. -/
theorem map_declaration_unique {e : Escaping} {cs ds : List ColumnSpec}
    (cSingle : ∀ c ∈ cs, IsSingleName c.name) (dSingle : ∀ d ∈ ds, IsSingleName d.name)
    {r s : List Char} (same : furtherText e cs ++ ')' :: r = furtherText e ds ++ ')' :: s)
    : cs.map (declaration e) = ds.map (declaration e) := by
  have comma (rest : List Char) : EndsColumn (',' :: rest) := ⟨',', rest, rfl, .inl rfl⟩
  have close (rest : List Char) : EndsColumn (')' :: rest) := ⟨')', rest, rfl, .inr rfl⟩
  refine map_unique_of_items comma close ?_ same
  intro c cMember d dMember r s rEnds sEnds here
  exact declaration_unique (cSingle c cMember) (dSingle d dMember) rEnds sEnds here

end ColumnSpec

-----------------------------------------------------------------------------------------
-- Tables
-----------------------------------------------------------------------------------------

namespace Blueprint

/-- The names of a blueprint are single. -/
structure HasSingleNames (b : Blueprint) : Prop where
  table : IsSingleName b.table
  columns : ∀ column ∈ b.columns, IsSingleName column.name

def declarationsText (d : Dialect) (b : Blueprint) : List Char :=
  [',', ' '].intercalate ((b.declarations d).map String.toList)

theorem toList_compileCreate_eq (d : Dialect) (b : Blueprint)
    : (b.compileCreate d).toList
      = ("create table if not exists " ++ d.tableSql b.table ++ " (").toList
        ++ (b.declarationsText d ++ ')' :: (" ENGINE = MergeTree() ORDER BY (".toList
          ++ (b.orderingKey.toList ++ ')' :: " SETTINGS index_granularity = 8192".toList))) := by
  have opening : ") ENGINE = MergeTree() ORDER BY (".toList
      = ')' :: " ENGINE = MergeTree() ORDER BY (".toList := by
    simp
  have closing : ") SETTINGS index_granularity = 8192".toList
      = ')' :: " SETTINGS index_granularity = 8192".toList := by
    simp
  have comma : ", ".toList = [',', ' '] := by
    simp
  unfold compileCreate
  simp only [String.toList_append, String.toList_intercalate, comma, opening, closing,
    declarationsText, List.append_assoc, List.cons_append]

theorem toList_compileCreate {d : Dialect} {b : Blueprint} (ofPrefix : IsSingleName d.tablePrefix)
    (single : IsSingleName b.table)
    : ∃ more, (b.compileCreate d).toList = "create table if not exists ".toList
      ++ (Identifier.quoted (d.tablePrefix.toList ++ b.table.toList)
        ++ (" (".toList ++ (b.declarationsText d ++ ')' :: more))) := by
  refine ⟨" ENGINE = MergeTree() ORDER BY (".toList ++ (b.orderingKey.toList
    ++ ')' :: " SETTINGS index_granularity = 8192".toList), ?_⟩
  rw [toList_compileCreate_eq, String.toList_append, String.toList_append,
    toList_tableSql ofPrefix single, List.append_assoc, List.append_assoc]

/-- The declarations of a blueprint start with its own columns or with the added ones. -/
theorem declarationsText_cases (d : Dialect) (b : Blueprint)
    : (∃ c cs, b.columns = c :: cs
        ∧ b.declarationsText d = (c.sql d.escaping).toList ++ ColumnSpec.furtherText d.escaping cs)
      ∨ b.declarationsText d
        = addedKeyColumns.toList ++ ColumnSpec.furtherText d.escaping b.columns := by
  cases keyed : b.startsWithKey with
  | true =>
    left
    cases columns : b.columns with
    | nil => simp [startsWithKey, columns] at keyed
    | cons c cs =>
      refine ⟨c, cs, rfl, ?_⟩
      simp [declarationsText, declarations, keyed, columnsSql, columns, Text.intercalate_cons,
        ColumnSpec.furtherText, List.flatMap_map]
  | false =>
    right
    simp [declarationsText, declarations, keyed, columnsSql, Text.intercalate_cons,
      ColumnSpec.furtherText, List.flatMap_map]

/-- The columns are read off the declarations, as a quote cannot start the added ones. -/
theorem map_declaration_unique {d : Dialect} {b other : Blueprint} (single : b.HasSingleNames)
    (otherSingle : other.HasSingleNames) {r s : List Char}
    (same : b.declarationsText d ++ ')' :: r = other.declarationsText d ++ ')' :: s)
    : b.columns.map (·.declaration d.escaping) = other.columns.map (·.declaration d.escaping) := by
  have quoted {c : ColumnSpec} (single : IsSingleName c.name) {cs s : List Char}
      : (c.sql d.escaping).toList ++ cs ≠ addedKeyColumns.toList ++ s := by
    rw [ColumnSpec.toList_sql single]
    intro same
    cases (List.cons_eq_cons.1 same).1
  have further := ColumnSpec.endsColumn_furtherText d.escaping
  rcases b.declarationsText_cases d with ⟨c, cs, columns, text⟩ | text
  · have cSingle := single.columns
    rw [columns] at cSingle
    obtain ⟨cHere, cOthers⟩ := List.forall_mem_cons.1 cSingle
    rcases other.declarationsText_cases d with ⟨e, es, otherColumns, otherText⟩ | otherText
    · have eSingle := otherSingle.columns
      rw [otherColumns] at eSingle
      obtain ⟨eHere, eOthers⟩ := List.forall_mem_cons.1 eSingle
      rw [text, otherText, List.append_assoc, List.append_assoc] at same
      obtain ⟨first, rest⟩ :=
        ColumnSpec.declaration_unique cHere eHere (further cs r) (further es s) same
      rw [columns, otherColumns, List.map_cons, List.map_cons, first,
        ColumnSpec.map_declaration_unique cOthers eOthers rest]
    · rw [text, otherText, List.append_assoc, List.append_assoc] at same
      exact (quoted cHere same).elim
  · rcases other.declarationsText_cases d with ⟨e, es, otherColumns, otherText⟩ | otherText
    · have eHere := otherSingle.columns e (by simp [otherColumns])
      rw [text, otherText, List.append_assoc, List.append_assoc] at same
      exact (quoted eHere same.symm).elim
    · rw [text, otherText, List.append_assoc, List.append_assoc] at same
      exact ColumnSpec.map_declaration_unique single.columns otherSingle.columns
        (List.append_cancel_left same)

theorem map_sql_congr {e : Escaping} {cs ds : List ColumnSpec}
    (same : cs.map (·.declaration e) = ds.map (·.declaration e))
    : cs.map (·.sql e) = ds.map (·.sql e) := by
  induction cs generalizing ds with
  | nil =>
    obtain rfl : ds = [] := by simpa using same.symm
    rfl
  | cons c cs ih =>
    cases ds with
    | nil => cases same
    | cons d ds =>
      obtain ⟨here, others⟩ := List.cons_eq_cons.1 same
      rw [List.map_cons, List.map_cons, ColumnSpec.sql_congr here, ih others]

/-- Whether a blueprint starts with its key is seen from its declarations. -/
theorem startsWithKey_congr {e : Escaping} {b other : Blueprint}
    (same : b.columns.map (·.declaration e) = other.columns.map (·.declaration e))
    : b.startsWithKey = other.startsWithKey := by
  have keyed (b : Blueprint)
      : b.startsWithKey = (b.columns.map (·.declaration e)).head?.any (·.name = "id") := by
    rw [startsWithKey, List.head?_map, Option.any_map]
    rfl
  rw [keyed, keyed, same]

/-- Two texts that create tables are the same exactly if the tables have one name and the same columns: no
literal, type or name in a text can be taken for another column or for a part of one.
-/
theorem compileCreate_eq_iff {d : Dialect} {b other : Blueprint} (ofPrefix : IsSingleName d.tablePrefix)
    (single : b.HasSingleNames) (otherSingle : other.HasSingleNames)
    : b.compileCreate d = other.compileCreate d
      ↔ b.table = other.table
        ∧ b.columns.map (·.declaration d.escaping) = other.columns.map (·.declaration d.escaping) := by
  constructor
  · intro same
    obtain ⟨r, text⟩ := toList_compileCreate (b := b) ofPrefix single.table
    obtain ⟨s, otherText⟩ := toList_compileCreate (b := other) ofPrefix otherSingle.table
    have whole := congrArg String.toList same
    rw [text, otherText] at whole
    obtain ⟨name, rest⟩ := Identifier.quoted_unique (by simp) (by simp) (List.append_cancel_left whole)
    exact ⟨String.toList_inj.1 (List.append_cancel_left name),
      map_declaration_unique single otherSingle (List.append_cancel_left rest)⟩
  · rintro ⟨table, columns⟩
    have keyed := startsWithKey_congr columns
    unfold compileCreate
    rw [declarations, declarations, orderingKey, orderingKey, columnsSql, columnsSql, table, keyed,
      map_sql_congr columns]

/-- Two types of integers are declared by one text, and a word of an enumeration that looks like the end of
a word and another one is not taken for two.
-/
theorem compileCreate_eq_iff_events
    : let events (kind : ColumnType) : Blueprint :=
        { table := "events", columns := [.id, { name := "kind", type := kind, nullable := true }] }
      (events .integer).compileCreate {} = (events .bigInteger).compileCreate {}
        ∧ (events (.enumeration ["a", "b"])).compileCreate {}
          ≠ (events (.enumeration ["a' = 1, 'b"])).compileCreate {} := by
  intro events
  have single (kind : ColumnType) : (events kind).HasSingleNames := by
    refine ⟨show IsSingleName "events" by decide, ?_⟩
    simp only [events, List.forall_mem_cons]
    exact ⟨by decide, show IsSingleName "kind" by decide, by simp⟩
  have alone : IsSingleName ({} : Dialect).tablePrefix := by decide
  refine ⟨(compileCreate_eq_iff alone (single _) (single _)).2 ⟨rfl, rfl⟩, fun same => ?_⟩
  have columns := ((compileCreate_eq_iff alone (single _) (single _)).1 same).2
  exact absurd columns (by decide)

end Blueprint

end ColumnStore
