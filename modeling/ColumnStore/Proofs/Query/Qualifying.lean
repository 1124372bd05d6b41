import ColumnStore.Proofs.Identifier.Distinct
import ColumnStore.Proofs.Query.Names

/-! A column is qualified by the name of its table, without the prefix that the table gets. The prefix
reaches the tables of a query and nothing else, so a table without an alias and its columns are written with
one name only where the prefix is empty.
-/

namespace ColumnStore

namespace Identifier

-----------------------------------------------------------------------------------------
-- Names behind a dot
-----------------------------------------------------------------------------------------

/-- The separator of an alias does not start in front of a dot and end behind it. -/
theorem afterSeparator?_append_dot {a b : List Char} (single : afterSeparator? a = none)
    : afterSeparator? (a ++ '.' :: b) = none := by
  rw [Option.eq_none_iff_forall_ne_some]
  intro given found
  obtain ⟨c, blanks, x, s, e, more, shape, word, -⟩ := afterSeparator?_eq_some_iff.1 found
  have apart (behind : List Char) : a ≠ c :: blanks ++ x :: s :: e :: behind := fun start => by
    have aliased := afterSeparator?_eq_some_iff.2 ⟨c, blanks, x, s, e, behind, start, word, rfl⟩
    simp [single] at aliased
  have noDot : '.' ∉ c :: blanks ++ [x, s, e] := by
    obtain ⟨first, blank, letterA, letterS, last⟩ := word
    intro member
    simp only [List.cons_append, List.mem_cons, List.mem_append, List.not_mem_nil, or_false] at member
    rcases member with rfl | inside | rfl | rfl | rfl
    · exact absurd first (by decide)
    · exact absurd (blank _ inside) (by decide)
    · exact absurd letterA (by decide)
    · exact absurd letterS (by decide)
    · exact absurd last (by decide)
  have parted : a ++ '.' :: b = (c :: blanks ++ [x, s, e]) ++ more := by rw [shape]; simp
  rcases List.append_eq_append_iff.1 parted with ⟨rest, within, behind⟩ | ⟨rest, before, -⟩
  · cases rest with
    | nil => exact apart [] (by simpa using within.symm)
    | cons d rest =>
      obtain ⟨rfl, -⟩ := List.cons_eq_cons.1 behind
      exact noDot (within ▸ by simp)
  · exact apart rest (by simpa using before)

/-- Two names without an alias have none with a dot between them, by list induction. -/
theorem splitAlias?_append_dot {a b : List Char} (left : splitAlias? a = none)
    (right : splitAlias? b = none)
    : splitAlias? (a ++ '.' :: b) = none := by
  induction a with
  | nil =>
    have here : afterSeparator? ('.' :: b) = none := afterSeparator?_append_dot (a := []) rfl
    rw [List.nil_append, splitAlias?, here, right]
    rfl
  | cons c rest ih =>
    rw [splitAlias?] at left
    cases here : afterSeparator? (c :: rest) with
    | some given => simp [here] at left
    | none =>
      rw [here, Option.map_eq_none_iff] at left
      have later : afterSeparator? (c :: (rest ++ '.' :: b)) = none := afterSeparator?_append_dot here
      rw [List.cons_append, splitAlias?, later, ih left]
      rfl

/-- A function call is told from what is behind the last dot. -/
theorem isExpression_append_dot (a b : List Char)
    : isExpression (a ++ '.' :: b) = isExpression b := by
  by_cases blank : Text.trimEnd b = []
  · have solid : Text.isBlank '.' = false := by decide
    have dot : Text.trimEnd ('.' :: b) = ['.'] := by
      have none : b.reverse.dropWhile Text.isBlank = [] := List.reverse_eq_nil_iff.1 blank
      simp [Text.trimEnd, List.dropWhile_append, none, solid]
    have whole : Text.trimEnd (a ++ '.' :: b) = a ++ ['.'] := by
      rw [Text.trimEnd_append (by simp [dot]), dot]
    simp [isExpression, whole, blank]
  · have whole : Text.trimEnd (a ++ '.' :: b) = (a ++ ['.']) ++ Text.trimEnd b := by
      rw [List.append_cons, Text.trimEnd_append blank]
    obtain ⟨last, ends⟩ := Option.isSome_iff_exists.1 (List.getLast?_isSome.2 blank)
    rw [isExpression, isExpression, whole, List.getLast?_append, ends, Option.some_or]

theorem IsSegmented.append_dot {a b : List Char} (left : IsSegmented a) (right : IsSegmented b)
    : IsSegmented (a ++ '.' :: b) :=
  ⟨(isExpression_append_dot a b).trans right.call, splitAlias?_append_dot left.single right.single⟩

theorem dotted_append_dot (a b : List Char)
    : dotted (a ++ '.' :: b) = dotted a ++ '.' :: dotted b := by
  have parts := dots_append (List.splitOn_ne_nil '.' a) (List.splitOn_ne_nil '.' b)
  rwa [← List.splitOn_append_cons_self] at parts

/-- A name that gives a table an alias of one segment. -/
structure GivesAlias (name base given : List Char) : Prop where
  call : isExpression name = false
  found : splitAlias? name = some (base, given)
  alone : IsSegmented given
  dot : '.' ∉ given

end Identifier

open Identifier

/-- A qualified column is written as what qualifies it and the column, with a dot between. -/
theorem columnSql_append_dot {t c : String} (table : IsSegmented t.toList) (own : IsSegmented c.toList)
    : columnSql (t ++ "." ++ c) = columnSql t ++ "." ++ columnSql c := by
  have name : (t ++ "." ++ c).toList = t.toList ++ '.' :: c.toList := by simp
  rw [columnSql, name, (table.append_dot own).column_eq, dotted_append_dot, ← table.column_eq,
    ← own.column_eq, List.append_cons, String.ofList_append, String.ofList_append]
  rfl

/-- A table is written as a column of its name exactly if the prefix is empty. -/
theorem tableSql_eq_columnSql_iff {t : String} (table : IsSegmented t.toList)
    (database : HasQuotedDatabase t.toList) {d : Dialect}
    : d.tableSql t = columnSql t ↔ d.tablePrefix = "" := by
  obtain ⟨front, last, parts, written⟩ := database.exists_parts
  rw [d.tableSql_of_isSegmented table, columnSql_of_isSegmented table, String.ofList_inj, written,
    Spelling.ofColumn, parts]
  constructor
  · intro same
    have segments : front ++ [d.tablePrefix.toList ++ last] = front ++ [last] :=
      dots_injective (by simp) (by simp) same
    simpa using segments
  · intro none
    rw [none]
    rfl

/-- An alias is written behind its table as a column of that name, whatever the prefix. -/
theorem tableSql_of_givesAlias {s base given : String}
    (gives : GivesAlias s.toList base.toList given.toList) (d : Dialect)
    : d.tableSql s = d.tableSql base ++ " as " ++ columnSql given := by
  rw [Dialect.tableSql, table, if_neg (by simp [gives.call])]
  split
  · rename_i b g split
    obtain ⟨rfl, rfl⟩ : b = base.toList ∧ g = given.toList := by simpa [split] using gives.found
    rw [withAlias, ← gives.alone.column_eq_segment gives.dot, String.ofList_append, String.ofList_append]
    rfl
  · rename_i single
    exact absurd (single.symm.trans gives.found) (by simp)

-----------------------------------------------------------------------------------------
-- Tables and columns of a query
-----------------------------------------------------------------------------------------

/-- The table as the text that stands for it. -/
def TableRef.resolved (d : Dialect) (table : TableRef) : TableRef :=
  .raw (table.sql d)

def Join.resolved (d : Dialect) (join : Join) : Join :=
  { join with table := join.table.resolved d }

namespace Query

/-- The query with each of its tables as the text that stands for it, and all else as it is. -/
def resolved (d : Dialect) (q : Query) : Query :=
  { q with table := q.table.resolved d, joins := q.joins.map (Join.resolved d) }

variable {d other : Dialect} {q : Query}

theorem compileJoins_resolved (joins : List Join)
    : compileJoins other (joins.map (Join.resolved d)) = compileJoins d joins := by
  induction joins with
  | nil => rfl
  | cons join rest ih =>
    rw [List.map_cons, compileJoins, compileJoins, ih]
    rfl

theorem compileSource_resolved
    : (q.resolved d).compileSource other = q.compileSource d := by
  rw [compileSource, compileSource, resolved, compileJoins_resolved]

/-- What a query compiles to has the prefix in its tables alone. -/
theorem compiles_resolved_iff {values : InsertValues} {record : Record} {s : Statement}
    : (q.resolved d).Compiles other values record s ↔ q.Compiles d values record s := by
  have select : (q.resolved d).compileSelect other = q.compileSelect d := by
    rw [compileSelect, compileSelect, compileSource_resolved]
    rfl
  have count : (q.resolved d).compileCount other = q.compileCount d := by
    rw [compileCount, compileCount, compileSource_resolved]
    rfl
  have insert : (q.resolved d).compileInsert other values = q.compileInsert d values := rfl
  have update : (q.resolved d).compileUpdate other record = q.compileUpdate d record := by
    rw [compileUpdate, compileUpdate, resolved, List.isEmpty_map]
    rfl
  have delete : (q.resolved d).compileDelete other = q.compileDelete d := by
    rw [compileDelete, compileDelete, resolved, List.isEmpty_map]
    rfl
  constructor
  · rintro (ok | ok | - | ok | ok)
    · exact .select (select ▸ ok)
    · exact .count (count ▸ ok)
    · exact insert ▸ .insert
    · exact .update (update ▸ ok)
    · exact .delete (delete ▸ ok)
  · rintro (ok | ok | - | ok | ok)
    · exact .select (select ▸ ok)
    · exact .count (count ▸ ok)
    · exact insert ▸ .insert
    · exact .update (update ▸ ok)
    · exact .delete (delete ▸ ok)

end Query

/-- A column that is qualified by its table is written as the table with the column behind it exactly if the
prefix is empty, and one that is qualified by an alias always as the alias with the column behind it. That
is so wherever it stands in a query, since the prefix reaches the tables alone.
-/
theorem columnSql_qualified_iff {t c : String} (table : IsSegmented t.toList)
    (database : HasQuotedDatabase t.toList) (own : IsSegmented c.toList) (d : Dialect)
    : (columnSql (t ++ "." ++ c) = d.tableSql t ++ "." ++ columnSql c ↔ d.tablePrefix = "")
      ∧ (∀ s given : String, GivesAlias s.toList t.toList given.toList →
        d.tableSql s = d.tableSql t ++ " as " ++ columnSql given
        ∧ columnSql (given ++ "." ++ c) = columnSql given ++ "." ++ columnSql c)
      ∧ ∀ (q : Query) (values : InsertValues) (record : Record) (s : Statement),
        q.Compiles d values record s ↔ (q.resolved d).Compiles {} values record s := by
  refine ⟨?_, fun s given gives => ?_, fun q values record s => Query.compiles_resolved_iff.symm⟩
  · rw [columnSql_append_dot table own, String.append_left_inj, String.append_left_inj, eq_comm]
    exact tableSql_eq_columnSql_iff table database
  · exact ⟨tableSql_of_givesAlias gives d, columnSql_append_dot gives.alone own⟩

/-- A table in a database of its own, with a prefix, without one, and with an alias. -/
theorem columnSql_qualified_iff_shop
    : IsSegmented "shop.users".toList ∧ HasQuotedDatabase "shop.users".toList
      ∧ IsSegmented "id".toList
      ∧ columnSql ("shop.users" ++ "." ++ "id")
        ≠ ({ tablePrefix := "app_" } : Dialect).tableSql "shop.users" ++ "." ++ columnSql "id"
      ∧ columnSql ("shop.users" ++ "." ++ "id")
        = ({} : Dialect).tableSql "shop.users" ++ "." ++ columnSql "id"
      ∧ ({ tablePrefix := "app_" } : Dialect).tableSql "shop.users as u"
        = ({ tablePrefix := "app_" } : Dialect).tableSql "shop.users" ++ " as " ++ columnSql "u"
      ∧ columnSql ("u" ++ "." ++ "id") = columnSql "u" ++ "." ++ columnSql "id" := by
  have table : IsSegmented "shop.users".toList := by decide
  have database : HasQuotedDatabase "shop.users".toList := by decide
  have own : IsSegmented "id".toList := by decide
  have gives : GivesAlias "shop.users as u".toList "shop.users".toList "u".toList :=
    ⟨by decide, by decide, by decide, by decide⟩
  obtain ⟨prefixed, aliased, -⟩ := columnSql_qualified_iff table database own { tablePrefix := "app_" }
  obtain ⟨bare, -⟩ := columnSql_qualified_iff table database own {}
  exact ⟨table, database, own, prefixed.not.2 (by decide), bare.2 rfl, aliased _ _ gives⟩

/-- A join of two tables with a prefix asks for the columns of two others. -/
theorem not_qualified_users
    : columnSql ("users" ++ "." ++ "id")
        ≠ ({ tablePrefix := "app_" } : Dialect).tableSql "users" ++ "." ++ columnSql "id"
      ∧ ((({ table := .name "users", columns := ["users.id"] } : Query).joinOn (.name "posts") "users.id"
            .eq "posts.user_id").compileSelect { tablePrefix := "app_" }).map Statement.template
        = .ok ("select \"users\".\"id\" from \"app_users\" inner join \"app_posts\" "
          ++ "on \"users\".\"id\" = \"posts\".\"user_id\"") := by
  have id : columnSql "users.id" = "\"users\".\"id\"" :=
    (columnSql_of_isSegmented (by decide)).trans (by decide)
  have user : columnSql "posts.user_id" = "\"posts\".\"user_id\"" :=
    (columnSql_of_isSegmented (by decide)).trans (by decide)
  have users : ({ tablePrefix := "app_" } : Dialect).tableSql "users" = "\"app_users\"" :=
    (Dialect.tableSql_of_isSegmented _ (by decide)).trans (by decide)
  have posts : ({ tablePrefix := "app_" } : Dialect).tableSql "posts" = "\"app_posts\"" :=
    (Dialect.tableSql_of_isSegmented _ (by decide)).trans (by decide)
  constructor
  · have own : columnSql "id" = "\"id\"" := (columnSql_of_isSegmented (by decide)).trans (by decide)
    have name : "users" ++ "." ++ "id" = "users.id" := by decide
    rw [name, id, users, own]
    decide
  · simp only [Query.joinOn, Query.addJoin, Query.compileSelect, Query.selectList, Query.compileSource,
      Query.compileJoins, Query.pagingClause, Join.compile, TableRef.fromClause, TableRef.sql,
      columnListSql, Condition.ofList, Condition.ofPredicate, Condition.linked, Condition.clause, users,
      posts, List.nil_append, List.map_cons, List.map_nil, id, user]
    rfl

end ColumnStore
