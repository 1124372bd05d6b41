import ColumnStore.Proofs.Query.Weaving
import ColumnStore.Proofs.Sql.Recovery

/-! A compiled statement is recovered from its template and its values. Question marks in names are
kept within quotes, and raw texts must not leave a quotation or a comment open.
-/

namespace ColumnStore

open Lexical Statement

/-- A raw text that ends in code when it is scanned alone does so with its values in their places. -/
theorem Statement.rawFits_of_inCode {raw : String × List Value}
    (h : (State.code.run raw.1.toList).inCode)
    : RawFits EndsInCode raw := by
  intro s ok
  have proper : (State.code.run raw.1.toList).IsProper := State.IsProper.run (s := .code) trivial _
  exact ⟨_, ⟨proper, h⟩, foldlM_pass_pushRaw ok⟩

namespace Query

/-- A compiled statement is recovered: its template, read as a raw text with its values, gives the
statement back. The raw texts of the query end outside every quotation and comment.
-/
theorem pushRaw_template_of_compiles {d : Dialect} {q : Query} {values : InsertValues}
    {record : Record} {s : Statement} (h : q.HasPlainNames d)
    (raws : ∀ raw ∈ q.raws, (State.code.run raw.1.toList).inCode)
    (inserted : ∀ row ∈ values.batch, ∀ name ∈ row.columns, PlainName name.toList)
    (updated : ∀ name ∈ record.columns, PlainName name.toList)
    (compiles : q.Compiles d values record s)
    : Statement.empty.pushRaw s.template s.params = .ok s := by
  have woven : s.IsWoven EndsInCode := isWoven_of_compiles h
    (fun raw member => rawFits_of_inCode (raws raw member)) inserted updated compiles
  exact woven.pushRaw_template

/-- A query whose names, raw texts and values hold question marks, and whose raw texts hold
quotations and a comment.
-/
def questionableQuery : Query where
  table := .name "events? as \"e\""
  columns := ["why?", "?"]
  wheres := [
    (.and, .basic "na?me" .eq (.string "?")),
    (.or, .nested [
      (.and, .raw "a = ? and b = '?' -- or?\n and c in (?, ?)" [.int 1, .string "?", .int 3]),
      (.or, .raw "d = '?'''" [])])]

/-- The questionable query compiles to a statement that is recovered from its template. -/
theorem pushRaw_template_questionableQuery
    : questionableQuery.HasPlainNames { tablePrefix := "p?_" }
      ∧ (∀ raw ∈ questionableQuery.raws, (State.code.run raw.1.toList).inCode)
      ∧ ∃ s,
          questionableQuery.compileSelect { tablePrefix := "p?_" } = .ok s
          ∧ Statement.empty.pushRaw s.template s.params = .ok s := by
  have plain : questionableQuery.HasPlainNames { tablePrefix := "p?_" } := by
    constructor <;> decide
  have raws : ∀ raw ∈ questionableQuery.raws, (State.code.run raw.1.toList).inCode := by
    simp [Query.raws, Condition.raws, Predicate.raws, questionableQuery]
    decide
  refine ⟨plain, raws, _, rfl, ?_⟩
  exact @pushRaw_template_of_compiles _ _ (.many []) .empty _ plain raws (by decide) (by decide)
    (.select rfl)

end Query

end ColumnStore
