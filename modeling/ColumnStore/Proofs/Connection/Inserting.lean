import ColumnStore.Proofs.Connection.Asking
import ColumnStore.Proofs.Query.Insertion
import ColumnStore.Proofs.Sql.Symbols
import ColumnStore.Proofs.Text.Trimming

/-! A batch insert puts every value under its own column. The records are numbered from the count that
the server gives, and what is sent then is the insertion of the numbered records.
-/

namespace ColumnStore

namespace Insertion

/-- An insertion starts with its keyword. -/
theorem head?_render (c : Connection) (table : String) (i : Insertion)
    : (c.render (i.statement table)).toList.head? = some 'i' := by
  refine Statement.head?_write ?_
  rw [statement, Statement.symbols_append]
  refine List.IsPrefix.trans ?_ (List.prefix_append _ _)
  simp [Statement.textSymbols]

theorem isEmpty_trimmed_render (c : Connection) (table : String) (i : Insertion)
    : (Text.trimmed (c.render (i.statement table))).isEmpty = false :=
  Text.isEmpty_trimmed (List.mem_of_mem_head? (head?_render c table i)) (by decide)

/-- An insertion with a row is sent as it is written: there are no blanks at its ends. -/
theorem trimmed_render (c : Connection) (table : String) {i : Insertion} (rows : i.rows ≠ [])
    : Text.trimmed (c.render (i.statement table)) = c.render (i.statement table) := by
  obtain ⟨last, ends⟩ : ∃ last, i.rows.getLast? = some last :=
    Option.isSome_iff_exists.1 (by simpa using rows)
  have closed : [.char ')'] <:+ (i.statement table).symbols := by
    have row_ends : [.char ')'] <:+ (row last).symbols := by
      rw [row, Statement.symbols_append]
      exact List.suffix_append _ _
    have joined : (row last).symbols <:+ (Statement.joined ", " (i.rows.map row)).symbols :=
      Statement.symbols_joined_suffix (by rw [List.getLast?_map, ends]; rfl)
    rw [statement, Statement.symbols_append]
    exact (row_ends.trans joined).trans (List.suffix_append _ _)
  exact Text.trimmed_of_ends (head?_render c table i) (Statement.getLast?_write closed) (by decide)
    (by decide)

end Insertion

-----------------------------------------------------------------------------------------
-- Inserts
-----------------------------------------------------------------------------------------

namespace Connection

variable {c : Connection}

/-- An insert with records goes on from the count with the insertion of the numbered records. -/
theorem run_insert {q : Query} {values : InsertValues} {session counted : Session}
    {server : Http.Server} {log asked : List Http.Exchange} {base : UInt64}
    (filled : values.ordered ≠ [])
    (answered : (c.count q).run session server log = ((.ok base, counted), asked))
    : (c.insert q values).run session server log
      = (c.execute (c.render ((Insertion.ofRecords (Numbering.stamp c.numberingColumn base
          values.ordered)).statement (q.table.sql c.dialect)))).run counted server asked := by
  have present : values.ordered.isEmpty = false := by simpa using filled
  have goes : c.insert q values = c.count q >>= fun base =>
      c.execute (c.render (q.compileInsert c.dialect (.many
        (Numbering.stamp c.numberingColumn base values.ordered)))) := by
    unfold insert
    exact if_neg (by simp [present])
  obtain ⟨first, rest, shape⟩ := List.exists_cons_of_ne_nil filled
  have head : (Numbering.stamp c.numberingColumn base values.ordered).head?
      = some (first.prepend c.numberingColumn (.uint (base + UInt64.ofNat 0 + 1))) := by
    rw [List.head?_eq_getElem?, Numbering.getElem?_stamp, shape]
    rfl
  rw [goes, run_bind, answered, ← Insertion.compileInsert_eq c.dialect q head rfl]

/-- An insertion with a row is sent once and as it is written, or withheld. -/
theorem execute_insertion {session : Session} (idle : session.IsIdle c.config) (table : String)
    {i : Insertion} (rows : i.rows ≠ []) (server : Http.Server) (log : List Http.Exchange)
    : ∃ new, ((c.execute (c.render (i.statement table))).run session server log).2 = log ++ new
      ∧ c.SendsOnce server (log.map (·.request)) (c.render (i.statement table))
        ((c.execute (c.render (i.statement table))).run session server log).1.1 new := by
  obtain ⟨later, result, new, -, run, sent⟩ := run_execute (Insertion.trimmed_render c table rows)
    (Insertion.isEmpty_trimmed_render c table i) idle server log
  rw [run]
  exact ⟨new, rfl, sent⟩

theorem isIdle_of_count {q : Query} {session counted : Session} (idle : session.IsIdle c.config)
    {server : Http.Server} {log asked : List Http.Exchange} {result : Except Error UInt64}
    (answered : (c.count q).run session server log = ((result, counted), asked))
    : counted.IsIdle c.config := by
  obtain ⟨later, still, -, run⟩ := acts_count q session server log idle
  obtain rfl : counted = later := congrArg (·.1.2) (answered.symm.trans run)
  exact still

/-- A batch insert puts every value under its own column. What is sent after the count is the insertion
of the numbered records, unless no request can go out for it or the server answers the ping before it
badly.
-/
theorem insert_aligns {q : Query} {records : List Record} {session counted : Session}
    {server : Http.Server} {log asked : List Http.Exchange} {base : UInt64}
    (filled : records ≠ [])
    (alike : ∀ r ∈ records, ∀ s ∈ records, ∀ column, column ≠ c.numberingColumn →
      (column ∈ r.columns ↔ column ∈ s.columns))
    (answered : (c.count q).run session server log = ((.ok base, counted), asked))
    (room : base.toNat + records.length < UInt64.size)
    : ∃ i : Insertion, i.Aligns c.numberingColumn base.toNat records
      ∧ (c.insert q (.many records)).run session server log
        = (c.execute (c.render (i.statement (q.table.sql c.dialect)))).run counted server asked
      ∧ (session.IsIdle c.config →
          ∃ new, ((c.insert q (.many records)).run session server log).2 = asked ++ new
            ∧ c.SendsOnce server (asked.map (·.request))
              (c.render (i.statement (q.table.sql c.dialect)))
              ((c.insert q (.many records)).run session server log).1.1 new) := by
  have present : (InsertValues.many records).ordered ≠ [] := by
    simpa [InsertValues.ordered] using filled
  have aligned := Insertion.aligns_stamp filled alike room
  have inserted := run_insert present answered
  refine ⟨_, aligned, inserted, fun idle => ?_⟩
  rw [inserted]
  refine execute_insertion (isIdle_of_count idle answered) _ ?_ server asked
  rw [← List.length_pos_iff]
  exact aligned.rows ▸ List.length_pos_iff.2 filled

/-- Two records with the same columns in different orders, one of them with an id of its own. -/
def mixedRecords : List Record :=
  [.ofList [("name", .string "new"), ("age", .int 3)],
    .ofList [("age", .null), ("id", .uint 9), ("name", .string "old")]]

/-- A server whose tables always have three rows. -/
def threeRows : Http.Server := fun _ request =>
  .response (match request.method with
    | .get => pong
    | .post => { status := 200, body := Row.countAnswer 3 })

theorem alive_threeRows (past : List Http.Request)
    : threeRows.Alive past ledgerEndpoint :=
  ⟨pong, rfl, pingFault?_pong⟩

def users : Query where
  table := .name "users"

/-- Behind three rows they come into one order of columns, the first under the number 4 and the second
under its own id, and the insertion is sent.
-/
theorem insert_aligns_mixedRecords
    : mixedRecords ≠ []
      ∧ (∀ r ∈ mixedRecords, ∀ s ∈ mixedRecords, ∀ column, column ≠ ledger.numberingColumn →
        (column ∈ r.columns ↔ column ∈ s.columns))
      ∧ (UInt64.ofNat 3).toNat + mixedRecords.length < UInt64.size
      ∧ ∃ counted asked,
        (ledger.count users).run {} threeRows [] = ((.ok (UInt64.ofNat 3), counted), asked)
        ∧ ∃ i : Insertion, i.Aligns ledger.numberingColumn (UInt64.ofNat 3).toNat mixedRecords
          ∧ (ledger.insert users (.many mixedRecords)).run {} threeRows []
            = (ledger.execute (ledger.render (i.statement (users.table.sql ledger.dialect)))).run
                counted threeRows asked
          ∧ ∃ new, ((ledger.insert users (.many mixedRecords)).run {} threeRows []).2 = asked ++ new
            ∧ Http.statements new
              = [ledger.render (i.statement (users.table.sql ledger.dialect))] := by
  have filled : mixedRecords ≠ [] := by simp [mixedRecords]
  have alike : ∀ r ∈ mixedRecords, ∀ s ∈ mixedRecords, ∀ column, column ≠ ledger.numberingColumn →
      (column ∈ r.columns ↔ column ∈ s.columns) := by
    have listed : ∀ r ∈ mixedRecords, ∀ column, column ≠ ledger.numberingColumn →
        (column ∈ r.columns ↔ column = "name" ∨ column = "age") := by
      intro r member column other
      have numbering : ledger.numberingColumn = "id" := rfl
      rw [numbering] at other
      rcases List.mem_pair.1 member with rfl | rfl
      · have columns : Record.columns (.ofList [("name", .string "new"), ("age", .int 3)])
            = ["name", "age"] := rfl
        simp [columns]
      · have columns : Record.columns
            (.ofList [("age", .null), ("id", .uint 9), ("name", .string "old")])
            = ["age", "id", "name"] := rfl
        simp [columns, other, or_comm]
    intro r one s two column other
    rw [listed r one column other, listed s two column other]
  have room : (UInt64.ofNat 3).toNat + mixedRecords.length < UInt64.size := by decide
  have counts : threeRows.Answers
      (([] : List Http.Exchange).map (·.request) ++ ledger.opening ledgerEndpoint)
      (ledger.request ledgerEndpoint (countText (users.table.sql ledger.dialect)))
      (Row.countAnswer 3) :=
    ⟨{ status := 200, body := Row.countAnswer 3 }, rfl, rfl, rfl, rfl, rfl⟩
  obtain ⟨counted, asked, -, answered, -⟩ := run_count_of_answers reaches_ledger
    (.new _) rfl rfl (fun _ => alive_threeRows _) counts (Row.countBody_countAnswer 3) (by decide)
  obtain ⟨i, aligned, inserted, sends⟩ := insert_aligns filled alike answered room
  obtain ⟨new, log_eq, sent⟩ := sends (.new _)
  exact ⟨filled, alike, room, counted, _, answered, i, aligned, inserted, new, log_eq,
    sent.sent reaches_ledger (alive_threeRows _)⟩

end Connection

end ColumnStore
