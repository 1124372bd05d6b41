import ColumnStore.Proofs.Connection.Dropping
import ColumnStore.Proofs.Schema.Introspecting

/-! A connection that has created a table asks the catalogue for it afterwards. The question is about the
created table exactly if its name is one part; a name with a database of its own is asked for elsewhere.
-/

namespace ColumnStore.Connection

open Identifier

variable {c : Connection}

-----------------------------------------------------------------------------------------
-- What is sent
-----------------------------------------------------------------------------------------

theorem head?_compileTableExists (d : Dialect) (name : String)
    : (d.compileTableExists name).toList.head? = some 'S' := by
  unfold Dialect.compileTableExists
  simp

theorem trimmed_compileTableExists (d : Dialect) (name : String)
    : Text.trimmed (d.compileTableExists name) = d.compileTableExists name := by
  refine Text.trimmed_of_ends (b := '"') (head?_compileTableExists d name) ?_ (by decide) (by decide)
  unfold Dialect.compileTableExists
  rw [String.toList_append, List.getLast?_append]
  simp

theorem trimmed_compileCreate (d : Dialect) (b : Blueprint)
    : Text.trimmed (b.compileCreate d) = b.compileCreate d := by
  unfold Blueprint.compileCreate
  refine Text.trimmed_of_ends (a := 'c') (b := '2') ?_ ?_ (by decide) (by decide)
  · simp
  · rw [String.toList_append, List.getLast?_append]
    simp

/-- No statement that creates a table or an index is blank. -/
theorem isEmpty_trimmed_of_mem_createStatements {d : Dialect} {b : Blueprint} {sql : String}
    (member : sql ∈ b.createStatements d)
    : (Text.trimmed sql).isEmpty = false := by
  have first : 'c' ∈ sql.toList := by
    rcases List.mem_cons.1 member with rfl | index
    · unfold Blueprint.compileCreate
      simp
    · obtain ⟨index, -, rfl⟩ := List.mem_map.1 index
      unfold Blueprint.compileIndex
      simp
  exact Text.isEmpty_trimmed first (by decide)

/-- A table is created with the statement for it, and its indexes after that. -/
theorem statements_createTable {b : Blueprint} {session later : Session}
    (idle : session.IsIdle c.config) {server : Http.Server} {log new : List Http.Exchange}
    (run : (c.createTable b).run session server log = ((.ok (), later), log ++ new))
    : later.IsIdle c.config
      ∧ ∃ indexes, Http.statements new = b.compileCreate c.dialect :: indexes := by
  obtain ⟨ended, result, sent, calm, goes, statements⟩ := run_executeAll
    (fun sql member => isEmpty_trimmed_of_mem_createStatements member) idle server log
  obtain ⟨ends, logs⟩ := Prod.mk.inj (run.symm.trans goes)
  obtain ⟨rfl, rfl⟩ := Prod.mk.inj ends
  obtain rfl := List.append_cancel_left logs
  refine ⟨calm, (b.indexes.map (b.compileIndex c.dialect)).map Text.trimmed, ?_⟩
  rw [statements rfl, Blueprint.createStatements, List.map_cons, trimmed_compileCreate]

/-- To look for a table is to send the query for it, and nothing else. -/
theorem statements_hasTable {name : String} {found : Bool} {session later : Session}
    (idle : session.IsIdle c.config) {server : Http.Server} {log new : List Http.Exchange}
    (run : (c.hasTable name).run session server log = ((.ok found, later), log ++ new))
    : Http.statements new = [c.dialect.compileTableExists name] := by
  obtain ⟨middle, result, sent, -, goes, way⟩ :=
    run_runSql (c.dialect.compileTableExists name) idle server log
  rw [trimmed_compileTableExists] at way
  rw [hasTable, run_bind, goes] at run
  cases result with
  | error e => cases run
  | ok rows =>
    obtain rfl := List.append_cancel_left (Prod.mk.inj run).2
    rcases way with ⟨blank, -⟩ | ⟨-, asked⟩
    · rw [String.isEmpty_iff] at blank
      have first := head?_compileTableExists c.dialect name
      simp [blank] at first
    · exact asked.of_ok.1

/-- A table is found if the answer to the query for it says so. -/
theorem run_hasTable_of_answers {endpoint : Endpoint} (reaches : c.Reaches endpoint)
    {server : Http.Server} (alive : ∀ past, server.Alive past endpoint) {name : String}
    {body : List UInt8} (answered : ∀ past,
      server.Answers past (c.request endpoint (c.dialect.compileTableExists name)) body)
    {found : Bool} (read : c.config.mode.rows body = .ok [[("exists", .bool found)]])
    {session : Session} (idle : session.IsIdle c.config) (log : List Http.Exchange)
    : ∃ later new, (c.hasTable name).run session server log = ((.ok found, later), log ++ new) := by
  have filled : (Text.trimmed (c.dialect.compileTableExists name)).isEmpty = false :=
    Text.isEmpty_trimmed (List.mem_of_head? (head?_compileTableExists c.dialect name)) (by decide)
  obtain ⟨new, direct, -⟩ := run_direct_of_answers reaches filled (fun _ => alive _)
    (by rw [trimmed_compileTableExists]; exact answered (log.map (·.request) ++ c.opening endpoint))
  obtain ⟨later, -, -, acts⟩ :=
    acts_runSql (c.dialect.compileTableExists name) session server log idle
  refine ⟨later, new, ?_⟩
  rw [hasTable, run_bind, acts, direct, read]
  rfl

-----------------------------------------------------------------------------------------
-- What is asked about a created table
-----------------------------------------------------------------------------------------

/-- What introspection asks about is a table's whole name in the configured database. It is the table that is
created, extended and dropped exactly if the name is one part: a name with a database of its own is created
there, and the query that follows its creation is about another place.
-/
theorem asks_changed_iff {b : Blueprint} (backslash : '\\' ∉ c.dialect.tablePrefix.toList)
    (plain : PlainName b.table.toList)
    : (∀ sql query, b.Changes c.dialect sql → c.dialect.Asks b.table query →
        askedPlace? query = some (c.dialect.storedPlace b.table)
        ∧ (changedPlace? c.dialect.database sql = askedPlace? query
          ↔ IsRestored c.dialect.tablePrefix.toList b.table.toList))
      ∧ (∀ database name : List Char, b.table.toList = database ++ '.' :: name →
        splitAlias? b.table.toList = none → '.' ∉ database ∧ database ≠ ['*'] →
        '.' ∉ name ∧ c.dialect.tablePrefix.toList ++ name ≠ ['*'] →
        ∀ sql, b.Changes c.dialect sql →
          changedPlace? c.dialect.database sql
            = some ⟨String.ofList database, String.ofList (c.dialect.tablePrefix.toList ++ name)⟩)
      ∧ (∀ {session middle later : Session} {server : Http.Server}
          {log created asked : List Http.Exchange} {found : Bool}, session.IsIdle c.config →
        (c.createTable b).run session server log = ((.ok (), middle), log ++ created) →
        (c.hasTable b.table).run middle server (log ++ created)
          = ((.ok found, later), log ++ created ++ asked) →
        (∃ indexes, Http.statements created = b.compileCreate c.dialect :: indexes)
          ∧ Http.statements asked = [c.dialect.compileTableExists b.table]
          ∧ (changedPlace? c.dialect.database (b.compileCreate c.dialect)
              = askedPlace? (c.dialect.compileTableExists b.table)
            ↔ IsRestored c.dialect.tablePrefix.toList b.table.toList)) := by
  refine ⟨?_, ?_, ?_⟩
  · intro sql query changes asks
    exact ⟨asks.askedPlace?, changedPlace?_eq_askedPlace?_iff backslash plain changes asks⟩
  · intro database name qualified single first second sql changes
    exact changes.changedPlace?_of_qualified backslash plain qualified single first second _
  · intro session middle later server log created asked found idle creates looks
    obtain ⟨calm, sent⟩ := statements_createTable idle creates
    exact ⟨sent, statements_hasTable calm looks,
      changedPlace?_eq_askedPlace?_iff backslash plain .create .tableExists⟩

-----------------------------------------------------------------------------------------
-- A store that holds one table
-----------------------------------------------------------------------------------------

/-- The body of the answer to a statement, where the store holds a table in one place alone. -/
def holdingBody (place : Place) (sql : String) : List UInt8 :=
  match askedPlace? sql with
  | none => []
  | some asked => Text.Utf8.encode (Row.wholeText [[("exists", .bool (asked = place))]])

/-- A table that is created with the key columns alone is looked for where introspection takes it to be. -/
theorem run_hasTable_holding (place : Place) (table : String)
    (apart : askedPlace? (({ table } : Blueprint).compileCreate prefixed.dialect) = none)
    : ∃ middle later created asked,
        (prefixed.createTable { table }).run {} (answering (holdingBody place)) []
          = ((.ok (), middle), [] ++ created)
        ∧ (prefixed.hasTable table).run middle (answering (holdingBody place)) ([] ++ created)
          = ((.ok (decide (prefixed.dialect.storedPlace table = place)), later),
            [] ++ created ++ asked) := by
  have alive (past : List Http.Request)
      : (answering (holdingBody place)).Alive past ledgerEndpoint := ⟨pong, rfl, pingFault?_pong⟩
  have idle : Session.IsIdle prefixed.config {} := .new _
  have creates : ∀ sql ∈ ({ table } : Blueprint).createStatements prefixed.dialect, ∀ past,
      (answering (holdingBody place)).Answers past
        (prefixed.request ledgerEndpoint (Text.trimmed sql)) [] := by
    intro sql member past
    obtain rfl : sql = ({ table } : Blueprint).compileCreate prefixed.dialect := by
      simpa [Blueprint.createStatements] using member
    refine answers_answering ?_ _ _ _
    rw [trimmed_compileCreate, holdingBody, apart]
  obtain ⟨middle, created, run, -⟩ := run_executeAll_of_answers reaches_prefixed
    (fun sql member => isEmpty_trimmed_of_mem_createStatements member) alive creates idle []
  have calm := (statements_createTable idle run).1
  have exact : Row.AreExact
      [[("exists", .bool (prefixed.dialect.storedPlace table = place))]] :=
    List.forall_mem_singleton.2
      (.object (List.nodup_singleton _) (List.forall_mem_singleton.2 (.bool _)))
  have told : holdingBody place (prefixed.dialect.compileTableExists table)
      = Text.Utf8.encode (Row.wholeText
        [[("exists", .bool (prefixed.dialect.storedPlace table = place))]]) := by
    rw [holdingBody, (Dialect.Asks.tableExists).askedPlace?]
  obtain ⟨later, asked, looks⟩ := run_hasTable_of_answers reaches_prefixed alive
    (fun past => answers_answering told _ _ past) (rows_wholeText exact) calm ([] ++ created)
  exact ⟨middle, later, created, asked, run, looks⟩

/-- A table with one part in its name is found in a store that holds it. -/
theorem asks_changed_iff_events
    : Session.IsIdle prefixed.config {}
      ∧ ∃ middle later created asked,
        (prefixed.createTable { table := "events" }).run {}
            (answering (holdingBody ⟨"default", "app_events"⟩)) [] = ((.ok (), middle), [] ++ created)
        ∧ (prefixed.hasTable "events").run middle
            (answering (holdingBody ⟨"default", "app_events"⟩)) ([] ++ created)
          = ((.ok true, later), [] ++ created ++ asked)
        ∧ (∃ indexes, Http.statements created
          = ({ table := "events" } : Blueprint).compileCreate prefixed.dialect :: indexes)
        ∧ Http.statements asked = [prefixed.dialect.compileTableExists "events"]
        ∧ changedPlace? "default" (({ table := "events" } : Blueprint).compileCreate prefixed.dialect)
          = askedPlace? (prefixed.dialect.compileTableExists "events") := by
  have idle : Session.IsIdle prefixed.config {} := .new _
  obtain ⟨middle, later, created, asked, creates, looks⟩ :=
    run_hasTable_holding ⟨"default", "app_events"⟩ "events" (by decide +kernel)
  have found : prefixed.dialect.storedPlace "events" = ⟨"default", "app_events"⟩ := by decide
  rw [found, decide_eq_true rfl] at looks
  obtain ⟨-, -, runs⟩ := asks_changed_iff (c := prefixed) (b := { table := "events" })
    (by decide) (by decide)
  obtain ⟨sent, queried, agree⟩ := runs idle creates looks
  exact ⟨idle, middle, later, created, asked, creates, looks, sent, queried, agree.2 (by decide)⟩

/-- A table that is created in a database of its own is not found in the store that holds it. -/
theorem not_found_created
    : ∃ middle later created asked,
        (prefixed.createTable { table := "other.events" }).run {}
            (answering (holdingBody ⟨"other", "app_events"⟩)) [] = ((.ok (), middle), [] ++ created)
        ∧ (prefixed.hasTable "other.events").run middle
            (answering (holdingBody ⟨"other", "app_events"⟩)) ([] ++ created)
          = ((.ok false, later), [] ++ created ++ asked)
        ∧ (∀ sql, ({ table := "other.events" } : Blueprint).Changes prefixed.dialect sql →
          changedPlace? prefixed.dialect.database sql = some ⟨"other", "app_events"⟩)
        ∧ ∀ query, prefixed.dialect.Asks "other.events" query →
          askedPlace? query = some ⟨"default", "app_other.events"⟩ := by
  obtain ⟨middle, later, created, asked, creates, looks⟩ :=
    run_hasTable_holding ⟨"other", "app_events"⟩ "other.events" (by decide +kernel)
  have missed : prefixed.dialect.storedPlace "other.events" ≠ ⟨"other", "app_events"⟩ := by decide
  rw [decide_eq_false missed] at looks
  refine ⟨middle, later, created, asked, creates, looks, ?_, ?_⟩
  · intro sql changes
    have qualified : "other.events".toList = "other".toList ++ '.' :: "events".toList := by decide
    exact changes.changedPlace?_of_qualified (by decide) (by decide) qualified (by decide)
      (by decide) (by decide) _
  · intro query asks
    exact asks.askedPlace?

end ColumnStore.Connection
