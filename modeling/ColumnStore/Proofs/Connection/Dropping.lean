import ColumnStore.Proofs.Connection.Operations
import ColumnStore.Proofs.Identifier.Restoring
import ColumnStore.Proofs.Row.Agreement

/-! To drop all tables is to list them and to drop each one that carries the prefix, in their order. What
is sent names the listed table itself only if its name is one part without the prefix.
-/

namespace ColumnStore.Connection

variable {c : Connection}

-----------------------------------------------------------------------------------------
-- What is sent for a listed name
-----------------------------------------------------------------------------------------

/-- The listed names that carry the table prefix. -/
def carried (c : Connection) (rows : List Row) : List String :=
  (rows.map fun row => (TableInfo.ofRow row).name).filter fun name =>
    c.dialect.tablePrefix.toList.isPrefixOf name.toList

/-- A listed name without the prefix. -/
def ownPart (c : Connection) (listed : String) : List Char :=
  listed.toList.drop c.dialect.tablePrefix.toList.length

/-- The statement that drops a listed table, as it is sent. -/
def dropText (c : Connection) (listed : String) : String :=
  Text.trimmed (c.dialect.compileDropIfExists (String.ofList (c.ownPart listed)))

/-- A statement that drops one table of the connection's own database: its target is one quoted name,
without a qualifier, that is read as the table's name.
-/
def Drops (sql name : String) : Prop :=
  ∃ target, sql.toList = "drop table if exists ".toList ++ target
    ∧ Identifier.unquoted? target = some name.toList

theorem toList_compileDropIfExists (d : Dialect) (name : String)
    : (d.compileDropIfExists name).toList
      = "drop table if exists ".toList ++ Identifier.table d.tablePrefix.toList name.toList := by
  have target : (d.tableSql name).toList = Identifier.table d.tablePrefix.toList name.toList :=
    String.toList_ofList
  rw [← target]
  exact String.toList_append

theorem toList_dropText (c : Connection) (listed : String)
    : (c.dropText listed).toList
      = "drop table if exists ".toList
        ++ Text.trimEnd (Identifier.table c.dialect.tablePrefix.toList (c.ownPart listed)) := by
  have target := Identifier.trimEnd_table_ne_nil c.dialect.tablePrefix.toList (c.ownPart listed)
  have first (cs : List Char) : ("drop table if exists ".toList ++ cs).head? = some 'd' := by
    rw [List.head?_append]
    rfl
  rw [dropText, Text.toList_trimmed, toList_compileDropIfExists,
    String.toList_ofList (l := c.ownPart listed), Text.trim_of_head? (first _) (by decide),
    Text.trimEnd_append target]

/-- What is sent for a listed name drops the listed table exactly if the name is restored. -/
theorem drops_dropText_iff {listed : String}
    (carries : c.dialect.tablePrefix.toList.isPrefixOf listed.toList)
    : Drops (c.dropText listed) listed
      ↔ Identifier.IsRestored c.dialect.tablePrefix.toList (c.ownPart listed) := by
  obtain ⟨own, whole⟩ := List.isPrefixOf_iff_prefix.1 carries
  have parts : c.ownPart listed = own := by rw [ownPart, ← whole, List.drop_left]
  rw [Drops, toList_dropText, parts, ← Identifier.trimEnd_table_eq_quoted, whole,
    ← Identifier.unquoted?_eq_some]
  constructor
  · rintro ⟨target, same, read⟩
    rwa [List.append_cancel_left same]
  · exact fun read => ⟨_, rfl, read⟩

-----------------------------------------------------------------------------------------
-- What is sent in a run that succeeds
-----------------------------------------------------------------------------------------

/-- Statements that all succeed are all sent, one after another, by induction on them. -/
theorem run_executeAll {statements : List String}
    (filled : ∀ sql ∈ statements, (Text.trimmed sql).isEmpty = false) {session : Session}
    (idle : session.IsIdle c.config) (server : Http.Server) (log : List Http.Exchange)
    : ∃ later result new, later.IsIdle c.config
      ∧ (c.executeAll statements).run session server log = ((result, later), log ++ new)
      ∧ (result = .ok () → Http.statements new = statements.map Text.trimmed) := by
  induction statements generalizing session log with
  | nil => exact ⟨session, .ok (), [], idle, by rw [List.append_nil]; rfl, fun _ => rfl⟩
  | cons sql rest ih =>
    have visible := filled sql (by simp)
    obtain ⟨middle, outcome, new, calm, run, ⟨blank, -⟩ | ⟨-, asked⟩⟩ :=
      run_runSql sql idle server log
    · cases visible.symm.trans blank
    cases outcome with
    | error e =>
      refine ⟨middle, .error e, new, calm, ?_, nofun⟩
      rw [executeAll, execute, run_bind, run_bind, run]
    | ok rows =>
      obtain ⟨later, result, more, still, goes, sent⟩ :=
        ih (fun other known => filled other (List.mem_cons_of_mem sql known)) calm (log ++ new)
      refine ⟨later, result, new ++ more, still, ?_, ?_⟩
      · rw [executeAll, execute, run_bind, run_bind, run, ← List.append_assoc]
        exact goes
      · intro succeeded
        rw [Http.statements_append, asked.of_ok.1, sent succeeded]
        rfl

/-- The statement that lists all tables, as it is sent. -/
def listText (c : Connection) : String :=
  Text.trimmed c.dialect.compileTables

theorem head?_compileTables (d : Dialect)
    : d.compileTables.toList.head? = some 'S' := by
  have shape : d.compileTables.toList
      = ("SELECT name, database AS schema, total_bytes AS size, comment AS comments"
          ++ " FROM system.tables WHERE database = ").toList
        ++ (d.escaping.quoteText d.database).toList := String.toList_append
  rw [shape, List.head?_append]
  rfl

theorem isEmpty_listText (c : Connection)
    : c.listText.isEmpty = false :=
  Text.isEmpty_trimmed (List.mem_of_mem_head? (head?_compileTables c.dialect)) (by decide)

theorem dropText_ne_listText (c : Connection) (listed : String)
    : c.dropText listed ≠ c.listText := by
  intro same
  have lists := Text.head?_trimmed (head?_compileTables c.dialect) (by decide)
  have drops : (c.dropText listed).toList.head? = some 'd' := by
    rw [toList_dropText, List.head?_append]
    rfl
  rw [same, listText, lists] at drops
  simp at drops

theorem isEmpty_trimmed_drop (d : Dialect) (name : String)
    : (Text.trimmed (d.compileDropIfExists name)).isEmpty = false := by
  refine Text.isEmpty_trimmed (c := 'd') ?_ (by decide)
  rw [toList_compileDropIfExists]
  exact List.mem_append_left _ (by decide)

/-- The names that are dropped are the listed ones that carry the prefix, without it. -/
theorem filterMap_ownName? (c : Connection) (rows : List Row)
    : (rows.map TableInfo.ofRow).filterMap (fun table => c.dialect.ownName? table.name)
      = (c.carried rows).map fun name => String.ofList (c.ownPart name) := by
  induction rows with
  | nil => rfl
  | cons row rest ih =>
    rw [List.map_cons, List.filterMap_cons, ih, carried, carried, List.map_cons, List.filter_cons]
    by_cases carries : c.dialect.tablePrefix.toList.isPrefixOf (TableInfo.ofRow row).name.toList
    · rw [Dialect.ownName?, if_pos carries, if_pos carries]
      rfl
    · rw [Dialect.ownName?, if_neg carries, if_neg carries]

/-- The statements that drop the listed tables with the prefix. -/
def dropStatements (c : Connection) (rows : List Row) : List String :=
  (c.carried rows).map fun name => c.dialect.compileDropIfExists (String.ofList (c.ownPart name))

theorem map_trimmed_dropStatements (c : Connection) (rows : List Row)
    : (c.dropStatements rows).map Text.trimmed = (c.carried rows).map c.dropText :=
  List.map_map

theorem isEmpty_trimmed_of_mem_dropStatements (c : Connection) (rows : List Row)
    : ∀ sql ∈ c.dropStatements rows, (Text.trimmed sql).isEmpty = false := by
  intro sql member
  obtain ⟨name, -, rfl⟩ := List.mem_map.1 member
  exact isEmpty_trimmed_drop c.dialect _

/-- Once the tables are listed, to drop them is to send the statements for what was listed. -/
theorem run_dropAllTables_of_listed {session middle : Session} {server : Http.Server}
    {log listed : List Http.Exchange} {rows : List Row}
    (run : (c.runSql c.dialect.compileTables).run session server log = ((.ok rows, middle), listed))
    : c.dropAllTables.run session server log
      = match (c.executeAll (c.dropStatements rows)).run middle server listed with
        | ((.error e, later), log) => ((.error e, later), log)
        | ((.ok _, later), log) => ((.ok (c.carried rows).length, later), log) := by
  have statements : ((c.carried rows).map fun name => String.ofList (c.ownPart name)).map
      c.dialect.compileDropIfExists = c.dropStatements rows := List.map_map
  rw [dropAllTables, getTables, run_bind, run_bind, run]
  change (c.executeAll ((List.filterMap _ (rows.map TableInfo.ofRow)).map _)
    >>= fun _ => pure _).run middle server listed = _
  rw [filterMap_ownName?, statements, run_bind, List.length_map]
  obtain ⟨⟨result, later⟩, log⟩ := (c.executeAll (c.dropStatements rows)).run middle server listed
  cases result <;> rfl

/-- In a run that succeeds the tables are listed first, and then dropped as they are listed. -/
theorem run_dropAllTables {session : Session} (idle : session.IsIdle c.config)
    (server : Http.Server) (log : List Http.Exchange)
    : ∃ later result new, c.dropAllTables.run session server log = ((result, later), log ++ new)
      ∧ ∀ n, result = .ok n →
        ∃ request r rows, ⟨request, .response r⟩ ∈ new ∧ request.body = c.listText
          ∧ c.config.mode.read r = .ok rows
          ∧ Http.statements new = c.listText :: (c.carried rows).map c.dropText
          ∧ n = (c.carried rows).length := by
  obtain ⟨middle, outcome, listed, calm, run, ⟨blank, -⟩ | ⟨-, asked⟩⟩ :=
    run_runSql c.dialect.compileTables idle server log
  · cases (isEmpty_listText c).symm.trans blank
  · cases outcome with
    | error e =>
      refine ⟨middle, .error e, listed, ?_, nofun⟩
      rw [dropAllTables, getTables, run_bind, run_bind, run]
    | ok rows =>
      obtain ⟨later, result, dropped, -, goes, sent⟩ := run_executeAll
        (isEmpty_trimmed_of_mem_dropStatements c rows) calm server (log ++ listed)
      have whole := run_dropAllTables_of_listed run
      rw [goes, List.append_assoc] at whole
      cases result with
      | error e => exact ⟨later, .error e, listed ++ dropped, whole, nofun⟩
      | ok done =>
        refine ⟨later, .ok (c.carried rows).length, listed ++ dropped, whole, fun n succeeds => ?_⟩
        obtain ⟨same, request, r, member, body, read⟩ := asked.of_ok
        refine ⟨request, r, rows, List.mem_append_left _ member, body, read, ?_,
          (Except.ok.inj succeeds).symm⟩
        rw [Http.statements_append, same, sent rfl, map_trimmed_dropStatements]
        rfl

/-- All tables are dropped as they were listed, if every request goes out and none fails: after the list,
one statement is sent for each listed name with the prefix, in the order of the list, and their
number is given. A statement drops the listed table itself exactly if the name is one part that is
no call and no star; with a dot in it another table may be meant.
-/
theorem dropAllTables_drops {session later : Session} (idle : session.IsIdle c.config)
    {server : Http.Server} {log new : List Http.Exchange} {result : Except Error Nat}
    (run : c.dropAllTables.run session server log = ((result, later), log ++ new))
    (sends : ∀ e, result = .error e → ¬ c.Unsent e)
    (succeeds : ∀ x ∈ new, ∀ e, ¬ c.Fails (Operation.dropAllTables.Counts c) x e)
    : ∃ request r rows, ⟨request, .response r⟩ ∈ new ∧ request.body = c.listText
        ∧ c.config.mode.read r = .ok rows
        ∧ Http.statements new = c.listText :: (c.carried rows).map c.dropText
        ∧ result = .ok (c.carried rows).length
        ∧ ∀ name ∈ c.carried rows,
            Drops (c.dropText name) name
              ↔ Identifier.IsRestored c.dialect.tablePrefix.toList (c.ownPart name) := by
  obtain ⟨ended, outcome, asked, -, halts, stops⟩ :=
    halts_perform (c := c) .dropAllTables session server log idle
  obtain ⟨finished, given, sent, drops, listing⟩ := run_dropAllTables idle server log
  obtain ⟨ends, logs⟩ := Prod.mk.inj (run.symm.trans halts)
  obtain ⟨gives, wires⟩ := Prod.mk.inj (run.symm.trans drops)
  obtain ⟨rfl, -⟩ := Prod.mk.inj ends
  obtain ⟨rfl, -⟩ := Prod.mk.inj gives
  obtain rfl := List.append_cancel_left logs
  obtain rfl := List.append_cancel_left wires
  cases result with
  | error e =>
    rcases stops.caused e rfl with uncompiled | unsent | ⟨before, x, last, fails⟩
    · nomatch uncompiled
    · exact absurd unsent (sends e rfl)
    · exact absurd fails (succeeds x (by simp [last]) e)
  | ok n =>
    obtain ⟨request, r, rows, member, body, read, statements, rfl⟩ := listing n rfl
    refine ⟨request, r, rows, member, body, read, statements, rfl, fun name carries => ?_⟩
    exact drops_dropText_iff (List.mem_filter.1 carries).2

-----------------------------------------------------------------------------------------
-- A server that answers all statements
-----------------------------------------------------------------------------------------

/-- Statements that are all answered without rows are all sent and succeed, by induction on them. -/
theorem run_executeAll_of_answers {endpoint : Endpoint} (reaches : c.Reaches endpoint)
    {statements : List String} (filled : ∀ sql ∈ statements, (Text.trimmed sql).isEmpty = false)
    {server : Http.Server} (alive : ∀ past, server.Alive past endpoint)
    (answered : ∀ sql ∈ statements, ∀ past,
      server.Answers past (c.request endpoint (Text.trimmed sql)) [])
    {session : Session} (idle : session.IsIdle c.config) (log : List Http.Exchange)
    : ∃ later new, (c.executeAll statements).run session server log = ((.ok (), later), log ++ new)
      ∧ Http.statements new = statements.map Text.trimmed := by
  induction statements generalizing session log with
  | nil => exact ⟨session, [], by rw [List.append_nil]; rfl, rfl⟩
  | cons sql rest ih =>
    obtain ⟨middle, new, calm, run, asked⟩ := run_execute_of_answers reaches idle
      (filled sql (by simp)) (fun _ => alive _) (answered sql (by simp) _) ⟨[], nofun, rfl⟩
    obtain ⟨later, more, goes, sent⟩ := ih
      (fun other known => filled other (List.mem_cons_of_mem sql known))
      (fun other known => answered other (List.mem_cons_of_mem sql known)) calm (log ++ new)
    refine ⟨later, new ++ more, ?_, ?_⟩
    · rw [executeAll, run_bind, run, ← List.append_assoc]
      exact goes
    · rw [Http.statements_append, statements_of_requests asked, sent]
      rfl

/-- All tables of a list that is answered are dropped, if each statement for them is answered. -/
theorem run_dropAllTables_of_answers {endpoint : Endpoint} (reaches : c.Reaches endpoint)
    {server : Http.Server} (alive : ∀ past, server.Alive past endpoint) {body : List UInt8}
    (lists : ∀ past, server.Answers past (c.request endpoint c.listText) body) {rows : List Row}
    (read : c.config.mode.rows body = .ok rows)
    (answered : ∀ name ∈ c.carried rows, ∀ past,
      server.Answers past (c.request endpoint (c.dropText name)) [])
    {session : Session} (idle : session.IsIdle c.config) (log : List Http.Exchange)
    : ∃ later new,
        c.dropAllTables.run session server log
          = ((.ok (c.carried rows).length, later), log ++ new)
        ∧ Http.statements new = c.listText :: (c.carried rows).map c.dropText := by
  obtain ⟨listed, direct, asked⟩ := run_direct_of_answers reaches (isEmpty_listText c)
    (fun _ => alive _) (lists (log.map (·.request) ++ c.opening endpoint))
  obtain ⟨middle, calm, -, acts⟩ := acts_runSql c.dialect.compileTables session server log idle
  rw [direct, read] at acts
  have quiet : ∀ sql ∈ c.dropStatements rows, ∀ past,
      server.Answers past (c.request endpoint (Text.trimmed sql)) [] := by
    intro sql member
    obtain ⟨name, carries, rfl⟩ := List.mem_map.1 member
    exact answered name carries
  obtain ⟨later, dropped, goes, sent⟩ := run_executeAll_of_answers reaches
    (isEmpty_trimmed_of_mem_dropStatements c rows) alive quiet calm (log ++ listed)
  have whole := run_dropAllTables_of_listed acts
  rw [goes, List.append_assoc] at whole
  refine ⟨later, listed ++ dropped, whole, ?_⟩
  rw [Http.statements_append, statements_of_requests asked, sent, map_trimmed_dropStatements]
  rfl

/-- Rows in the whole form are the rows of their answer. -/
theorem rows_wholeText {rows : List Row} (exact : Row.AreExact rows)
    : Mode.batch.rows (Text.Utf8.encode (Row.wholeText rows)) = .ok rows := by
  have unmarked : (Row.wholeText rows).head? ≠ some '\uFEFF' := by
    rw [Row.wholeText, Json.toList_compact_object]
    simp
  rw [Mode.rows, Text.Utf8.decodeUnmarked_encode unmarked, Row.ofBody_wholeText exact]

-----------------------------------------------------------------------------------------
-- A listed table with a dot in its name
-----------------------------------------------------------------------------------------

/-- A connection with a prefix for its tables. -/
def prefixed : Connection where
  config := { ledger.config with tablePrefix := "app_" }

theorem reaches_prefixed : prefixed.Reaches ledgerEndpoint :=
  ⟨reaches_ledger.endpoint, reaches_ledger.identity, reaches_ledger.named, reaches_ledger.pinged⟩

/-- Two tables with the prefix, one of them with a dot in its name, and a table of another owner. -/
def catalogue : List Row :=
  [[("name", .string "app_events")], [("name", .string "app_other.events")],
    [("name", .string "events")]]

theorem areExact_catalogue : Row.AreExact catalogue := by
  have named (name : String) : Json.IsExact (Json.maxDepth - 2) (.object [("name", .string name)]) :=
    .object (List.nodup_singleton _) (List.forall_mem_singleton.2 (.string name))
  intro row member
  simp only [catalogue, List.mem_cons, List.not_mem_nil, or_false] at member
  rcases member with rfl | rfl | rfl <;> exact named _

theorem carried_catalogue
    : prefixed.carried catalogue = ["app_events", "app_other.events"] := by
  decide

/-- The body of the answer to a statement: the catalogue for who asks for it. -/
def catalogueBody (sql : String) : List UInt8 :=
  if sql = prefixed.listText then Text.Utf8.encode (Row.wholeText catalogue) else []

/-- Of the three listed tables the two with the prefix have a statement each, and all requests succeed. -/
theorem run_dropAllTables_catalogue
    : ∃ later new,
        prefixed.dropAllTables.run {} (answering catalogueBody) [] = ((.ok 2, later), [] ++ new)
        ∧ Http.statements new
          = [prefixed.listText, prefixed.dropText "app_events",
            prefixed.dropText "app_other.events"] := by
  have lists : catalogueBody prefixed.listText = Text.Utf8.encode (Row.wholeText catalogue) :=
    if_pos rfl
  have drops (name : String) : catalogueBody (prefixed.dropText name) = [] :=
    if_neg (dropText_ne_listText prefixed name)
  have run := run_dropAllTables_of_answers reaches_prefixed
    (fun _ => ⟨pong, rfl, pingFault?_pong⟩) (answers_answering lists _ _)
    (rows_wholeText areExact_catalogue)
    (fun name _ => answers_answering (drops name) _ _) (.new _) []
  rwa [carried_catalogue] at run

/-- In that run no request fails, so what was dropped is told from the listed names. -/
theorem dropAllTables_drops_catalogue
    : Session.IsIdle prefixed.config {}
      ∧ ∃ later new,
        prefixed.dropAllTables.run {} (answering catalogueBody) [] = ((.ok 2, later), [] ++ new)
        ∧ (∀ x ∈ new, ∀ e, ¬ prefixed.Fails (Operation.dropAllTables.Counts prefixed) x e)
        ∧ ∃ rows,
          Http.statements new
            = prefixed.listText :: (prefixed.carried rows).map prefixed.dropText
          ∧ (prefixed.carried rows).length = 2
          ∧ ∀ name ∈ prefixed.carried rows,
            Drops (prefixed.dropText name) name
              ↔ Identifier.IsRestored prefixed.dialect.tablePrefix.toList
                (prefixed.ownPart name) := by
  have idle : Session.IsIdle prefixed.config {} := .new _
  obtain ⟨later, new, run, -⟩ := run_dropAllTables_catalogue
  have succeeds : ∀ x ∈ new, ∀ e,
      ¬ prefixed.Fails (Operation.dropAllTables.Counts prefixed) x e := by
    obtain ⟨ended, result, asked, -, halts, stops⟩ :=
      halts_perform (c := prefixed) .dropAllTables {} (answering catalogueBody) [] idle
    obtain ⟨ends, logs⟩ := Prod.mk.inj (run.symm.trans halts)
    obtain rfl := List.append_cancel_left logs
    obtain rfl : Except.ok 2 = result := congrArg (·.1) ends
    exact stops.succeeded
  obtain ⟨-, -, rows, -, -, -, statements, number, names⟩ :=
    dropAllTables_drops idle run nofun succeeds
  exact ⟨idle, later, new, run, succeeds, rows, statements, (Except.ok.inj number).symm, names⟩

/-- All requests succeed, and a table is taken to be dropped that is not: for a listed name with a dot in
it the statement names a table of another database.
-/
theorem not_drops_catalogue
    : ∃ later new,
        prefixed.dropAllTables.run {} (answering catalogueBody) [] = ((.ok 2, later), [] ++ new)
        ∧ Http.statements new
          = [prefixed.listText, prefixed.dropText "app_events",
            prefixed.dropText "app_other.events"]
        ∧ prefixed.dropText "app_other.events" = "drop table if exists \"other\".\"app_events\""
        ∧ Drops (prefixed.dropText "app_events") "app_events"
        ∧ ¬ Drops (prefixed.dropText "app_other.events") "app_other.events" := by
  obtain ⟨later, new, run, statements⟩ := run_dropAllTables_catalogue
  refine ⟨later, new, run, statements, String.toList_injective ?_, ?_, ?_⟩
  · rw [toList_dropText]
    have target : Text.trimEnd (Identifier.table prefixed.dialect.tablePrefix.toList
        (prefixed.ownPart "app_other.events")) = "\"other\".\"app_events\"".toList := by
      decide +kernel
    rw [target]
    rfl
  · exact (drops_dropText_iff (by decide)).2 (by decide)
  · exact fun drops => absurd ((drops_dropText_iff (by decide)).1 drops) (by decide)

end ColumnStore.Connection
