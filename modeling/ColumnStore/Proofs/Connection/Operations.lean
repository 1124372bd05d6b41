import ColumnStore.Proofs.Connection.Halting
import ColumnStore.Proofs.Connection.Inserting

/-! Every operation of a connection stops at its first failure: nothing is sent after a request that
fails, and what does not compile is not sent at all.
-/

namespace ColumnStore

/-- What can be asked of a connection, by what it gives. -/
inductive Operation : Type → Type
  | select (q : Query) : Operation (List Row)
  | selectRaw (sql : String) (bindings : List Value) : Operation (List Row)
  /-- A statement for its effect. -/
  | execute (sql : String) : Operation Unit
  /-- A statement for its rows. -/
  | ask (sql : String) : Operation (List Row)
  | count (q : Query) : Operation UInt64
  | insert (q : Query) (values : InsertValues) : Operation Unit
  | insertGetId (q : Query) (record : Record) (column : Option String) : Operation UInt64
  | update (q : Query) (values : Record) : Operation (List Row)
  | delete (q : Query) : Operation (List Row)
  | truncate (q : Query) : Operation Unit
  | hasTable (table : String) : Operation Bool
  | getTables : Operation (List TableInfo)
  | getColumns (table : String) : Operation (List ColumnInfo)
  | createTable (b : Blueprint) : Operation Unit
  | extendTable (b : Blueprint) : Operation Unit
  | addColumn (table : String) (column : ColumnSpec) : Operation Unit
  | createIndex (table : String) (index : IndexSpec) : Operation Unit
  | dropTable (table : String) : Operation Unit
  | dropTableIfExists (table : String) : Operation Unit
  | dropAllTables : Operation Nat

namespace Operation

variable {α : Type}

/-- The run of an operation over a connection. -/
def perform (c : Connection) : Operation α → Run α
  | select q => c.select q
  | selectRaw sql bindings => c.selectRaw sql bindings
  | execute sql => c.execute sql
  | ask sql => c.runSql sql
  | count q => c.count q
  | insert q values => c.insert q values
  | insertGetId q record column => c.insertGetId q record column
  | update q values => c.update q values
  | delete q => c.delete q
  | truncate q => c.truncate q
  | hasTable table => c.hasTable table
  | getTables => c.getTables
  | getColumns table => c.getColumns table
  | createTable b => c.createTable b
  | extendTable b => c.extendTable b
  | addColumn table column => c.addColumn table column
  | createIndex table index => c.createIndex table index
  | dropTable table => c.dropTable table
  | dropTableIfExists table => c.dropTableIfExists table
  | dropAllTables => c.dropAllTables

/-- The statement that an operation has to compile before it sends anything, if it has one. An insert
counts first; without records it has nothing to do.
-/
def compiled (d : Dialect) : Operation α → Except Error Statement
  | select q => q.compileSelect d
  | selectRaw sql bindings => Statement.empty.pushRaw sql bindings
  | count q => q.compileCount d
  | insert q values => if values.ordered.isEmpty then .ok .empty else q.compileCount d
  | update q values => q.compileUpdate d values
  | delete q => q.compileDelete d
  | _ => .ok .empty

/-- Whether an operation sends a text to have rows counted. -/
def Counts (c : Connection) : Operation α → String → Prop
  | count q, sql => ∃ s, q.compileCount c.dialect = .ok s ∧ sql = Text.trimmed (c.render s)
  | insert q _, sql => ∃ s, q.compileCount c.dialect = .ok s ∧ sql = Text.trimmed (c.render s)
  | _, _ => False

end Operation

namespace Connection

variable {c : Connection} {q : Query}

-----------------------------------------------------------------------------------------
-- Counting and inserting
-----------------------------------------------------------------------------------------

/-- What counts starts with another letter than what inserts, trimmed or not. -/
theorem head?_count {s : Statement} (compiles : q.compileCount c.dialect = .ok s)
    : (c.render s).toList.head? = some 's' := by
  obtain ⟨source, -, made⟩ := bind_eq_ok.1 compiles
  obtain rfl := pure_eq_ok.1 made
  refine Statement.head?_write ?_
  rw [Statement.symbols_append]
  refine List.IsPrefix.trans ?_ (List.prefix_append _ _)
  simp [Statement.textSymbols]

theorem head?_insert (values : InsertValues)
    : (c.render (q.compileInsert c.dialect values)).toList.head? = some 'i' := by
  refine Statement.head?_write ?_
  unfold Query.compileInsert
  split
  · simp [Statement.textSymbols]
  · split
    · simp [Statement.textSymbols]
    · rw [Statement.symbols_append]
      refine List.IsPrefix.trans ?_ (List.prefix_append _ _)
      simp [Statement.textSymbols]

theorem insert_ne_count {s : Statement} (compiles : q.compileCount c.dialect = .ok s)
    (values : InsertValues)
    : Text.trimmed (c.render (q.compileInsert c.dialect values)) ≠ Text.trimmed (c.render s) := by
  intro same
  have inserts := Text.head?_trimmed (head?_insert (c := c) (q := q) values) (by decide)
  have counts := Text.head?_trimmed (head?_count compiles) (by decide)
  rw [same, counts] at inserts
  simp at inserts

/-- An insert with records counts first. -/
theorem insert_of_filled {values : InsertValues} (filled : values.ordered.isEmpty = false)
    : c.insert q values
      = c.count q >>= fun base =>
        c.execute (c.render (q.compileInsert c.dialect (.many
          (Numbering.stamp c.numberingColumn base values.ordered)))) := by
  unfold insert
  exact if_neg (by simp [filled])

variable {Counts : String → Prop} {Refused : Error → Prop}

/-- A count stops at its first failure, one that is no count among them. -/
theorem halts_count
    (counts : ∀ s, q.compileCount c.dialect = .ok s → Counts (Text.trimmed (c.render s)))
    (refused : ∀ e, q.compileCount c.dialect = .error e → Refused e)
    : c.Halts Counts Refused (c.count q) := by
  refine .after_reading refused fun s compiles => ?_
  have filled : (Text.trimmed (c.render s)).isEmpty = false :=
    Text.isEmpty_trimmed (List.mem_of_mem_head? (head?_count compiles)) (by decide)
  exact halts_counting (counts s compiles) filled

/-- An insert stops at its count, if that fails: its own statement is not taken for one. -/
theorem halts_insert {values : InsertValues}
    (counts : ∀ sql,
      Counts sql ↔ ∃ s, q.compileCount c.dialect = .ok s ∧ sql = Text.trimmed (c.render s))
    (refused : values.ordered.isEmpty = false →
      ∀ e, q.compileCount c.dialect = .error e → Refused e)
    : c.Halts Counts Refused (c.insert q values) := by
  cases empty : values.ordered.isEmpty with
  | true =>
    have done : c.insert q values = pure () := by
      unfold insert
      exact if_pos empty
    rw [done]
    exact halts_pure ()
  | false =>
    rw [insert_of_filled empty]
    have counting : c.Halts Counts Refused (c.count q) :=
      halts_count (fun s compiles => (counts _).2 ⟨s, compiles, rfl⟩) (refused empty)
    refine counting.bind fun base => halts_execute fun taken => ?_
    obtain ⟨s, compiles, same⟩ := (counts _).1 taken
    exact insert_ne_count compiles _ same

-----------------------------------------------------------------------------------------
-- Operations
-----------------------------------------------------------------------------------------

/-- Every operation stops at its first failure, by its cases. -/
theorem halts_perform {α : Type} (op : Operation α)
    : c.Halts (op.Counts c) (fun e => op.compiled c.dialect = .error e) (op.perform c) := by
  cases op with
  | select q => exact .after_reading (fun _ failed => failed) fun s _ => halts_runSql id
  | selectRaw sql bindings => exact .after_reading (fun _ failed => failed) fun s _ => halts_runSql id
  | execute sql => exact halts_execute id
  | ask sql =>
    rw [Operation.perform]
    exact halts_runSql id
  | count q => exact halts_count (fun s compiles => ⟨s, compiles, rfl⟩) fun _ failed => failed
  | insert q values =>
    refine halts_insert (fun _ => .rfl) fun filled e failed => ?_
    rw [Operation.compiled, if_neg (by simp [filled]), failed]
  | insertGetId q record column =>
    exact halts_takeId.bind fun taken => (halts_execute id).bind fun _ => halts_pure taken
  | update q values => exact .after_reading (fun _ failed => failed) fun s _ => halts_runSql id
  | delete q => exact .after_reading (fun _ failed => failed) fun s _ => halts_runSql id
  | truncate q => exact halts_execute id
  | hasTable table => exact (halts_runSql id).bind fun _ => halts_pure _
  | getTables => exact (halts_runSql id).bind fun _ => halts_pure _
  | getColumns table => exact (halts_runSql id).bind fun _ => halts_pure _
  | createTable b => exact halts_executeAll fun _ _ => id
  | extendTable b => exact halts_executeAll fun _ _ => id
  | addColumn table column => exact halts_execute id
  | createIndex table index => exact halts_execute id
  | dropTable table => exact halts_execute id
  | dropTableIfExists table => exact halts_execute id
  | dropAllTables =>
    refine Halts.bind ((halts_runSql id).bind fun _ => halts_pure _) fun tables => ?_
    exact (halts_executeAll fun _ _ => id).bind fun _ => halts_pure _

/-- What cannot be compiled ends a run before anything is asked. -/
theorem run_reading_of_error {α β : Type} {result : Except Error α} {e : Error}
    (failed : result = .error e) (next : α → Run β) (session : Session) (server : Http.Server)
    (log : List Http.Exchange)
    : (liftM result >>= next).run session server log = ((.error e, session), log) := by
  subst failed
  rfl

theorem run_perform_of_uncompiled {α : Type} {op : Operation α} {e : Error}
    (failed : op.compiled c.dialect = .error e) (session : Session) (server : Http.Server)
    (log : List Http.Exchange)
    : (op.perform c).run session server log = ((.error e, session), log) := by
  cases op with
  | select | selectRaw | update | delete | count =>
    exact run_reading_of_error failed _ session server log
  | insert q values =>
    cases empty : values.ordered.isEmpty with
    | true => simp [Operation.compiled, empty] at failed
    | false =>
      have uncompiled : q.compileCount c.dialect = .error e := by
        simpa [Operation.compiled, empty] using failed
      rw [Operation.perform, insert_of_filled empty, run_bind, count,
        run_reading_of_error uncompiled _ session server log]
  | _ => nomatch failed

/-- Every operation of a sole caller stops at its first failure, whatever the server answers. Nothing is
sent after a request that fails, and its failure is the result, so an operation succeeds only if
no request fails; nor does it fail for any other cause, but for what it has to compile and for a
request that cannot go out. In batch mode every statement comes right after a ping of its own
that was well answered. What does not compile is not sent at all.
-/
theorem perform_stops {α : Type} (op : Operation α) {session : Session}
    (idle : session.IsIdle c.config) (server : Http.Server) (log : List Http.Exchange)
    : ∃ later result new,
        (op.perform c).run session server log = ((result, later), log ++ new)
        ∧ (∀ before x after e, new = before ++ x :: after → c.Fails (op.Counts c) x e →
            after = [] ∧ result = .error e)
        ∧ (∀ a, result = .ok a → ∀ x ∈ new, ∀ e, ¬ c.Fails (op.Counts c) x e)
        ∧ (∀ e, result = .error e →
            op.compiled c.dialect = .error e ∨ c.Unsent e
            ∨ ∃ before x, new = before ++ [x] ∧ c.Fails (op.Counts c) x e)
        ∧ (c.config.mode = .batch → ∀ before x after, new = before ++ x :: after →
            x.request.method = .post →
            ∃ front endpoint r, before = front ++ [⟨endpoint.pingRequest, .response r⟩]
              ∧ c.config.endpoint = .ok endpoint ∧ IsPong r)
        ∧ (∀ e, op.compiled c.dialect = .error e → new = [] ∧ result = .error e)
        ∧ later.IsIdle c.config := by
  obtain ⟨later, result, new, still, run, stops⟩ := halts_perform op session server log idle
  refine ⟨later, result, new, run, stops.stopped, ?_, stops.caused, ?_, ?_, still⟩
  · rintro a rfl
    exact stops.succeeded
  · intro batch before x after place statement
    obtain ⟨front, ping, rfl, opened⟩ := stops.opened batch before x after place statement
    cases opened with
    | batch _ named pong => exact ⟨front, _, _, rfl, named, pong⟩
  · intro e failed
    have ended := run_perform_of_uncompiled failed session server log
    rw [run] at ended
    exact ⟨List.append_right_eq_self.1 (congrArg (·.2) ended), congrArg (·.1.1) ended⟩

/-- A live server that answers every statement without rows. -/
def rowless : Http.Server :=
  answering fun _ => []

theorem run_count_rowless
    : ∃ later new,
        (ledger.count users).run {} rowless []
          = ((.error (.malformedResponse "count query returned no rows"), later), new)
        ∧ new.map (·.request)
          = [ledgerEndpoint.pingRequest,
            ledger.request ledgerEndpoint (countText (users.table.sql ledger.dialect))] := by
  have alive : rowless.Alive (([] : List Http.Exchange).map (·.request)) ledgerEndpoint :=
    ⟨pong, rfl, pingFault?_pong⟩
  have answered : rowless.Answers
      (([] : List Http.Exchange).map (·.request) ++ ledger.opening ledgerEndpoint)
      (ledger.request ledgerEndpoint (countText (users.table.sql ledger.dialect))) [] :=
    answers_answering rfl _ _ _
  obtain ⟨new, run, asked⟩ := run_direct_of_answers reaches_ledger
    (isEmpty_trimmed_count (users.table.sql ledger.dialect)) (fun _ => alive) answered
  obtain ⟨later, -, -, acts⟩ := acts_count users {} rowless [] (.new ledger.config)
  refine ⟨later, new, ?_, asked⟩
  have rows : ledger.config.mode.rows [] = .ok [] := Mode.rows_blank _ ⟨[], nofun, rfl⟩
  rw [acts, compileCount_of_plain rfl rfl, run_wire_bind]
  change ((((ledger.direct (ledger.render (.text _)) >>= fun rows => liftM (countOf rows)).run
    rowless []).1, later), ((ledger.direct (ledger.render (.text _)) >>= fun rows =>
      liftM (countOf rows)).run rowless []).2) = _
  rw [render_text, run_wire_bind, run, rows]
  rfl

/-- An insert whose count has no answer ends with that failure: its own statement is not sent. -/
theorem perform_stops_rowless
    : Session.IsIdle ledger.config {}
      ∧ ∃ later result new,
        ((Operation.insert users (.many mixedRecords)).perform ledger).run {} rowless []
          = ((result, later), [] ++ new)
        ∧ (∀ before x after e, new = before ++ x :: after →
            ledger.Fails ((Operation.insert users (.many mixedRecords)).Counts ledger) x e →
            after = [] ∧ result = .error e)
        ∧ result = .error (.malformedResponse "count query returned no rows")
        ∧ new.map (·.request)
          = [ledgerEndpoint.pingRequest,
            ledger.request ledgerEndpoint (countText (users.table.sql ledger.dialect))] := by
  have idle : Session.IsIdle ledger.config {} := .new _
  obtain ⟨later, result, new, run, stopped, -⟩ :=
    perform_stops (c := ledger) (.insert users (.many mixedRecords)) idle rowless []
  obtain ⟨counted, asked, count, requests⟩ := run_count_rowless
  have ended : ((Operation.insert users (.many mixedRecords)).perform ledger).run {} rowless []
      = ((.error (.malformedResponse "count query returned no rows"), counted), asked) := by
    rw [Operation.perform, insert_of_filled rfl, run_bind, count]
  rw [run] at ended
  obtain ⟨ends, rfl⟩ := Prod.mk.inj ended
  exact ⟨idle, later, result, new, run, stopped, congrArg (·.1) ends, requests⟩

end Connection

end ColumnStore
