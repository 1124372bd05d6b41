import ColumnStore.Proofs.Connection.Inserting

/-! Inserts made one after another number their rows on from what the table held before. Each step finds
the count where the step before it left it, so the ids of a whole run have no gap and no repetition.
-/

namespace ColumnStore

open InsertValues (batch)

-----------------------------------------------------------------------------------------
-- A table on a server
-----------------------------------------------------------------------------------------

/-- A server that holds a table: `held` is how many rows that is after some requests. It answers each
count with that number, in the form that the connection asks for, and adds the rows of every
insertion that it accepts.
-/
structure Http.Server.HoldsTable (server : Http.Server) (c : Connection) (e : Endpoint)
    (table : String) (accepts : Insertion → Prop) (held : List Http.Request → Nat) : Prop where
  pinged
    : c.config.mode = .batch → ∀ past,
        server.Alive past e ∧ held (past ++ [e.pingRequest]) = held past
  counted
    : ∀ past, let request := c.request e (Connection.countText table)
        held (past ++ [request]) = held past
          ∧ ∃ body, server.Answers past request body
            ∧ Row.CountBody (held past) c.config.mode.format body
  inserted
    : ∀ past i, accepts i → let request := c.request e (c.render (i.statement table))
        held (past ++ [request]) = held past + i.rows.length
          ∧ ∃ body, server.Answers past request body ∧ Row.BlankBody body

namespace Http.Server.HoldsTable

variable {server : Http.Server} {c : Connection} {e : Endpoint} {table : String}
  {accepts : Insertion → Prop} {held : List Http.Request → Nat}

/-- What is asked before a statement leaves the table as it is. -/
theorem held_opening (holds : server.HoldsTable c e table accepts held) (past : List Http.Request)
    : held (past ++ c.opening e) = held past := by
  cases mode : c.config.mode with
  | streaming =>
    rw [Connection.opening, mode]
    exact congrArg held (List.append_nil past)
  | batch =>
    rw [Connection.opening, mode]
    exact (holds.pinged mode past).2

end Http.Server.HoldsTable

-----------------------------------------------------------------------------------------
-- The insertions of a run
-----------------------------------------------------------------------------------------

/-- What stands in the first column of each row. -/
def Insertion.leading (i : Insertion) : List (Option Value) :=
  i.rows.map List.head?

/-- Some numbers as values. -/
def Numbering.ids (numbers : List Nat) : List (Option Value) :=
  numbers.map fun number => some (.uint (UInt64.ofNat number))

/-- The records of an input in the order in which they are written are as many as it has. -/
theorem InsertValues.length_ordered (values : InsertValues)
    : values.ordered.length = values.batch.length := by
  cases values with
  | one record => rfl
  | many records => simp [ordered, batch]

theorem InsertValues.ordered_ne_nil {values : InsertValues} (filled : values.batch ≠ [])
    : values.ordered ≠ [] := by
  rw [← List.length_pos_iff, values.length_ordered]
  exact List.length_pos_iff.2 filled

/-- A column that no record of an input has is in none of those that are written. -/
theorem InsertValues.get?_ordered {values : InsertValues} {column : String}
    (missing : ∀ record ∈ values.batch, column ∉ record.columns)
    : ∀ record ∈ values.ordered, record.get? column = none := by
  cases values with
  | one record => exact fun record member => Record.get?_eq_none_iff.2 (missing record member)
  | many records =>
    intro record member
    obtain ⟨given, inside, rfl⟩ := List.mem_map.1 member
    rw [Record.get?_sorted]
    exact Record.get?_eq_none_iff.2 (missing given inside)

namespace Connection

variable {c : Connection}

/-- The insertion of an input into a table with so many rows. -/
def insertion (c : Connection) (count : Nat) (values : InsertValues) : Insertion :=
  .ofRecords (Numbering.stamp c.numberingColumn (UInt64.ofNat count) values.ordered)

/-- The insertions of inputs that are inserted one after another; those without records have none. -/
def insertions (c : Connection) : Nat → List InsertValues → List Insertion
  | _, [] => []
  | count, values :: rest =>
    if values.batch = [] then c.insertions count rest
    else c.insertion count values :: c.insertions (count + values.batch.length) rest

theorem length_insertion (count : Nat) (values : InsertValues)
    : (c.insertion count values).rows.length = values.batch.length := by
  simp [insertion, Insertion.ofRecords, Numbering.length_stamp, InsertValues.length_ordered]

/-- The rows of an input are numbered on from the count. -/
theorem leading_insertion {count : Nat} {values : InsertValues}
    (unnumbered : ∀ record ∈ values.batch, c.numberingColumn ∉ record.columns)
    : (c.insertion count values).leading
      = Numbering.ids (List.range' (count + 1) values.batch.length) := by
  refine List.ext_getElem? fun place => ?_
  rw [← values.length_ordered, Insertion.leading, insertion, Numbering.ids, List.getElem?_map,
    List.getElem?_map, Insertion.getElem?_rows_stamp]
  cases found : values.ordered[place]? with
  | none =>
    have late := List.getElem?_eq_none_iff.1 found
    rw [List.getElem?_eq_none (by simpa using late)]
    rfl
  | some record =>
    have early := (List.getElem?_eq_some_iff.1 found).1
    have missing := InsertValues.get?_ordered unnumbered record (List.mem_of_getElem? found)
    have number : UInt64.ofNat (count + 1 + 1 * place)
        = UInt64.ofNat count + UInt64.ofNat place + 1 := by
      rw [Nat.one_mul, Nat.add_right_comm, UInt64.ofNat_add, UInt64.ofNat_add]
      rfl
    rw [List.getElem?_range' early]
    simp only [Option.map_some, number, Record.prepend, Record.putFirst, Record.values, missing,
      Option.getD_none, List.map_cons, List.head?_cons]

/-- The ids of insertions one after another are numbered on from the count, by list induction. -/
theorem leading_insertions {inputs : List InsertValues}
    (unnumbered : ∀ values ∈ inputs, ∀ record ∈ values.batch, c.numberingColumn ∉ record.columns)
    (count : Nat)
    : (c.insertions count inputs).flatMap Insertion.leading
      = Numbering.ids (List.range' (count + 1) (inputs.map (·.batch.length)).sum) := by
  induction inputs generalizing count with
  | nil => rfl
  | cons values rest ih =>
    have later := ih fun values member => unnumbered values (by simp [member])
    rw [insertions]
    split
    · rename_i empty
      simpa [empty] using later count
    · rw [List.flatMap_cons, later, leading_insertion (unnumbered values (by simp)), List.map_cons,
        List.sum_cons, Nat.add_right_comm, ← List.range'_append_1, Numbering.ids, Numbering.ids,
        Numbering.ids, List.map_append]

/-- Each input with records has one insertion, with a row for each of them, by list induction. -/
theorem lengths_insertions (c : Connection) (inputs : List InsertValues) (count : Nat)
    : (c.insertions count inputs).map (·.rows.length)
      = (inputs.map (·.batch.length)).filter (· ≠ 0) := by
  induction inputs generalizing count with
  | nil => rfl
  | cons values rest ih =>
    rw [insertions]
    split
    · rename_i empty
      simpa [empty] using ih count
    · rename_i filled
      rw [List.map_cons, List.map_cons, List.filter_cons_of_pos (by simpa using filled),
        length_insertion, ih]

/-- Insertions list the numbering column first, by list induction. -/
theorem head?_columns_of_mem_insertions {inputs : List InsertValues} {count : Nat} {i : Insertion}
    (member : i ∈ c.insertions count inputs)
    : i.columns.head? = some c.numberingColumn := by
  induction inputs generalizing count with
  | nil => nomatch member
  | cons values rest ih =>
    rw [insertions] at member
    split at member
    · exact ih member
    · rename_i filled
      rcases List.mem_cons.1 member with rfl | later
      · obtain ⟨first, more, shape⟩ := List.exists_cons_of_ne_nil (InsertValues.ordered_ne_nil filled)
        rw [insertion, shape, Insertion.columns_stamp, List.head?_cons]
      · exact ih later

-----------------------------------------------------------------------------------------
-- Steps and runs
-----------------------------------------------------------------------------------------

/-- Inserts made one after another. -/
def insertEach (c : Connection) (calls : List (Query × InsertValues)) : Run Unit :=
  calls.forM fun call => c.insert call.1 call.2

/-- The statements of an insertion: the count before it and the insertion itself. -/
def statementsOf (c : Connection) (table : String) (i : Insertion) : List String :=
  [countText table, c.render (i.statement table)]

/-- Without records nothing is sent. -/
theorem run_insert_of_empty {values : InsertValues} (empty : values.batch = []) (q : Query)
    (session : Session) (server : Http.Server) (log : List Http.Exchange)
    : (c.insert q values).run session server log = ((.ok (), session), log) := by
  have none : values.ordered.isEmpty := by
    rw [List.isEmpty_iff_length_eq_zero, values.length_ordered, empty]
    rfl
  have quiet : c.insert q values = pure () := by
    unfold insert
    exact if_pos none
  rw [quiet]
  rfl

variable {e : Endpoint} {server : Http.Server} {table : String} {accepts : Insertion → Prop}
  {held : List Http.Request → Nat}

/-- An insert with records counts the rows of the table and adds its own, numbered on from them. -/
theorem run_insert_of_holds (reaches : c.Reaches e)
    (holds : server.HoldsTable c e table accepts held) {session : Session}
    (idle : session.IsIdle c.config) {q : Query} (on_table : q.table.sql c.dialect = table)
    (unconditional : q.wheres = []) (single : q.joins = []) {values : InsertValues}
    (filled : values.batch ≠ []) {log : List Http.Exchange} {count : Nat}
    (counted : held (log.map (·.request)) = count)
    (accepted : accepts (c.insertion count values)) (room : count < UInt64.size)
    : ∃ later new, later.IsIdle c.config
      ∧ (c.insert q values).run session server log = ((.ok (), later), log ++ new)
      ∧ Http.statements new = c.statementsOf table (c.insertion count values)
      ∧ held ((log ++ new).map (·.request)) = count + values.batch.length := by
  subst on_table
  have at_count := holds.counted (log.map (·.request) ++ c.opening e)
  rw [holds.held_opening, counted] at at_count
  obtain ⟨unchanged, body, answered, counts⟩ := at_count
  obtain ⟨middle, asked, calm, run_count, count_requests⟩ := run_count_of_answers reaches idle
    unconditional single (fun mode => (holds.pinged mode _).1) answered counts room
  have still : held ((log ++ asked).map (·.request)) = count := by
    rw [List.map_append, count_requests, ← List.append_assoc, unchanged]
  have rows : (c.insertion count values).rows ≠ [] := by
    rw [← List.length_pos_iff, length_insertion]
    exact List.length_pos_iff.2 filled
  have whole := Insertion.trimmed_render c (q.table.sql c.dialect) rows
  have at_insert := holds.inserted ((log ++ asked).map (·.request) ++ c.opening e) _ accepted
  rw [holds.held_opening, still, length_insertion] at at_insert
  obtain ⟨grown, body, answered, blank⟩ := at_insert
  obtain ⟨later, sent, calm, run_execute, insert_requests⟩ := run_execute_of_answers reaches calm
    (Insertion.isEmpty_trimmed_render c (q.table.sql c.dialect) (c.insertion count values))
    (fun mode => (holds.pinged mode _).1) (whole.symm ▸ answered) blank
  rw [whole] at insert_requests
  refine ⟨later, asked ++ sent, calm, ?_, ?_, ?_⟩
  · rw [run_insert (InsertValues.ordered_ne_nil filled) run_count, ← List.append_assoc]
    exact run_execute
  · rw [Http.statements_append, statements_of_requests count_requests,
      statements_of_requests insert_requests]
    rfl
  · rw [← List.append_assoc, List.map_append, insert_requests, ← List.append_assoc, grown]

/-- Inserts one after another succeed and send their insertions, by list induction: each leaves the
table with the count that the next one finds.
-/
theorem run_insertEach_of_holds (reaches : c.Reaches e)
    (holds : server.HoldsTable c e table accepts held) {calls : List (Query × InsertValues)}
    (on_table : ∀ call ∈ calls, call.1.table.sql c.dialect = table)
    (plain : ∀ call ∈ calls, call.1.wheres = [] ∧ call.1.joins = []) {session : Session}
    (idle : session.IsIdle c.config) {log : List Http.Exchange} {count : Nat}
    (counted : held (log.map (·.request)) = count)
    (accepted : ∀ i ∈ c.insertions count (calls.map (·.2)), accepts i)
    (room : count + (calls.map (·.2.batch.length)).sum < UInt64.size)
    : ∃ later new, (c.insertEach calls).run session server log = ((.ok (), later), log ++ new)
      ∧ Http.statements new
        = (c.insertions count (calls.map (·.2))).flatMap (c.statementsOf table) := by
  induction calls generalizing session log count with
  | nil => exact ⟨session, [], by rw [List.append_nil]; rfl, rfl⟩
  | cons call rest ih =>
    obtain ⟨q, values⟩ := call
    have steps : c.insertEach ((q, values) :: rest)
        = c.insert q values >>= fun _ => c.insertEach rest := rfl
    have rest_on_table := fun call member => on_table call (List.mem_cons_of_mem _ member)
    have rest_plain := fun call member => plain call (List.mem_cons_of_mem _ member)
    simp only [List.map_cons, List.sum_cons] at room
    rw [steps, run_bind]
    by_cases empty : values.batch = []
    · have same : c.insertions count (((q, values) :: rest).map (·.2))
          = c.insertions count (rest.map (·.2)) := if_pos empty
      rw [same] at accepted ⊢
      rw [run_insert_of_empty empty]
      exact ih rest_on_table rest_plain idle counted accepted (by omega)
    · have both : c.insertions count (((q, values) :: rest).map (·.2))
          = c.insertion count values
            :: c.insertions (count + values.batch.length) (rest.map (·.2)) := if_neg empty
      rw [both] at accepted ⊢
      obtain ⟨unconditional, single⟩ := plain (q, values) (by simp)
      obtain ⟨middle, new, calm, run, said, grown⟩ := run_insert_of_holds reaches holds idle
        (on_table (q, values) (by simp)) unconditional single empty counted
        (accepted _ (by simp)) (by omega)
      obtain ⟨later, more, run_rest, said_rest⟩ := ih rest_on_table rest_plain calm grown
        (fun i member => accepted i (by simp [member])) (by omega)
      refine ⟨later, new ++ more, ?_, ?_⟩
      · rw [run, ← List.append_assoc]
        exact run_rest
      · rw [Http.statements_append, said, said_rest, List.flatMap_cons]

/-- The ids of a whole run are the numbers after the rows that the table held before it, in order and
without gap, and every insert succeeds. An input without records sends nothing.
-/
theorem insertEach_numbers (reaches : c.Reaches e)
    (holds : server.HoldsTable c e table accepts held) {calls : List (Query × InsertValues)}
    (on_table : ∀ call ∈ calls, call.1.table.sql c.dialect = table)
    (plain : ∀ call ∈ calls, call.1.wheres = [] ∧ call.1.joins = [])
    (unnumbered : ∀ call ∈ calls, ∀ record ∈ call.2.batch, c.numberingColumn ∉ record.columns)
    {session : Session} (idle : session.IsIdle c.config) {log : List Http.Exchange} {count : Nat}
    (counted : held (log.map (·.request)) = count)
    (accepted : ∀ i ∈ c.insertions count (calls.map (·.2)), accepts i)
    (room : count + (calls.map (·.2.batch.length)).sum < UInt64.size)
    : (∃ later new, ∃ sent : List Insertion,
        (c.insertEach calls).run session server log = ((.ok (), later), log ++ new)
        ∧ Http.statements new = sent.flatMap (c.statementsOf table)
        ∧ (∀ i ∈ sent, i.columns.head? = some c.numberingColumn)
        ∧ sent.map (·.rows.length) = (calls.map (·.2.batch.length)).filter (· ≠ 0)
        ∧ sent.flatMap Insertion.leading
          = Numbering.ids (List.range' (count + 1) (calls.map (·.2.batch.length)).sum))
      ∧ ∀ (q : Query) (values : InsertValues) (session : Session) (server : Http.Server)
          (log : List Http.Exchange), values.batch = [] →
            (c.insert q values).run session server log = ((.ok (), session), log) := by
  refine ⟨?_, fun q values session server log empty => run_insert_of_empty empty q session server log⟩
  obtain ⟨later, new, run, said⟩ := run_insertEach_of_holds reaches holds on_table plain idle counted
    accepted room
  have missing : ∀ values ∈ calls.map (·.2), ∀ record ∈ values.batch,
      c.numberingColumn ∉ record.columns := by
    intro values member
    obtain ⟨call, here, rfl⟩ := List.mem_map.1 member
    exact unnumbered call here
  have ids := leading_insertions missing count
  have lengths := c.lengths_insertions (calls.map (·.2)) count
  rw [List.map_map] at ids lengths
  exact ⟨later, new, _, run, said, fun i member => head?_columns_of_mem_insertions member, lengths, ids⟩

/-- A batch with an empty record in it, an empty batch and a single record. -/
def eventCalls : List (Query × InsertValues) := [
  ({ table := .name "events" }, .many [.ofList [("name", .string "(new)")], .empty]),
  ({ table := .name "events" }, .many []),
  ({ table := .name "events" }, .one (.ofList [("name", .null), ("age", .int 7)]))]

/-- The rows that a statement adds to the events. -/
def eventsAdded (sql : String) : Nat :=
  if sql = "insert into \"events\" (\"id\", \"name\") values (4, '(new)'), (5)" then 2
  else if sql = "insert into \"events\" (\"id\", \"name\", \"age\") values (6, NULL, 7)" then 1
  else 0

/-- The events after some requests, three of them at the start. -/
def eventsHeld (past : List Http.Request) : Nat :=
  3 + (past.map (eventsAdded ·.body)).sum

/-- A server that holds events. -/
def eventServer : Http.Server := fun past request =>
  .response (match request.method with
    | .get => pong
    | .post => {
      status := 200
      body := if eventsAdded request.body = 0 then Row.countAnswer (eventsHeld past) else [] })

theorem eventsHeld_append (past : List Http.Request) (request : Http.Request)
    : eventsHeld (past ++ [request]) = eventsHeld past + eventsAdded request.body := by
  simp [eventsHeld, Nat.add_assoc]

theorem answers_eventServer {past : List Http.Request} {sql : String} {body : List UInt8}
    : eventServer.Answers past (ledger.request ledgerEndpoint sql) body
      ↔ (if eventsAdded sql = 0 then Row.countAnswer (eventsHeld past) else []) = body := by
  constructor
  · rintro ⟨r, reply, -, -, -, rfl⟩
    exact congrArg Http.Response.body (Http.Reply.response.inj reply)
  · exact fun same => ⟨_, rfl, rfl, rfl, rfl, same⟩

theorem render_eventCalls
    : (ledger.insertions 3 (eventCalls.map (·.2))).map (fun i =>
        (ledger.render (i.statement "\"events\""), i.rows.length))
      = [("insert into \"events\" (\"id\", \"name\") values (4, '(new)'), (5)", 2),
        ("insert into \"events\" (\"id\", \"name\", \"age\") values (6, NULL, 7)", 1)] := by
  decide +kernel

theorem holdsTable_eventServer
    : eventServer.HoldsTable ledger ledgerEndpoint "\"events\""
        (· ∈ ledger.insertions 3 (eventCalls.map (·.2))) eventsHeld where
  pinged := by
    intro _ past
    refine ⟨⟨pong, rfl, pingFault?_pong⟩, ?_⟩
    rw [eventsHeld_append]
    rfl
  counted := by
    intro past
    have adds : eventsAdded (countText "\"events\"") = 0 := by decide +kernel
    refine ⟨?_, Row.countAnswer (eventsHeld past), ?_, Row.countBody_countAnswer _⟩
    · rw [eventsHeld_append]
      exact congrArg (eventsHeld past + ·) adds
    · rw [answers_eventServer]
      exact if_pos adds
  inserted := by
    intro past i member
    have text : (ledger.render (i.statement "\"events\""), i.rows.length)
        ∈ (ledger.insertions 3 (eventCalls.map (·.2))).map (fun i =>
          (ledger.render (i.statement "\"events\""), i.rows.length)) := List.mem_map_of_mem member
    rw [render_eventCalls] at text
    have adds : eventsAdded (ledger.render (i.statement "\"events\"")) = i.rows.length
        ∧ i.rows.length ≠ 0 := by
      rcases List.mem_pair.1 text with same | same
      all_goals
        obtain ⟨sql, rows⟩ := Prod.mk.inj same
        rw [sql, rows]
        decide
    refine ⟨?_, [], ?_, [], List.forall_mem_nil _, rfl⟩
    · rw [eventsHeld_append]
      exact congrArg (eventsHeld past + ·) adds.1
    · rw [answers_eventServer]
      exact if_neg (adds.1 ▸ adds.2)

/-- Behind three rows a batch of two records and a single one are stored under 4, 5 and 6, and nothing is
sent for the empty batch between them.
-/
theorem insertEach_numbers_eventCalls
    : ledger.Reaches ledgerEndpoint
      ∧ eventServer.HoldsTable ledger ledgerEndpoint "\"events\""
          (· ∈ ledger.insertions 3 (eventCalls.map (·.2))) eventsHeld
      ∧ (∀ call ∈ eventCalls, call.1.table.sql ledger.dialect = "\"events\"")
      ∧ (∀ call ∈ eventCalls, call.1.wheres = [] ∧ call.1.joins = [])
      ∧ (∀ call ∈ eventCalls, ∀ record ∈ call.2.batch, ledger.numberingColumn ∉ record.columns)
      ∧ eventsHeld [] + (eventCalls.map (·.2.batch.length)).sum < UInt64.size
      ∧ ∃ later new, ∃ sent : List Insertion,
        (ledger.insertEach eventCalls).run {} eventServer [] = ((.ok (), later), new)
        ∧ Http.statements new = sent.flatMap (ledger.statementsOf "\"events\"")
        ∧ sent.map (·.rows.length) = [2, 1]
        ∧ sent.flatMap Insertion.leading = Numbering.ids [4, 5, 6] := by
  have on_table : ∀ call ∈ eventCalls, call.1.table.sql ledger.dialect = "\"events\"" := by
    have same : (TableRef.name "events").sql ledger.dialect = "\"events\"" := by decide +kernel
    simpa [eventCalls] using same
  have plain : ∀ call ∈ eventCalls, call.1.wheres = [] ∧ call.1.joins = [] := by
    simp [eventCalls]
  have unnumbered : ∀ call ∈ eventCalls, ∀ record ∈ call.2.batch,
      ledger.numberingColumn ∉ record.columns := by
    decide
  have start : eventsHeld (([] : List Http.Exchange).map (·.request)) = 3 := rfl
  have room : eventsHeld [] + (eventCalls.map (·.2.batch.length)).sum < UInt64.size := by decide
  obtain ⟨⟨later, new, sent, run, said, -, lengths, ids⟩, -⟩ := insertEach_numbers reaches_ledger
    holdsTable_eventServer on_table plain unnumbered (.new _) start
    (fun i member => member) room
  exact ⟨reaches_ledger, holdsTable_eventServer, on_table, plain, unnumbered, room, later, new, sent,
    run, said, lengths, ids⟩

end Connection

end ColumnStore
