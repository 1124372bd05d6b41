import ColumnStore.Proofs.Connection.Operations

/-! An insert under a new id takes the next id of its session, whatever becomes of it, and the id that it
takes is the one that it writes and gives. So an id comes again only after all others have come.
-/

namespace ColumnStore

-----------------------------------------------------------------------------------------
-- The text of an insert of one row
-----------------------------------------------------------------------------------------

/-- The text that inserts one row of fields, each value under its column and both in their order. -/
def Dialect.insertText (d : Dialect) (table : String) (fields : List Field) : String :=
  if fields.isEmpty then "insert into " ++ table ++ " default values"
  else
    "insert into " ++ table ++ " (" ++ columnListSql (fields.map (·.1)) ++ ") values "
      ++ ("(" ++ ", ".intercalate (fields.map fun field => d.escaping.quote field.2) ++ ")")

namespace Connection

variable {c : Connection}

/-- An insert of one record is the text of its fields. -/
theorem render_insert_one (c : Connection) (q : Query) (record : Record)
    : c.render (q.compileInsert c.dialect (.one record))
      = c.dialect.insertText (q.table.sql c.dialect) record.fields := by
  cases empty : record.isEmpty with
  | true =>
    have none : record.fields.isEmpty = true := empty
    have batch : (InsertValues.one record).batch = [] := if_pos empty
    rw [Dialect.insertText, none, Query.compileInsert, batch]
    exact render_text c _
  | false =>
    have some : record.fields.isEmpty = false := empty
    have batch : (InsertValues.one record).batch = (InsertValues.many [record]).batch :=
      if_neg (by simp [empty])
    have stated : q.compileInsert c.dialect (.one record)
        = (Insertion.ofRecords [record]).statement (q.table.sql c.dialect) := by
      rw [← Insertion.compileInsert_eq c.dialect q rfl empty, Query.compileInsert, batch]
      rfl
    rw [stated, Dialect.insertText, some, render, Statement.render, Insertion.statement]
    simp [Insertion.ofRecords, Insertion.row, Statement.write_joined, Record.values, Record.columns,
      Function.comp_def, String.append_assoc]

end Connection

/-- The text of an insert has no blanks at its ends. -/
theorem Dialect.trimmed_insertText (d : Dialect) (table : String) (fields : List Field)
    : Text.trimmed (d.insertText table fields) = d.insertText table fields
      ∧ (Text.trimmed (d.insertText table fields)).isEmpty = false := by
  have first : (d.insertText table fields).toList.head? = some 'i' := by
    unfold insertText
    split <;> simp
  refine ⟨?_, Text.isEmpty_trimmed (List.mem_of_mem_head? first) (by decide)⟩
  unfold insertText at first ⊢
  split at first
  · rename_i empty
    rw [if_pos empty]
    refine Text.trimmed_of_ends (b := 's') first ?_ (by decide) (by decide)
    simp [List.getLast?_cons, List.getLast?_append]
  · rename_i filled
    rw [if_neg filled]
    refine Text.trimmed_of_ends (b := ')') first ?_ (by decide) (by decide)
    simp [List.getLast?_cons, List.getLast?_append]

-----------------------------------------------------------------------------------------
-- Runs that have nothing to do with ids
-----------------------------------------------------------------------------------------

/-- What a run leaves, with other ids. -/
def Session.relabel {α : Type} (ids : Numbering.Sequence)
    (left : (Except Error α × Session) × List Http.Exchange)
    : (Except Error α × Session) × List Http.Exchange :=
  ((left.1.1, { left.1.2 with ids }), left.2)

namespace Connection

variable {c : Connection} {α β : Type}

/-- A run that neither asks for the ids of its session nor changes them. -/
def IgnoresIds (run : Run α) : Prop :=
  ∀ (ids : Numbering.Sequence) (session : Session) (server : Http.Server)
    (log : List Http.Exchange),
    run.run { session with ids } server log = Session.relabel ids (run.run session server log)

theorem ignoresIds_pure (a : α) : IgnoresIds (pure a : Run α) :=
  fun _ _ _ _ => rfl

theorem ignoresIds_overWire (conversation : ExceptT Error Http.Wire α)
    : IgnoresIds (overWire conversation) :=
  fun _ _ _ _ => rfl

theorem IgnoresIds.bind {first : Run α} {next : α → Run β} (one : IgnoresIds first)
    (others : ∀ a, IgnoresIds (next a))
    : IgnoresIds (first >>= next) := by
  intro ids session server log
  rw [run_bind, run_bind, one ids session server log]
  obtain ⟨⟨result, later⟩, after⟩ := first.run session server log
  cases result with
  | error e => rfl
  | ok a => exact others a ids later server after

theorem ignoresIds_runBatch (number : Nat) (client : BatchClient) (sql : String)
    : IgnoresIds (c.runBatch number client sql) := by
  refine IgnoresIds.bind (fun _ _ _ _ => rfl) fun _ => (ignoresIds_overWire _).bind fun _ => ?_
  split
  · intro ids session server log
    rw [run_runQueued, run_runQueued]
    rfl
  · exact ignoresIds_overWire _

/-- A statement has nothing to do with ids, over whichever client it goes. -/
theorem ignoresIds_runSql (sql : String)
    : IgnoresIds (c.runSql sql) := by
  cases filled : (Text.trimmed sql).isEmpty with
  | true =>
    rw [runSql_of_blank c filled]
    exact ignoresIds_pure []
  | false =>
    have looks : IgnoresIds c.client := by
      intro ids session server log
      rw [run_client, run_client]
      cases session.registry.lookup c.config <;> rfl
    rw [runSql_of_filled c filled]
    refine looks.bind fun found => ?_
    obtain ⟨number, client⟩ := found
    cases client with
    | streaming client => exact ignoresIds_overWire _
    | batch client => exact ignoresIds_runBatch number client _

theorem ignoresIds_execute (sql : String)
    : IgnoresIds (c.execute sql) :=
  (ignoresIds_runSql sql).bind fun _ => ignoresIds_pure ()

end Connection

-----------------------------------------------------------------------------------------
-- Inserts one after another
-----------------------------------------------------------------------------------------

/-- A call for an insert under a new id. -/
structure IdInsert where
  query : Query
  record : Record
  /-- The column that the id is written to, if it is written at all. -/
  column : Option String

/-- The fields that such a call inserts. -/
def IdInsert.fields (call : IdInsert) (id : UInt64) : List Field :=
  match call.column with
  | none => call.record.fields
  | some column => (column, .uint id) :: call.record.fields.filter (·.1 ≠ column)

/-- Whatever the record holds, the column of the id is written once. -/
theorem IdInsert.count_column {call : IdInsert} {column : String} (named : call.column = some column)
    (id : UInt64)
    : ((call.fields id).map (·.1)).count column = 1 := by
  have put : call.fields id = (call.record.putFirst column (.uint id)).fields := by
    rw [fields, named]
    rfl
  rw [put]
  refine List.count_eq_one_of_mem (call.record.putFirst column (.uint id)).nodup ?_
  simp [Record.putFirst]

/-- Runs one after another, whatever becomes of each. -/
def Run.each {α : Type} (runs : List (Run α)) : StateT Session Http.Wire (List (Except Error α)) :=
  runs.mapM ExceptT.run

theorem Run.each_cons {α : Type} (first : Run α) (rest : List (Run α)) (session : Session)
    (server : Http.Server) (log : List Http.Exchange)
    : each (first :: rest) session server log
      = let ((result, session), log) := first.run session server log
        let ((results, session), log) := each rest session server log
        ((result :: results, session), log) := by
  rw [each, List.mapM_cons]
  rfl

namespace Connection

variable {c : Connection}

def insertUnderId (c : Connection) (call : IdInsert) : Run UInt64 :=
  c.insertGetId call.query call.record call.column

/-- The text that such a call sends under an id. -/
def idText (c : Connection) (id : UInt64) (call : IdInsert) : String :=
  c.dialect.insertText (call.query.table.sql c.dialect) (call.fields id)

/-- The texts of calls that take ids from a number on. -/
def idTexts (c : Connection) : UInt64 → List IdInsert → List String
  | _, [] => []
  | id, call :: rest => c.idText id call :: c.idTexts (id + 1) rest

theorem run_takeId (session : Session) (server : Http.Server) (log : List Http.Exchange)
    : takeId.run session server log
      = ((.ok session.ids.next, { session with ids := session.ids.take.2 }), log) :=
  rfl

/-- An insert under an id is the text of its fields. -/
theorem render_identified (c : Connection) (call : IdInsert) (id : UInt64)
    : c.render (call.query.compileInsert c.dialect (.one (identified call.record call.column id)))
      = c.idText id call := by
  obtain ⟨query, record, column⟩ := call
  rw [render_insert_one]
  cases column <;> rfl

/-- An insert under a new id takes the next one, and is then the statement of its text. -/
theorem run_insertUnderId (c : Connection) (call : IdInsert) (session : Session)
    (server : Http.Server) (log : List Http.Exchange)
    : (c.insertUnderId call).run session server log
      = let ((result, later), after) :=
          (c.execute (c.idText session.ids.next call)).run session server log
        ((result.map fun _ => session.ids.next, { later with ids := session.ids.take.2 }), after) := by
  have steps : c.insertUnderId call = takeId >>= fun id =>
      c.execute (c.render (call.query.compileInsert c.dialect
        (.one (identified call.record call.column id)))) >>= fun _ => pure id := rfl
  rw [steps, run_bind, run_takeId]
  simp only
  rw [render_identified, run_bind, ignoresIds_execute]
  obtain ⟨⟨result, later⟩, after⟩ := (c.execute (c.idText session.ids.next call)).run session server log
  cases result <;> rfl

/-- To count on from the next id is to count on by one more. -/
theorem next_add_ofNat (id : UInt64) (k : Nat)
    : id + 1 + UInt64.ofNat k = id + UInt64.ofNat (k + 1) := by
  rw [UInt64.ofNat_add, UInt64.add_assoc, UInt64.add_comm 1]
  rfl

/-- The id of a call is as far from the first one as its place, by list induction. -/
theorem getElem?_idTexts (c : Connection) (id : UInt64) (calls : List IdInsert) (k : Nat)
    : (c.idTexts id calls)[k]? = calls[k]?.map (c.idText (id + UInt64.ofNat k)) := by
  induction calls generalizing id k with
  | nil => rfl
  | cons call rest ih =>
    cases k with
    | zero => simp [idTexts]
    | succ k => simp [idTexts, ih, next_add_ofNat]

theorem trimmed_of_mem_idTexts {c : Connection} {id : UInt64} {calls : List IdInsert} {sql : String}
    (member : sql ∈ c.idTexts id calls)
    : Text.trimmed sql = sql ∧ (Text.trimmed sql).isEmpty = false := by
  obtain ⟨k, placed⟩ := List.mem_iff_getElem?.1 member
  rw [getElem?_idTexts] at placed
  obtain ⟨call, -, rfl⟩ := Option.map_eq_some_iff.1 placed
  exact c.dialect.trimmed_insertText _ _

/-- Calls one after another are their texts one after another, by induction on them: that one fails
makes no difference to the ids of the others.
-/
theorem each_insertUnderId (c : Connection) (calls : List IdInsert) (id : UInt64)
    (session : Session) (server : Http.Server) (log : List Http.Exchange)
    : ∃ outcomes results later after,
        Run.each ((c.idTexts id calls).map c.execute) session server log = ((outcomes, later), after)
        ∧ Run.each (calls.map c.insertUnderId) { session with ids := { next := id } } server log
          = ((results, { later with ids := { next := id + UInt64.ofNat calls.length } }), after)
        ∧ results.length = calls.length
        ∧ ∀ k : Nat, results[k]? = outcomes[k]?.map fun outcome : Except Error Unit =>
            outcome.map fun _ => id + UInt64.ofNat k := by
  induction calls generalizing id session log with
  | nil => exact ⟨[], [], session, log, rfl, by simp; rfl, rfl, by simp⟩
  | cons call rest ih =>
    rcases executed : (c.execute (c.idText id call)).run session server log
      with ⟨⟨outcome, middle⟩, between⟩
    have inserted : (c.insertUnderId call).run { session with ids := { next := id } } server log
        = ((outcome.map fun _ => id, { middle with ids := { next := id + 1 } }), between) := by
      rw [run_insertUnderId]
      simp only
      rw [ignoresIds_execute, executed]
      rfl
    obtain ⟨outcomes, results, later, after, ran, called, length, places⟩ := ih (id + 1) middle between
    refine ⟨outcome :: outcomes, (outcome.map fun _ => id) :: results, later, after, ?_, ?_, ?_, ?_⟩
    · rw [idTexts, List.map_cons, Run.each_cons, executed]
      simp only [ran]
    · rw [List.map_cons, Run.each_cons, inserted]
      simp only [called, next_add_ofNat, List.length_cons]
    · simp [length]
    · intro k
      cases k with
      | zero => simp
      | succ k => simpa [next_add_ofNat] using places k

/-- Calls one after another, each of which sends its text once or withholds it for a cause. -/
inductive SendsEach (c : Connection) (server : Http.Server)
    : List Http.Request → List String → List (Except Error Unit × List Http.Exchange) → Prop
  | nil {past : List Http.Request} : SendsEach c server past [] []
  | cons {past : List Http.Request} {sql : String} {sqls : List String} {result : Except Error Unit}
      {new : List Http.Exchange} {calls : List (Except Error Unit × List Http.Exchange)}
      (first : c.SendsOnce server past sql result new)
      (rest : SendsEach c server (past ++ new.map (·.request)) sqls calls)
    : SendsEach c server past (sql :: sqls) ((result, new) :: calls)

/-- A live server that can be reached is sent all the texts, by induction on the calls. -/
theorem SendsEach.sent {server : Http.Server} {past : List Http.Request} {sqls : List String}
    {calls : List (Except Error Unit × List Http.Exchange)} (h : c.SendsEach server past sqls calls)
    {endpoint : Endpoint} (reaches : c.Reaches endpoint)
    (alive : ∀ past, server.Alive past endpoint)
    : List.Forall₂ (fun sql call => Http.statements call.2 = [sql]) sqls calls := by
  induction h with
  | nil => exact .nil
  | cons first _ ih => exact .cons (first.sent reaches (alive _)) ih

/-- Texts one after another are each sent once and as they are, or withheld, by induction on them. -/
theorem each_execute_sends {sqls : List String}
    (whole : ∀ sql ∈ sqls, Text.trimmed sql = sql ∧ (Text.trimmed sql).isEmpty = false)
    {session : Session} (idle : session.IsIdle c.config) (server : Http.Server)
    (log : List Http.Exchange)
    : ∃ later, ∃ sent : List (Except Error Unit × List Http.Exchange),
        Run.each (sqls.map c.execute) session server log
          = ((sent.map (·.1), later), log ++ sent.flatMap (·.2))
        ∧ c.SendsEach server (log.map (·.request)) sqls sent := by
  induction sqls generalizing session log with
  | nil => exact ⟨session, [], by simp; rfl, .nil⟩
  | cons sql rest ih =>
    obtain ⟨trimmed, filled⟩ := whole sql (by simp)
    obtain ⟨middle, outcome, new, calm, executed, said⟩ := run_execute trimmed filled idle server log
    obtain ⟨later, sent, ran, rest_said⟩ := ih (fun sql member => whole sql (by simp [member])) calm
      (log ++ new)
    rw [List.map_append] at rest_said
    refine ⟨later, (outcome, new) :: sent, ?_, .cons said rest_said⟩
    rw [List.map_cons, Run.each_cons, executed]
    simp only [ran, List.map_cons, List.flatMap_cons, List.append_assoc]

theorem toNat_add_ofNat (id : UInt64) (k : Nat)
    : (id + UInt64.ofNat k).toNat = (id.toNat + k) % UInt64.size := by
  have size : UInt64.size = 2 ^ 64 := rfl
  rw [UInt64.toNat_add, UInt64.toNat_ofNat', size, Nat.add_mod_mod]

/-- Ids are apart unless all the others lie between them. -/
theorem add_ofNat_ne {id : UInt64} {i j : Nat} (before : i < j) (near : j < i + UInt64.size)
    : id + UInt64.ofNat i ≠ id + UInt64.ofNat j := by
  intro same
  have numbers := congrArg UInt64.toNat same
  have size : UInt64.size = 2 ^ 64 := rfl
  rw [toNat_add_ofNat, toNat_add_ofNat, size] at numbers
  rw [size] at near
  omega

/-- Inserts under new ids store the ids that they give. Of calls one after another, over any session
and with any server, each takes the id of its place, counted on from the first one, whatever
becomes of those before it; it is then the statement of its text under that id, and gives the id if
the statement succeeds. For a caller with nothing queued that text is sent, as it is and once, and
nothing else is, unless no request can go out for it or the server answers the ping before it badly.
The text has the column of the id once and in front.
-/
theorem insertUnderId_stores (c : Connection) (calls : List IdInsert) (session : Session)
    (server : Http.Server) (log : List Http.Exchange)
    : ∃ outcomes results later after,
        Run.each ((c.idTexts session.ids.next calls).map c.execute) session server log
          = ((outcomes, later), after)
        ∧ Run.each (calls.map c.insertUnderId) session server log
          = ((results,
              { later with ids := { next := session.ids.next + UInt64.ofNat calls.length } }), after)
        ∧ results.length = calls.length
        ∧ (∀ (k : Nat) (call : IdInsert), calls[k]? = some call →
            ∃ (id : UInt64) (outcome : Except Error Unit),
              id.toNat = (session.ids.next.toNat + k) % UInt64.size
              ∧ (c.idTexts session.ids.next calls)[k]?
                = some (c.dialect.insertText (call.query.table.sql c.dialect) (call.fields id))
              ∧ outcomes[k]? = some outcome ∧ results[k]? = some (outcome.map fun _ => id))
        ∧ (∀ (i j : Nat) (a b : UInt64), i < j → j < i + UInt64.size →
            results[i]? = some (.ok a) → results[j]? = some (.ok b) → a ≠ b)
        ∧ (session.IsIdle c.config →
            ∃ sent : List (Except Error Unit × List Http.Exchange),
              outcomes = sent.map (·.1) ∧ after = log ++ sent.flatMap (·.2)
              ∧ c.SendsEach server (log.map (·.request)) (c.idTexts session.ids.next calls) sent)
        ∧ ∀ (call : IdInsert) (column : String), call.column = some column → ∀ id : UInt64,
            ((call.fields id).map (·.1)).count column = 1 := by
  obtain ⟨outcomes, results, later, after, ran, called, length, places⟩ :=
    each_insertUnderId c calls session.ids.next session server log
  have found {k : Nat} {call : IdInsert} (placed : calls[k]? = some call)
      : ∃ outcome, outcomes[k]? = some outcome
        ∧ results[k]? = some (outcome.map fun _ => session.ids.next + UInt64.ofNat k) := by
    have early := (List.getElem?_eq_some_iff.1 placed).1
    have result := List.getElem?_eq_getElem (length ▸ early)
    rw [places] at result
    obtain ⟨outcome, here, -⟩ := Option.map_eq_some_iff.1 result
    exact ⟨outcome, here, by rw [places, here]; rfl⟩
  have given {k : Nat} {id : UInt64} (gives : results[k]? = some (.ok id))
      : id = session.ids.next + UInt64.ofNat k := by
    rw [places] at gives
    obtain ⟨outcome, -, gives⟩ := Option.map_eq_some_iff.1 gives
    cases outcome with
    | error e => cases gives
    | ok _ => exact (Except.ok.inj gives).symm
  refine ⟨outcomes, results, later, after, ran, called, length, ?_, ?_, ?_,
    fun call column named id => call.count_column named id⟩
  · intro k call placed
    obtain ⟨outcome, here, given⟩ := found placed
    refine ⟨_, outcome, toNat_add_ofNat session.ids.next k, ?_, here, given⟩
    rw [getElem?_idTexts, placed]
    rfl
  · intro i j a b before near first second
    rw [given first, given second]
    exact add_ofNat_ne before near
  · intro idle
    obtain ⟨other, sent, sends, said⟩ :=
      each_execute_sends (fun _ => trimmed_of_mem_idTexts) idle server log
    rw [ran] at sends
    obtain ⟨both, rfl⟩ := Prod.mk.inj sends
    exact ⟨sent, congrArg (·.1) both, rfl, said⟩

/-- A record with a value of its own for the column of the id, and two without values. -/
def eventInserts : List IdInsert := [
  ⟨{ table := .name "events" }, .ofList [("name", .string "a"), ("uid", .int 7)], some "uid"⟩,
  ⟨{ table := .name "events" }, .empty, none⟩,
  ⟨{ table := .name "events" }, .empty, some "uid"⟩]

/-- A session whose next id is the greatest. -/
def lastId : Session where
  ids := { next := 18446744073709551615 }

/-- A live server that refuses default values. -/
def choosy : Http.Server := fun _ request =>
  .response (match request.method with
    | .get => pong
    | .post =>
      if request.body = "insert into \"events\" default values" then { status := 400 }
      else { status := 200 })

theorem alive_choosy (past : List Http.Request)
    : choosy.Alive past ledgerEndpoint :=
  ⟨pong, rfl, pingFault?_pong⟩

theorem idTexts_eventInserts
    : ledger.idTexts lastId.ids.next eventInserts
      = ["insert into \"events\" (\"uid\", \"name\") values (18446744073709551615, 'a')",
        "insert into \"events\" default values",
        "insert into \"events\" (\"uid\") values (1)"] := by
  decide +kernel

/-- The second insert fails and uses up the id 0. -/
theorem results_eventInserts
    : (Run.each (eventInserts.map ledger.insertUnderId) lastId choosy []).1.1.map Except.toOption
      = [some 18446744073709551615, none, some 1] := by
  decide +kernel

/-- Three inserts of which the second is refused take the last id, 0 and 1, and each is sent under its
own.
-/
theorem insertUnderId_stores_eventInserts
    : lastId.IsIdle ledger.config
      ∧ ∃ results later after, ∃ sent : List (Except Error Unit × List Http.Exchange),
        Run.each (eventInserts.map ledger.insertUnderId) lastId choosy [] = ((results, later), after)
        ∧ results.map Except.toOption = [some 18446744073709551615, none, some 1]
        ∧ after = sent.flatMap (·.2)
        ∧ List.Forall₂ (fun sql call => Http.statements call.2 = [sql])
          ["insert into \"events\" (\"uid\", \"name\") values (18446744073709551615, 'a')",
            "insert into \"events\" default values",
            "insert into \"events\" (\"uid\") values (1)"] sent := by
  have idle : lastId.IsIdle ledger.config :=
    ⟨(Session.IsIdle.new ledger.config).sound, (Session.IsIdle.new ledger.config).idle⟩
  obtain ⟨outcomes, results, later, after, -, called, -, -, -, sends, -⟩ :=
    insertUnderId_stores ledger eventInserts lastId choosy []
  obtain ⟨sent, -, log_eq, said⟩ := sends idle
  have given := results_eventInserts
  rw [called] at given
  rw [idTexts_eventInserts] at said
  exact ⟨idle, results, _, after, sent, called, given, log_eq,
    said.sent reaches_ledger alive_choosy⟩

end Connection

end ColumnStore
