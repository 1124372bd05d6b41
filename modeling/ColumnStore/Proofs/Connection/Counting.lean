import ColumnStore.Proofs.Connection.Dropping
import ColumnStore.Proofs.Connection.Numbering
import ColumnStore.Proofs.Json.Unsigned

/-! A count is never misread. Its rows give a number exactly if their first value stands for one, and what is
no number ends an insert before anything of it is sent.
-/

namespace ColumnStore

/-- Rows whose first value stands for a number. -/
def Row.CountsAs (n : Nat) (rows : List Row) : Prop :=
  ∃ name v fields others, rows = ((name, v) :: fields) :: others ∧ v.StandsFor n

theorem Row.firstValue?_eq_some_iff {rows : List Row} {v : Json}
    : Row.firstValue? rows = some v
      ↔ ∃ name fields others, rows = ((name, v) :: fields) :: others := by
  constructor
  · intro found
    obtain ⟨⟨name, first⟩, leads, rfl⟩ := Option.map_eq_some_iff.1 found
    obtain ⟨row, top, inside⟩ := Option.bind_eq_some_iff.1 leads
    obtain ⟨others, rfl⟩ := List.head?_eq_some_iff.1 top
    obtain ⟨fields, rfl⟩ := List.head?_eq_some_iff.1 inside
    exact ⟨name, fields, others, rfl⟩
  · rintro ⟨name, fields, others, rfl⟩
    rfl

namespace Connection

variable {c : Connection} {q : Query} {rows : List Row}

/-- Rows are counted as the number that their first value stands for. -/
theorem countOf_eq_ok_iff {n : UInt64}
    : countOf rows = .ok n ↔ Row.CountsAs n.toNat rows := by
  have counts : countOf rows = .ok n
      ↔ ∃ v, Row.firstValue? rows = some v ∧ v.unsigned? = some n := by
    unfold countOf
    cases Row.firstValue? rows with
    | none => simp
    | some v => cases read : v.unsigned? <;> simp [read]
  simp only [counts, Row.firstValue?_eq_some_iff, Json.unsigned?_eq_some_iff]
  constructor
  · rintro ⟨v, ⟨name, fields, others, rfl⟩, stands⟩
    exact ⟨name, v, fields, others, rfl, stands⟩
  · rintro ⟨name, v, fields, others, rfl, stands⟩
    exact ⟨v, ⟨name, fields, others, rfl⟩, stands⟩

/-- Rows that count as no number are a malformed response. -/
theorem exists_countOf_eq_error (uncounted : ¬ ∃ n < UInt64.size, Row.CountsAs n rows)
    : ∃ reason, countOf rows = .error (.malformedResponse reason) := by
  cases counted : countOf rows with
  | ok n => exact absurd ⟨n.toNat, n.toNat_lt, countOf_eq_ok_iff.1 counted⟩ uncounted
  | error e =>
    unfold countOf at counted
    split at counted
    · exact ⟨_, by rw [Except.error.inj counted]⟩
    · split at counted
      · exact ⟨_, by rw [Except.error.inj counted]⟩
      · cases counted

variable {s : Statement} {session later : Session} {server : Http.Server}
  {log after : List Http.Exchange}

/-- A count reads the rows that its statement gives, and asks nothing more. -/
theorem run_count (compiled : q.compileCount c.dialect = .ok s)
    (answered : (c.run s).run session server log = ((.ok rows, later), after))
    : (c.count q).run session server log = ((countOf rows, later), after) := by
  unfold count
  rw [run_bind, run_reading, compiled]
  simp only []
  rw [run_bind, answered]
  exact run_reading _ _ _ _

/-- What a sole caller's count sends is its statement alone. -/
theorem statements_count (compiled : q.compileCount c.dialect = .ok s)
    (answered : (c.run s).run session server log = ((.ok rows, later), after))
    (idle : session.IsIdle c.config)
    : ∃ new, after = log ++ new ∧ Http.statements new = [Text.trimmed (c.render s)] := by
  have filled : (Text.trimmed (c.render s)).isEmpty = false :=
    Text.isEmpty_trimmed (List.mem_of_mem_head? (head?_count compiled)) (by decide)
  obtain ⟨ended, result, new, -, run, ⟨blank, -⟩ | ⟨-, asked⟩⟩ :=
    run_runSql (c.render s) idle server log
  · cases filled.symm.trans blank
  · obtain ⟨ends, rfl⟩ := Prod.mk.inj (answered.symm.trans run)
    obtain rfl : Except.ok rows = result := congrArg (·.1) ends
    exact ⟨new, rfl, asked.of_ok.1⟩

/-- What is no count ends an insert with records as it ends the count: nothing is sent after it. -/
theorem run_insert_of_uncounted {e : Error}
    (uncounted : (c.count q).run session server log = ((.error e, later), after))
    {values : InsertValues} (filled : values.batch ≠ [])
    : (c.insert q values).run session server log = ((.error e, later), after) := by
  have present := List.isEmpty_eq_false_iff.2 (InsertValues.ordered_ne_nil filled)
  rw [insert_of_filled present, run_bind, uncounted]

/-- A count is never misread. From the rows that its statement gives it is a number exactly if the first
member of the first row stands for it: as that integer, which only plain digits are read as, or as a
string of its digits. Any other rows are a malformed response, and an insert ends with it as well,
where the count's own statement is all that was sent.
-/
theorem count_eq_ok_iff (compiled : q.compileCount c.dialect = .ok s)
    (answered : (c.run s).run session server log = ((.ok rows, later), after))
    : (∀ n : UInt64, (c.count q).run session server log = ((.ok n, later), after)
        ↔ Row.CountsAs n.toNat rows)
      ∧ ((¬ ∃ n < UInt64.size, Row.CountsAs n rows) → ∃ reason,
          (c.count q).run session server log
            = ((.error (.malformedResponse reason), later), after)
          ∧ ∀ values : InsertValues, values.batch ≠ [] →
              (c.insert q values).run session server log
                = ((.error (.malformedResponse reason), later), after))
      ∧ (session.IsIdle c.config →
          ∃ new, after = log ++ new ∧ Http.statements new = [Text.trimmed (c.render s)])
      ∧ ∀ (numeral : Json.Numeral) (cs : List Char) (v : Json) (n : Nat),
          Json.NumeralText numeral cs → numeral.toJson? = some v → n < UInt64.size →
          (v.StandsFor n ↔ Json.Spells n cs) := by
  have run := run_count compiled answered
  refine ⟨fun n => ?_, fun uncounted => ?_, statements_count compiled answered,
    fun _ _ _ _ text made room => Json.standsFor_iff_spells text made room⟩
  · rw [run, ← countOf_eq_ok_iff]
    exact ⟨fun same => congrArg (·.1.1) same, fun counted => by rw [counted]⟩
  · obtain ⟨reason, malformed⟩ := exists_countOf_eq_error uncounted
    rw [malformed] at run
    exact ⟨reason, run, fun values filled => run_insert_of_uncounted run filled⟩

/-- Rows with the least number that does not fit 64 bits. -/
def tooMany : List Row :=
  [[("aggregate", .string "18446744073709551616")]]

theorem areExact_tooMany : Row.AreExact tooMany := by
  intro row member
  obtain rfl := List.mem_singleton.1 member
  exact .object (List.nodup_singleton _) (List.forall_mem_singleton.2 (.string _))

/-- A live server that answers every statement with these rows. -/
def overflowing : Http.Server :=
  answering fun _ => Text.Utf8.encode (Row.wholeText tooMany)

theorem run_count_overflowing
    : ∃ s later new, users.compileCount ledger.dialect = .ok s
        ∧ (ledger.run s).run {} overflowing [] = ((.ok tooMany, later), new) := by
  have answered : overflowing.Answers
      (([] : List Http.Exchange).map (·.request) ++ ledger.opening ledgerEndpoint)
      (ledger.request ledgerEndpoint (countText (users.table.sql ledger.dialect)))
      (Text.Utf8.encode (Row.wholeText tooMany)) :=
    answers_answering rfl _ _ _
  obtain ⟨new, run, -⟩ := run_direct_of_answers reaches_ledger
    (isEmpty_trimmed_count (users.table.sql ledger.dialect))
    (fun _ => ⟨pong, rfl, pingFault?_pong⟩) answered
  obtain ⟨later, -, -, acts⟩ := acts_runSql (c := ledger)
    ("select count(*) as aggregate from " ++ users.table.sql ledger.dialect) {} overflowing []
    (.new ledger.config)
  have rows : ledger.config.mode.rows (Text.Utf8.encode (Row.wholeText tooMany)) = .ok tooMany :=
    rows_wholeText areExact_tooMany
  refine ⟨_, later, new, compileCount_of_plain rfl rfl _, ?_⟩
  rw [Connection.run, render_text, acts, run, rows]
  rfl

theorem not_countsAs_tooMany
    : ¬ ∃ n < UInt64.size, Row.CountsAs n tooMany := by
  rintro ⟨n, room, name, v, fields, others, shape, stands⟩
  obtain rfl : .string "18446744073709551616" = v := by
    simp only [tooMany, List.cons.injEq, Prod.mk.injEq] at shape
    exact shape.1.1.2
  have read : Json.unsigned? (.string "18446744073709551616") = some (UInt64.ofNat n) :=
    Json.unsigned?_eq_some_iff.2 (by rwa [UInt64.toNat_ofNat_of_lt' room])
  have unread : Json.unsigned? (.string "18446744073709551616") = none := by decide
  cases unread.symm.trans read

/-- A count of 2 to the 64th is no count: it fails as a malformed response, and so does the insert that is
to be numbered from it.
-/
theorem count_eq_ok_iff_tooMany
    : ∃ s later after, users.compileCount ledger.dialect = .ok s
        ∧ (ledger.run s).run {} overflowing [] = ((.ok tooMany, later), after)
        ∧ (∀ n : UInt64, (ledger.count users).run {} overflowing [] = ((.ok n, later), after)
          ↔ Row.CountsAs n.toNat tooMany)
        ∧ (∃ reason,
          (ledger.count users).run {} overflowing []
            = ((.error (.malformedResponse reason), later), after)
          ∧ (ledger.insert users (.many mixedRecords)).run {} overflowing []
            = ((.error (.malformedResponse reason), later), after))
        ∧ Http.statements after = [Text.trimmed (ledger.render s)] := by
  obtain ⟨s, later, after, compiled, answered⟩ := run_count_overflowing
  obtain ⟨counts, malformed, sent, -⟩ := count_eq_ok_iff compiled answered
  obtain ⟨reason, count, insert⟩ := malformed not_countsAs_tooMany
  obtain ⟨new, rfl, statements⟩ := sent (.new _)
  have filled : (InsertValues.many mixedRecords).batch ≠ [] := by
    simp [InsertValues.batch, mixedRecords]
  exact ⟨s, later, _, compiled, answered, counts, ⟨reason, count, insert _ filled⟩, statements⟩

end Connection

end ColumnStore
