import ColumnStore.Proofs.Connection.Operations

/-! A batch is numbered as a whole or not at all. Every record of it ends up with the numbering column in
front, under its own value or under the number of its place, and has its other fields as before.
-/

namespace ColumnStore.Numbering

/-- The ids that a numbering gave: those of the records that had none of their own. -/
def given (column : String) (records numbered : List Record) : List (Option Value) :=
  ((records.zip numbered).filter fun pair => column ∉ pair.1.columns).map fun pair =>
    pair.2.get? column

/-- A batch after it was numbered on from a count. -/
structure Numbers (column : String) (count : Nat) (records numbered : List Record) : Prop where
  length : numbered.length = records.length
  /-- The column comes first, and the other fields follow in their order. -/
  fields
    : ∀ (place : Nat) (record after : Record),
        records[place]? = some record → numbered[place]? = some after →
        ∃ id : UInt64, id.toNat = count + place + 1
          ∧ after.fields
            = (column, (record.get? column).getD (.uint id))
              :: record.fields.filter (·.1 ≠ column)
  once : ∀ after ∈ numbered, after.columns.count column = 1
  increasing
    : ∃ ids : List UInt64, ids.Pairwise (· < ·)
        ∧ given column records numbered = ids.map fun id => some (.uint id)

variable {column : String} {base : UInt64} {records : List Record}

/-- A column that was put in front is there once. -/
theorem count_columns_prepend (record : Record) (v : Value)
    : (record.prepend column v).columns.count column = 1 :=
  List.count_eq_one_of_mem (record.prepend column v).nodup (by simp [Record.columns_prepend])

/-- The numbers of the places of the records that have none, in their order. -/
def freshIds (column : String) (base : UInt64) (records : List Record) : List UInt64 :=
  (records.zipIdx.filter fun pair => column ∉ pair.1.columns).map fun pair =>
    base + UInt64.ofNat pair.2 + 1

theorem given_stamp
    : given column records (stamp column base records)
      = (freshIds column base records).map fun id => some (.uint id) := by
  let stamped (pair : Record × Nat) : Record :=
    pair.1.prepend column (.uint (base + UInt64.ofNat pair.2 + 1))
  have paired : records.zip (stamp column base records)
      = records.zipIdx.map fun pair => (pair.1, stamped pair) := calc
    _ = (records.zipIdx.map Prod.fst).zip (records.zipIdx.map stamped) := by
      rw [List.zipIdx_map_fst]
      rfl
    _ = _ := List.zip_map'
  rw [given, paired, List.filter_map, List.map_map, freshIds, List.map_map]
  refine List.map_congr_left fun pair member => ?_
  have missing : column ∉ pair.1.columns := by simpa using (List.mem_filter.1 member).2
  simp [stamped, Record.get?_prepend, Record.get?_eq_none_iff.2 missing]

/-- Places only grow along a batch, and so do the numbers that are counted on to them. -/
theorem pairwise_freshIds (room : base.toNat + records.length < UInt64.size)
    : (freshIds column base records).Pairwise (· < ·) := by
  have places : records.zipIdx.Pairwise fun a b => a.2 < b.2 := by
    rw [← List.pairwise_map (f := Prod.snd), List.zipIdx_map_snd]
    exact List.pairwise_lt_range'
  refine List.pairwise_map.2 ((places.filter _).imp_of_mem ?_)
  intro a b first second before
  have early := List.snd_lt_of_mem_zipIdx (List.mem_filter.1 first).1
  have late := List.snd_lt_of_mem_zipIdx (List.mem_filter.1 second).1
  rw [UInt64.lt_iff_toNat_lt, toNat_number (by omega), toNat_number (by omega)]
  omega

theorem numbers_stamp (room : base.toNat + records.length < UInt64.size)
    : Numbers column base.toNat records (stamp column base records) where
  length := length_stamp
  fields := by
    intro place record after placed stamped
    have early := (List.getElem?_eq_some_iff.1 placed).1
    rw [getElem?_stamp, placed] at stamped
    obtain rfl := Option.some.inj stamped
    exact ⟨base + UInt64.ofNat place + 1, toNat_number (by omega), rfl⟩
  once := by
    intro after member
    obtain ⟨⟨record, place⟩, -, rfl⟩ := List.mem_map.1 member
    exact count_columns_prepend record _
  increasing := ⟨freshIds column base records, pairwise_freshIds room, given_stamp⟩

/-- A batch is numbered on from what its counter gives, as long as the numbers last; when the counter
fails, that is the failure and no record is touched. An insert numbers its records in this way from
the count of its own query, and goes on only if they were numbered.
-/
theorem assign_numbers (column : String) (records : List Record)
    : (∀ base : UInt64, base.toNat + records.length < UInt64.size →
        ∃ numbered, assign column (.ok base : Except Error UInt64) records = (.ok (), numbered)
          ∧ Numbers column base.toNat records numbered)
      ∧ (∀ e : Error, assign column (.error e) records = (.error e, records))
      ∧ ∀ (c : Connection) (q : Query) (values : InsertValues) (session counted : Session)
          (server : Http.Server) (log asked : List Http.Exchange) (count : Except Error UInt64),
          c.numberingColumn = column → values.ordered = records → records ≠ [] →
          (c.count q).run session server log = ((count, counted), asked) →
          (c.insert q values).run session server log
            = match assign column count records with
              | (.error e, _) => ((.error e, counted), asked)
              | (.ok (), numbered) =>
                (c.execute (c.render (q.compileInsert c.dialect (.many numbered)))).run counted
                  server asked := by
  refine ⟨fun base room => ⟨_, rfl, numbers_stamp room⟩, fun e => rfl, ?_⟩
  rintro c q values session counted server log asked count rfl rfl filled answered
  rw [Connection.insert_of_filled (by simpa using filled), Connection.run_bind, answered]
  cases count <;> rfl

/-- Three records, the second with an id of its own, and a count that is only just low enough. -/
def mixedBatch : List Record := [
  .ofList [("name", .string "a")],
  .ofList [("name", .string "b"), ("id", .int (-1)), ("age", .null)],
  .empty]

/-- They are numbered up to the greatest number there is, and their insert goes no further than a count
that fails.
-/
theorem assign_numbers_mixedBatch
    : (UInt64.ofNat (UInt64.size - 4)).toNat + mixedBatch.length < UInt64.size
      ∧ (∃ numbered,
        assign "id" (.ok (UInt64.ofNat (UInt64.size - 4)) : Except Error UInt64) mixedBatch
            = (.ok (), numbered)
          ∧ Numbers "id" (UInt64.ofNat (UInt64.size - 4)).toNat mixedBatch numbered
          ∧ numbered.map Record.columns = [["id", "name"], ["id", "name", "age"], ["id"]])
      ∧ ∃ counted asked,
        (Connection.ledger.count Connection.users).run {} Connection.rowless []
            = ((.error (.malformedResponse "count query returned no rows"), counted), asked)
          ∧ (Connection.ledger.insert Connection.users (.many mixedBatch)).run {}
              Connection.rowless []
            = ((.error (.malformedResponse "count query returned no rows"), counted), asked) := by
  have room : (UInt64.ofNat (UInt64.size - 4)).toNat + mixedBatch.length < UInt64.size := by decide
  obtain ⟨numbered, assigned, numbers⟩ := (assign_numbers "id" mixedBatch).1 _ room
  obtain ⟨counted, asked, answered, -⟩ := Connection.run_count_rowless
  have inserted := (assign_numbers "id" (InsertValues.many mixedBatch).ordered).2.2 Connection.ledger
    Connection.users (.many mixedBatch) {} counted Connection.rowless [] asked _ rfl rfl
    (by simp [InsertValues.ordered, mixedBatch]) answered
  refine ⟨room, ⟨numbered, assigned, numbers, ?_⟩, counted, asked, answered, inserted⟩
  obtain rfl := congrArg (·.2) assigned
  rfl

end ColumnStore.Numbering
