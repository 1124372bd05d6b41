import Mathlib.Data.List.Sort
import ColumnStore.Connection.Queries
import ColumnStore.Proofs.Record.Columns

/-! An insert says which columns it fills and gives a row of values for each record. The columns are
those of the first record, so the rows of the others are right only if all records have one order.
-/

namespace ColumnStore

/-- What an insert says: its columns, and rows of values in the order of the columns. -/
structure Insertion where
  columns : List String
  rows : List (List Value)

namespace Insertion

/-- The insertion of records in their own order. -/
def ofRecords (records : List Record) : Insertion where
  columns := (records.head?.map Record.columns).getD []
  rows := records.map Record.values

def row (values : List Value) : Statement :=
  .text "(" ++ .joined ", " (values.map .param) ++ .text ")"

/-- The statement of an insertion into a table. -/
def statement (table : String) (i : Insertion) : Statement :=
  .text ("insert into " ++ table ++ " (" ++ columnListSql i.columns ++ ") values ")
    ++ .joined ", " (i.rows.map row)

/-- An insert of records whose first is not empty is the statement of their insertion. -/
theorem compileInsert_eq (d : Dialect) (q : Query) {records : List Record} {first : Record}
    (head : records.head? = some first) (filled : first.isEmpty = false)
    : q.compileInsert d (.many records) = (ofRecords records).statement (q.table.sql d) := by
  obtain ⟨rest, rfl⟩ : ∃ rest, records = first :: rest := by
    cases records with
    | nil => simp at head
    | cons one rest =>
      obtain rfl := Option.some.inj head
      exact ⟨rest, rfl⟩
  have rows : (first :: rest).map Query.row = (ofRecords (first :: rest)).rows.map row := by
    rw [ofRecords, List.map_map]
    rfl
  simp only [Query.compileInsert, InsertValues.batch, filled, rows]
  rfl

/-- An insertion puts every value of some records under its own column: it lists the numbering
column first and the others in the order of their bytes, and has one row for each record. A record
without the numbering column has its number there, counted on from a number of rows.
-/
structure Aligns (i : Insertion) (numbering : String) (count : Nat) (records : List Record)
    : Prop where
  first : i.columns.head? = some numbering
  others
    : i.columns.tail.Pairwise fun a b =>
        Text.Utf8.encode a.toList < Text.Utf8.encode b.toList
  listed
    : ∀ record ∈ records, ∀ column,
        column ∈ i.columns.tail ↔ column ≠ numbering ∧ column ∈ record.columns
  rows : i.rows.length = records.length
  widths : ∀ row ∈ i.rows, row.length = i.columns.length
  own
    : ∀ (place : Nat) (record : Record) (row : List Value),
        records[place]? = some record → i.rows[place]? = some row →
        ∀ (j : Nat) (column : String), i.columns[j]? = some column → column ≠ numbering →
          row[j]? = record.get? column
  numbered
    : ∀ (place : Nat) (record : Record) (row : List Value),
        records[place]? = some record → i.rows[place]? = some row →
        ∃ number : UInt64, number.toNat = count + place + 1
          ∧ row.head? = some ((record.get? numbering).getD (.uint number))

end Insertion

namespace Numbering

variable {numbering : String} {base : UInt64} {records : List Record}

theorem length_stamp : (stamp numbering base records).length = records.length := by
  simp [stamp]

/-- The record at a place gets the number that counts on to its place. -/
theorem getElem?_stamp (place : Nat)
    : (stamp numbering base records)[place]?
      = records[place]?.map fun record =>
          record.prepend numbering (.uint (base + UInt64.ofNat place + 1)) := by
  simp [stamp, List.getElem?_zipIdx, Function.comp_def]

/-- Below the greatest number, counting on does not start over. -/
theorem toNat_number {place : Nat} (room : base.toNat + (place + 1) < UInt64.size)
    : (base + UInt64.ofNat place + 1).toNat = base.toNat + place + 1 := by
  have size : UInt64.size = 2 ^ 64 := rfl
  simp only [UInt64.toNat_add, UInt64.toNat_ofNat', UInt64.toNat_one]
  omega

end Numbering

namespace Record

/-- The columns of a record but one, in order. -/
def others (r : Record) (column : String) : List String :=
  r.sorted.columns.filter (· ≠ column)

variable {r s : Record} {column : String}

theorem mem_others {name : String}
    : name ∈ r.others column ↔ name ≠ column ∧ name ∈ r.columns := by
  simp [others, and_comm]

theorem pairwise_others : (r.others column).Pairwise (· < ·) :=
  r.pairwise_columns_sorted.filter _

/-- Records that have the same columns but for one have the others in the same order. -/
theorem others_eq_of_alike
    (alike : ∀ name, name ≠ column → (name ∈ r.columns ↔ name ∈ s.columns))
    : r.others column = s.others column := by
  refine pairwise_others.eq_of_mem_iff pairwise_others ?_
  intro name
  rw [mem_others, mem_others]
  exact and_congr_right (alike name)

theorem columns_prepend_sorted (v : Value)
    : (r.sorted.prepend column v).columns = column :: r.others column :=
  r.sorted.columns_prepend column v

/-- The value at a place of a record is that of the column at the place. -/
theorem getElem?_values {j : Nat} {name : String} (h : r.columns[j]? = some name)
    : r.values[j]? = r.get? name := by
  have both : (r.columns.map r.get?)[j]? = (r.values.map some)[j]? := by rw [map_get?_columns]
  rw [List.getElem?_map, List.getElem?_map, h] at both
  cases found : r.values[j]? with
  | none => simp [found] at both
  | some v => simpa [found] using both.symm

end Record

namespace Insertion

variable {numbering : String} {base : UInt64} {records : List Record}

/-- The row at a place is that of the record there, with its number in front. -/
theorem getElem?_rows_stamp (place : Nat)
    : (ofRecords (Numbering.stamp numbering base records)).rows[place]?
      = records[place]?.map fun record =>
          (record.prepend numbering (.uint (base + UInt64.ofNat place + 1))).values := by
  rw [ofRecords, List.getElem?_map, Numbering.getElem?_stamp, Option.map_map]
  rfl

/-- The columns are those of the first record, with the numbering column in front. -/
theorem columns_stamp (leader : Record) (rest : List Record)
    : (ofRecords (Numbering.stamp numbering base (leader :: rest))).columns
      = numbering :: leader.columns.filter (· ≠ numbering) :=
  leader.columns_prepend numbering _

/-- Numbered records with the same columns up to the numbering column have them in one order. -/
theorem aligns_stamp (filled : records ≠ [])
    (alike : ∀ r ∈ records, ∀ s ∈ records, ∀ column, column ≠ numbering →
      (column ∈ r.columns ↔ column ∈ s.columns))
    (room : base.toNat + records.length < UInt64.size)
    : (ofRecords (Numbering.stamp numbering base (records.map Record.sorted))).Aligns numbering
        base.toNat records := by
  obtain ⟨leader, rest, rfl⟩ := List.exists_cons_of_ne_nil filled
  let i := ofRecords (Numbering.stamp numbering base ((leader :: rest).map Record.sorted))
  have same : ∀ record ∈ leader :: rest, record.others numbering = leader.others numbering :=
    fun record member => Record.others_eq_of_alike (alike record member leader (by simp))
  have columns : i.columns = numbering :: leader.others numbering := columns_stamp leader.sorted _
  have row_eq {place : Nat} {record : Record} {row : List Value}
      (placed : (leader :: rest)[place]? = some record) (at_place : i.rows[place]? = some row)
      : row = (record.sorted.prepend numbering
          (.uint (base + UInt64.ofNat place + 1))).values := by
    rw [getElem?_rows_stamp, List.getElem?_map, placed] at at_place
    exact (Option.some.inj at_place).symm
  have header {place : Nat} {record : Record} (placed : (leader :: rest)[place]? = some record)
      (v : Value) : (record.sorted.prepend numbering v).columns = i.columns := by
    rw [columns, Record.columns_prepend_sorted, same record (List.mem_of_getElem? placed)]
  have length : i.rows.length = (leader :: rest).length := by
    simp [i, ofRecords, Numbering.length_stamp]
  exact {
    first := by rw [columns, List.head?_cons]
    others := by
      rw [columns, List.tail_cons]
      exact Record.pairwise_others.imp fun h => Text.Utf8.encode_lt_iff.2 (String.lt_iff.1 h)
    listed := by
      intro record member column
      rw [columns, List.tail_cons, ← same record member]
      exact Record.mem_others
    rows := length
    widths := by
      intro row member
      obtain ⟨place, at_place⟩ := List.mem_iff_getElem?.1 member
      have early := (List.getElem?_eq_some_iff.1 at_place).1
      have placed := List.getElem?_eq_getElem (length ▸ early)
      rw [row_eq placed at_place, ← header placed (.uint (base + UInt64.ofNat place + 1))]
      simp [Record.values, Record.columns]
    own := by
      intro place record row placed at_place j column listed other
      rw [← header placed (.uint (base + UInt64.ofNat place + 1))] at listed
      rw [row_eq placed at_place, Record.getElem?_values listed, Record.get?_prepend, if_neg other,
        Record.get?_sorted]
    numbered := by
      intro place record row placed at_place
      have early := (List.getElem?_eq_some_iff.1 placed).1
      refine ⟨base + UInt64.ofNat place + 1, Numbering.toNat_number (by omega), ?_⟩
      rw [row_eq placed at_place, ← Record.get?_sorted]
      rfl }

end Insertion

end ColumnStore
