import Mathlib.Data.List.Lex
import Mathlib.Data.String.Basic
import ColumnStore.Numbering
import ColumnStore.Proofs.Text.Utf8

/-! A record is read by its columns, whatever their order. Sorting and numbering change that order
and no value, and records with the same columns have them in one order afterwards.
-/

namespace ColumnStore

namespace Record

theorem get?_eq_some_iff {r : Record} {column : String} {v : Value}
    : r.get? column = some v ↔ (column, v) ∈ r.fields :=
  Keyed.lookup_eq_some_iff r.nodup

/-- The values stand in the order of the columns. -/
theorem map_get?_columns (r : Record)
    : r.columns.map r.get? = r.values.map some := by
  rw [columns, values, List.map_map, List.map_map]
  refine List.map_congr_left ?_
  rintro ⟨column, v⟩ member
  exact get?_eq_some_iff.2 member

theorem mem_columns_iff {r : Record} {column : String}
    : column ∈ r.columns ↔ ∃ v, r.get? column = some v := by
  simp [columns, get?_eq_some_iff]

theorem get?_eq_none_iff {r : Record} {column : String}
    : r.get? column = none ↔ column ∉ r.columns := by
  rw [mem_columns_iff, ← Option.isSome_iff_exists, Option.not_isSome_iff_eq_none]

/-- Records with the same fields have the same values. -/
theorem get?_of_perm {r s : Record} (h : r.fields.Perm s.fields) (column : String)
    : r.get? column = s.get? column := by
  apply Option.ext
  intro v
  rw [get?_eq_some_iff, get?_eq_some_iff]
  exact h.mem_iff

-----------------------------------------------------------------------------------------
-- Sorting
-----------------------------------------------------------------------------------------

theorem perm_sorted (r : Record)
    : r.sorted.fields.Perm r.fields :=
  List.mergeSort_perm r.fields _

@[simp] theorem get?_sorted (r : Record) (column : String)
    : r.sorted.get? column = r.get? column :=
  get?_of_perm r.perm_sorted column

@[simp] theorem mem_columns_sorted {r : Record} {column : String}
    : column ∈ r.sorted.columns ↔ column ∈ r.columns :=
  (r.perm_sorted.map _).mem_iff

/-- Sorted columns are in strict order, as no column occurs twice. -/
theorem pairwise_columns_sorted (r : Record)
    : r.sorted.columns.Pairwise (· < ·) := by
  have ordered : r.sorted.fields.Pairwise fun a b => a.1 ≤ b.1 := by
    have sorted : (r.fields.mergeSort fun a b => decide (a.1 ≤ b.1)).Pairwise
        fun a b => decide (a.1 ≤ b.1) = true :=
      List.pairwise_mergeSort (fun a b c => by simpa using String.le_trans)
        (fun a b => by simpa using String.le_total a.1 b.1) r.fields
    simpa [Record.sorted] using sorted
  have columns : r.sorted.columns.Pairwise (· ≤ ·) := List.pairwise_map.2 ordered
  refine columns.imp₂ ?_ r.sorted.nodup
  exact fun a b below different => lt_of_le_of_ne below different

-----------------------------------------------------------------------------------------
-- Putting a column first
-----------------------------------------------------------------------------------------

theorem columns_putFirst (r : Record) (column : String) (v : Value)
    : (r.putFirst column v).columns = column :: r.columns.filter (· ≠ column) := by
  simp [columns, putFirst, Keyed.without, List.filter_map, Function.comp_def]

@[simp] theorem get?_putFirst (r : Record) (column name : String) (v : Value)
    : (r.putFirst column v).get? name = if name = column then some v else r.get? name := by
  apply Option.ext
  intro w
  rw [get?_eq_some_iff]
  by_cases same : name = column
  · simp [putFirst, same, Keyed.without, eq_comm]
  · simp [putFirst, same, Keyed.without, get?_eq_some_iff]

theorem columns_prepend (r : Record) (column : String) (v : Value)
    : (r.prepend column v).columns = column :: r.columns.filter (· ≠ column) :=
  r.columns_putFirst column _

theorem get?_prepend (r : Record) (column name : String) (v : Value)
    : (r.prepend column v).get? name
      = if name = column then some ((r.get? column).getD v) else r.get? name :=
  r.get?_putFirst column name _

end Record

end ColumnStore
