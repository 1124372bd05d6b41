import ColumnStore.Keyed
import ColumnStore.Value

/-! A record is one row to insert: columns with their values, in an order of its own.
No column occurs twice, which every operation here keeps.
-/

namespace ColumnStore

/-- A column name with its value. -/
abbrev Field := String × Value

/-- Columns with their values, no column twice. -/
structure Record where
  fields : List Field := []
  nodup : (fields.map (·.1)).Nodup := by simp

namespace Record

def empty : Record := {}

def columns (r : Record) : List String :=
  r.fields.map (·.1)

def values (r : Record) : List Value :=
  r.fields.map (·.2)

def size (r : Record) : Nat :=
  r.fields.length

def isEmpty (r : Record) : Bool :=
  r.fields.isEmpty

def get? (r : Record) (column : String) : Option Value :=
  r.fields.lookup column

/-- Writes a column: a present one keeps its place, a new one goes to the end. -/
def set (r : Record) (column : String) (value : Value) : Record :=
  ⟨Keyed.set column value r.fields, Keyed.nodup_set column value r.nodup⟩

/-- The record that results from writing the pairs one after another. -/
def ofList (pairs : List Field) : Record :=
  pairs.foldl (fun r (c, v) => r.set c v) empty

/-- The fields by column name, in the order of the names' characters. -/
def sorted (r : Record) : Record :=
  ⟨r.fields.mergeSort (fun a b => a.1 ≤ b.1),
    ((List.mergeSort_perm r.fields _).map _).nodup_iff.2 r.nodup⟩

/-- Puts a column first with the given value, which replaces its own. -/
def putFirst (r : Record) (column : String) (value : Value) : Record :=
  ⟨(column, value) :: Keyed.without column r.fields,
    Keyed.nodup_cons_without column value r.nodup⟩

/-- Puts a column first with its own value, or with the given one if it has none. -/
def prepend (r : Record) (column : String) (value : Value) : Record :=
  r.putFirst column ((r.get? column).getD value)

end Record

end ColumnStore
