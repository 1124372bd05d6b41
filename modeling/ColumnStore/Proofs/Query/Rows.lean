import Mathlib.Data.List.DropRight
import ColumnStore.Proofs.Query.Insertion
import ColumnStore.Proofs.Query.Outcome

/-! What an insert keeps of the records that it is given: the values of all of them, and a row for each.
The columns are those of the first record, so a batch that starts with an empty record and has others
keeps nothing; every other batch is kept whole.
-/

namespace ColumnStore

-----------------------------------------------------------------------------------------
-- Rows and how they are read back
-----------------------------------------------------------------------------------------

namespace Statement

/-- A statement ends in rows of values, each in parentheses, behind the word that announces them. -/
def EndsInRows (s : Statement) (rows : List (List Value)) : Prop :=
  rows ≠ []
    ∧ ∃ head, s = .text (head ++ " values ") ++ .joined ", " (rows.map Insertion.row)

theorem symbols_joined_cons (separator : String) (s t : Statement) (rest : List Statement)
    : (joined separator (s :: t :: rest)).symbols
      = s.symbols ++ (textSymbols separator ++ (joined separator (t :: rest)).symbols) := by
  rw [joined, symbols_append, symbols_append, symbols_text, List.append_assoc]
  simp

end Statement

namespace Symbol

/-- Rows are written with values and with what separates them. -/
def isOfRows : Symbol → Bool
  | char c => ['(', ')', ',', ' '].contains c
  | .literal _ => true

/-- The values in front of the first opening parenthesis, and those behind each of them. -/
def readRows : List Symbol → List Value × List (List Value)
  | [] => ([], [])
  | .char c :: rest =>
    let (values, rows) := readRows rest
    if c = '(' then ([], values :: rows) else (values, rows)
  | .literal v :: rest =>
    let (values, rows) := readRows rest
    (v :: values, rows)

end Symbol

namespace Insertion

open Statement ColumnStore.Symbol

/-- The values of a row are read, by induction over them. -/
theorem readRows_values (more : List Symbol)
    : ∀ values : List Value,
        readRows ((joined ", " (values.map param)).symbols ++ more)
          = (values ++ (readRows more).1, (readRows more).2)
  | [] => rfl
  | [v] => rfl
  | v :: w :: rest => by
    have later := readRows_values more (w :: rest)
    have here (more : List Symbol) : readRows ((param v).symbols ++ (textSymbols ", " ++ more))
        = (v :: (readRows more).1, (readRows more).2) := rfl
    simp only [List.map_cons] at later ⊢
    rw [symbols_joined_cons, List.append_assoc, List.append_assoc, here, later]
    rfl

theorem readRows_row (values : List Value) (more : List Symbol)
    : readRows ((row values).symbols ++ more)
      = ([], (values ++ (readRows more).1) :: (readRows more).2) := by
  have inner := readRows_values (textSymbols ")" ++ more) values
  have opened (more : List Symbol) : readRows (textSymbols "(" ++ more)
      = ([], (readRows more).1 :: (readRows more).2) := rfl
  have closed : readRows (textSymbols ")" ++ more) = readRows more := rfl
  rw [row, symbols_append, symbols_append, symbols_text, symbols_text, List.append_assoc,
    List.append_assoc, opened, inner, closed]

/-- Rows are read as they are, by list induction. -/
theorem readRows_rows
    : ∀ rows : List (List Value),
        readRows (joined ", " (rows.map row)).symbols = ([], rows)
  | [] => rfl
  | [values] => by simpa [readRows, joined] using readRows_row values []
  | values :: next :: rest => by
    have later := readRows_rows (next :: rest)
    have between (more : List Symbol) : readRows (textSymbols ", " ++ more) = readRows more := rfl
    simp only [List.map_cons] at later ⊢
    rw [symbols_joined_cons, readRows_row, between, later, List.append_nil]

theorem isOfRows_joined {parts : List Statement}
    (marks : ∀ s ∈ parts, ∀ x ∈ s.symbols, x.isOfRows)
    : ∀ x ∈ (joined ", " parts).symbols, x.isOfRows := by
  induction parts with
  | nil => simp [joined]
  | cons s rest ih =>
    obtain ⟨here, further⟩ := List.forall_mem_cons.1 marks
    cases rest with
    | nil => exact here
    | cons t more =>
      have separator : ∀ x ∈ textSymbols ", ", x.isOfRows := by decide
      rw [symbols_joined_cons]
      exact List.forall_mem_append.2 ⟨here, List.forall_mem_append.2 ⟨separator, ih further⟩⟩

theorem isOfRows_rows (rows : List (List Value))
    : ∀ x ∈ (joined ", " (rows.map row)).symbols, x.isOfRows := by
  apply isOfRows_joined
  intro s member
  obtain ⟨values, -, rfl⟩ := List.mem_map.1 member
  have inner : ∀ x ∈ (joined ", " (values.map param)).symbols, x.isOfRows := by
    apply isOfRows_joined
    intro t member
    obtain ⟨v, -, rfl⟩ := List.mem_map.1 member
    simp [isOfRows]
  simp only [row, symbols_append]
  exact List.forall_mem_append.2 ⟨List.forall_mem_append.2 ⟨by decide, inner⟩, by decide⟩

end Insertion

namespace Statement

open ColumnStore.Symbol

/-- The rows that a statement ends in can be told from the statement. -/
theorem EndsInRows.readRows_eq {s : Statement} {rows : List (List Value)} (h : s.EndsInRows rows)
    : (readRows (s.symbols.rtakeWhile isOfRows)).2 = rows := by
  obtain ⟨-, head, rfl⟩ := h
  let tail := textSymbols " " ++ (joined ", " (rows.map Insertion.row)).symbols
  have marks : ∀ x ∈ tail, x.isOfRows :=
    List.forall_mem_append.2 ⟨by decide, Insertion.isOfRows_rows rows⟩
  -- The last letter of the word in front is no mark of rows.
  have shape : (text (head ++ " values ") ++ .joined ", " (rows.map Insertion.row)).symbols
      = (textSymbols (head ++ " value") ++ [.char 's']) ++ tail := by
    simp [tail, textSymbols]
  have ending
      : ((textSymbols (head ++ " value") ++ [Symbol.char 's']) ++ tail).rtakeWhile isOfRows = tail := by
    rw [List.rtakeWhile, List.reverse_append, List.takeWhile_append_of_pos (by simpa using marks)]
    simp [isOfRows]
  rw [shape, ending]
  simp [tail, textSymbols, readRows, Insertion.readRows_rows]

/-- A statement ends in rows in one way only. -/
theorem EndsInRows.unique {s : Statement} {rows others : List (List Value)}
    (h : s.EndsInRows rows) (k : s.EndsInRows others)
    : rows = others := by
  rw [← h.readRows_eq, ← k.readRows_eq]

/-- A text that ends in a letter does not end in rows. -/
theorem not_endsInRows_text {sql : String} {c : Char} (last : sql.toList.getLast? = some c)
    (letter : (Symbol.char c).isOfRows = false) (rows : List (List Value))
    : ¬ (text sql).EndsInRows rows := by
  intro h
  have bare : (text sql).symbols.rtakeWhile isOfRows = [] := by
    obtain ⟨front, shape⟩ := List.getLast?_eq_some_iff.1 last
    rw [symbols_text, textSymbols, shape, List.map_append]
    exact List.rtakeWhile_concat_neg _ _ _ (by simp [letter])
  have read := h.readRows_eq
  rw [bare] at read
  exact h.1 read.symm

end Statement

-----------------------------------------------------------------------------------------
-- What an insert keeps
-----------------------------------------------------------------------------------------

namespace InsertValues

/-- All records that are given to an insert. -/
def records : InsertValues → List Record
  | one record => [record]
  | many records => records

/-- Records whose first is not empty are a batch as they are. -/
theorem batch_eq_records {values : InsertValues} {first : Record} {rest : List Record}
    (shape : values.records = first :: rest) (filled : first.isEmpty = false)
    : values.batch = values.records := by
  cases values with
  | one record =>
    obtain rfl : record = first := (List.cons.inj shape).1
    simp [batch, records, filled]
  | many => rfl

/-- The first record is empty and a later one is not. -/
def IsLedByEmpty (values : InsertValues) : Prop :=
  ∃ first rest, values.records = first :: rest
    ∧ first.isEmpty ∧ ∃ record ∈ rest, record.isEmpty = false

/-- If the first record is empty and no later one is filled, all are empty. -/
theorem isEmpty_of_leading {values : InsertValues}
    (leading : ∀ first rest, values.records = first :: rest → first.isEmpty)
    (whole : ¬ values.IsLedByEmpty)
    : ∀ record ∈ values.records, record.isEmpty := by
  intro record member
  obtain ⟨first, rest, shape⟩ := List.exists_cons_of_ne_nil (List.ne_nil_of_mem member)
  have empty := leading first rest shape
  rcases List.mem_cons.1 (shape ▸ member) with rfl | later
  · exact empty
  · by_contra filled
    exact whole ⟨first, rest, shape, empty, record, later, by simpa using filled⟩

/-- A statement keeps what is given to an insert: it binds the values of all records, one record after
the other and each in the order of its fields, and where some record has a value it ends in one row for
each record.
-/
structure AreKeptBy (values : InsertValues) (s : Statement) : Prop where
  params : s.params = values.records.flatMap Record.values
  rows
    : (∃ record ∈ values.records, record.isEmpty = false) →
        ∀ rows, s.EndsInRows rows ↔ rows = values.records.map Record.values

end InsertValues

theorem Record.values_eq_nil_iff {r : Record}
    : r.values = [] ↔ r.isEmpty := by
  simp [Record.values, Record.isEmpty]

namespace Query

open Statement

variable {d : Dialect} {q : Query}

/-- The statement that gives no values. -/
def defaultInsert (d : Dialect) (q : Query) : Statement :=
  .text ("insert into " ++ q.table.sql d ++ " default values")

theorem not_endsInRows_defaultInsert (rows : List (List Value))
    : ¬ (q.defaultInsert d).EndsInRows rows :=
  have last : ("insert into " ++ q.table.sql d ++ " default values").toList.getLast? = some 's' := by
    rw [String.toList_append, List.getLast?_append]
    rfl
  not_endsInRows_text last rfl rows

/-- A batch whose first record is not empty is kept. -/
theorem areKeptBy_compileInsert {values : InsertValues} {first : Record} {rest : List Record}
    (shape : values.records = first :: rest) (filled : first.isEmpty = false)
    : values.AreKeptBy (q.compileInsert d values) := by
  have insertion : q.compileInsert d values
      = (Insertion.ofRecords (first :: rest)).statement (q.table.sql d) := by
    rw [← Insertion.compileInsert_eq d q rfl filled]
    simp only [compileInsert, InsertValues.batch_eq_records shape filled, shape]
    rfl
  have rows : (q.compileInsert d values).EndsInRows ((first :: rest).map Record.values) := by
    let head := "insert into " ++ q.table.sql d ++ " (" ++ columnListSql first.columns ++ ")"
    refine ⟨by simp, head, ?_⟩
    rw [insertion, Insertion.statement, show ") values " = ")" ++ " values " from rfl,
      ← String.append_assoc]
    rfl
  have params (values : List Value) : (Insertion.row values).params = values := by
    simp [Insertion.row, flatMap_params_param]
  exact {
    params := by
      rw [insertion, shape]
      simp [Insertion.statement, Insertion.ofRecords, List.flatMap_map, params]
    rows := by
      intro _ others
      rw [shape]
      constructor
      · exact fun h => h.unique rows
      · rintro rfl
        exact rows }

/-- Without records, or with an empty one in front, no values are given. -/
theorem compileInsert_eq_default {values : InsertValues}
    (leading : ∀ first rest, values.records = first :: rest → first.isEmpty)
    : q.compileInsert d values = q.defaultInsert d := by
  cases values with
  | one record => simp [compileInsert, InsertValues.batch, leading record [] rfl, defaultInsert]
  | many records =>
    cases records with
    | nil => rfl
    | cons first rest => simp [compileInsert, InsertValues.batch, leading first rest rfl, defaultInsert]

/-- An insert keeps what it is given, unless the first record is empty and a later one is not. Then it
binds nothing and gives no rows.
-/
theorem compileInsert_keeps_iff (d : Dialect) (q : Query) (values : InsertValues)
    : (values.AreKeptBy (q.compileInsert d values) ↔ ¬ values.IsLedByEmpty)
      ∧ (values.IsLedByEmpty →
          q.compileInsert d values = q.defaultInsert d ∧ (q.compileInsert d values).params = []
            ∧ ∀ rows, ¬ (q.compileInsert d values).EndsInRows rows) := by
  by_cases leading : ∀ first rest, values.records = first :: rest → first.isEmpty
  · have bare : q.compileInsert d values = q.defaultInsert d := compileInsert_eq_default leading
    have params : (q.compileInsert d values).params = [] := by
      rw [bare]
      rfl
    have rows : ∀ rows, ¬ (q.compileInsert d values).EndsInRows rows :=
      bare ▸ not_endsInRows_defaultInsert
    refine ⟨⟨?_, ?_⟩, fun _ => ⟨bare, params, rows⟩⟩
    · rintro kept ⟨first, rest, shape, -, record, member, filled⟩
      have present : record ∈ values.records := shape ▸ List.mem_cons_of_mem _ member
      exact rows _ ((kept.rows ⟨record, present, filled⟩ _).2 rfl)
    · intro whole
      have empty := InsertValues.isEmpty_of_leading leading whole
      exact {
        params := by
          rw [params, eq_comm, List.flatMap_eq_nil_iff]
          exact fun record member => Record.values_eq_nil_iff.2 (empty record member)
        rows := by
          rintro ⟨record, member, filled⟩
          simp [empty record member] at filled }
  · obtain ⟨first, rest, shape, filled⟩
        : ∃ first rest, values.records = first :: rest ∧ first.isEmpty = false := by
      simpa using leading
    have whole : ¬ values.IsLedByEmpty := by
      rintro ⟨other, others, same, empty, -⟩
      obtain rfl : other = first := (List.cons.inj (same.symm.trans shape)).1
      simp [empty] at filled
    exact ⟨⟨fun _ => whole, fun _ => areKeptBy_compileInsert shape filled⟩,
      fun led => absurd led whole⟩

/-- A batch that starts with an empty record. -/
def ledBatch : InsertValues :=
  .many [.empty, .ofList [("a", .int 1)]]

/-- The value of the other record is not bound. -/
theorem not_areKeptBy_ledBatch
    : ¬ ledBatch.AreKeptBy (({ table := .name "t" } : Query).compileInsert {} ledBatch) := by
  intro kept
  have params : [] = [Value.int 1] := kept.params
  cases params

end Query

end ColumnStore
