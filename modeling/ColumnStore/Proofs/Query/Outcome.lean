import ColumnStore.Proofs.Query.Names
import ColumnStore.Proofs.Sql.Filling

/-! What comes of compiling a query. Only a raw text can fail in a read, by its number of values, and
the first that does gives the failure; a mutation fails before that if it is joined or limited. What
compiles binds the values of the query in the order in which they appear.
-/

namespace ColumnStore

open Lexical

-----------------------------------------------------------------------------------------
-- Raw texts
-----------------------------------------------------------------------------------------

/-- A text has a number of placeholders: question marks that are lexemes by themselves. -/
def Lexical.HasPlaceholders (sql : String) (n : Nat) : Prop :=
  ∃ ls, Lexed sql.toList ls ∧ ls.count .placeholder = n

/-- A raw text has as many placeholders as it has values. -/
def RawFilled (raw : String × List Value) : Prop :=
  HasPlaceholders raw.1 raw.2.length

theorem Lexical.hasPlaceholders_iff {sql : String} {n : Nat}
    : HasPlaceholders sql n ↔ (pieces .code sql.toList).2.length = n := by
  constructor
  · rintro ⟨ls, lexed, rfl⟩
    exact lexed.length_pieces
  · rintro rfl
    obtain ⟨ls, only⟩ := exists_lexed_iff sql.toList
    have lexed : Lexed sql.toList ls := (only ls).2 rfl
    exact ⟨ls, lexed, lexed.length_pieces.symm⟩

/-- The failure of the first raw text whose placeholders and values differ in number. -/
inductive FirstMismatch : List (String × List Value) → Error → Prop where
  | here {raw : String × List Value} {rest : List (String × List Value)} {n : Nat}
      (placeholders : HasPlaceholders raw.1 n) (mismatch : n ≠ raw.2.length)
    : FirstMismatch (raw :: rest) (.placeholderMismatch raw.1 n raw.2.length)
  | later {raw : String × List Value} {rest : List (String × List Value)} {e : Error}
      (filled : RawFilled raw) (more : FirstMismatch rest e)
    : FirstMismatch (raw :: rest) e

namespace FirstMismatch

variable {raws others : List (String × List Value)} {e f : Error}

/-- Where there is a mismatch, not all raw texts are filled. -/
theorem not_filled (h : FirstMismatch raws e)
    : ¬ ∀ raw ∈ raws, RawFilled raw := by
  induction h with
  | here placeholders mismatch =>
    intro filled
    have whole := hasPlaceholders_iff.1 (filled _ List.mem_cons_self)
    exact mismatch (hasPlaceholders_iff.1 placeholders ▸ whole)
  | later _ _ ih => exact fun filled => ih fun raw member => filled raw (List.mem_cons_of_mem _ member)

/-- There is one first mismatch. -/
theorem unique (left : FirstMismatch raws e) (right : FirstMismatch raws f)
    : e = f := by
  induction left with
  | here placeholders mismatch =>
    cases right with
    | here others =>
      rw [← hasPlaceholders_iff.1 placeholders, ← hasPlaceholders_iff.1 others]
    | later filled =>
      exact absurd (hasPlaceholders_iff.1 placeholders ▸ hasPlaceholders_iff.1 filled) mismatch
  | later filled _ ih =>
    cases right with
    | here placeholders mismatch =>
      exact absurd (hasPlaceholders_iff.1 placeholders ▸ hasPlaceholders_iff.1 filled) mismatch
    | later _ more => exact ih more

/-- The first mismatch stays the first, whatever raw texts follow. -/
theorem append (h : FirstMismatch raws e) (others : List (String × List Value))
    : FirstMismatch (raws ++ others) e := by
  induction h with
  | here placeholders mismatch => exact .here placeholders mismatch
  | later filled _ ih => exact .later filled ih

/-- Raw texts that are filled can stand before the first mismatch. -/
theorem after (filled : ∀ raw ∈ raws, RawFilled raw) (h : FirstMismatch others e)
    : FirstMismatch (raws ++ others) e := by
  induction raws with
  | nil => exact h
  | cons raw rest ih =>
    obtain ⟨here, further⟩ := List.forall_mem_cons.1 filled
    exact .later here (ih further)

end FirstMismatch

-----------------------------------------------------------------------------------------
-- What compiling gives
-----------------------------------------------------------------------------------------

/-- What it gives to compile a part of a query that holds some raw texts and binds some values: a
statement with the values, or the failure of the first raw text that is not filled.
-/
inductive Compilation (raws : List (String × List Value)) (values : List Value)
    : Except Error Statement → Prop where
  | ok {s : Statement} (filled : ∀ raw ∈ raws, RawFilled raw) (params : s.params = values)
    : Compilation raws values (.ok s)
  | error {e : Error} (first : FirstMismatch raws e) : Compilation raws values (.error e)

namespace Compilation

variable {raws others : List (String × List Value)} {values more : List Value}
  {result : Except Error Statement}

theorem of_text {s : Statement} (params : s.params = values)
    : Compilation [] values (.ok s) :=
  .ok (by simp) params

/-- Raw texts that are filled can stand before those of a step. -/
theorem after (filled : ∀ raw ∈ raws, RawFilled raw) (h : Compilation others values result)
    : Compilation (raws ++ others) values result := by
  cases h with
  | ok others params => exact .ok (List.forall_mem_append.2 ⟨filled, others⟩) params
  | error first => exact .error (first.after filled)

/-- One step after another: its raw texts follow, and a failure of the first step is that of both. -/
theorem bind (first : Compilation raws values result) {next : Statement → Except Error Statement}
    (second : ∀ s, s.params = values → Compilation others more (next s))
    : Compilation (raws ++ others) more (result >>= next) := by
  cases first with
  | ok filled params => exact (second _ params).after filled
  | error first => exact .error (first.append others)

/-- A step that cannot fail, after another one. -/
theorem map (first : Compilation raws values result) {put : Statement → Statement}
    (params : ∀ s, s.params = values → (put s).params = more)
    : Compilation raws more (result >>= fun s => pure (put s)) := by
  have both := first.bind fun s same => of_text (params s same)
  rwa [List.append_nil] at both

/-- There is a statement exactly if all raw texts are filled. -/
theorem exists_ok_iff (h : Compilation raws values result)
    : (∃ s, result = .ok s) ↔ ∀ raw ∈ raws, RawFilled raw := by
  cases h with
  | ok filled => exact ⟨fun _ => filled, fun _ => ⟨_, rfl⟩⟩
  | error first => exact ⟨nofun, fun filled => (first.not_filled filled).elim⟩

theorem params_of_ok (h : Compilation raws values result) {s : Statement} (ok : result = .ok s)
    : s.params = values := by
  cases h with
  | ok _ params =>
    cases ok
    exact params
  | error => cases ok

/-- There is a failure exactly if it is that of the first raw text that is not filled. -/
theorem eq_error_iff (h : Compilation raws values result) {e : Error}
    : result = .error e ↔ FirstMismatch raws e := by
  cases h with
  | ok filled => exact ⟨nofun, fun first => (first.not_filled filled).elim⟩
  | error first =>
    constructor
    · rintro ⟨⟩
      exact first
    · intro other
      rw [first.unique other]

end Compilation

-----------------------------------------------------------------------------------------
-- Conditions
-----------------------------------------------------------------------------------------

mutual

/-- The values that a condition binds, in order; those of a group are those of its conditions. -/
def Predicate.values : Predicate → List Value
  | .basic _ _ value => [value]
  | .columns _ _ _ => []
  | .inList _ values _ => values
  | .isNull _ _ => []
  | .between _ low high _ => [low, high]
  | .raw _ bindings => bindings
  | .nested entries => Condition.values entries

def Condition.values : List Where → List Value
  | [] => []
  | (_, predicate) :: rest => predicate.values ++ Condition.values rest

end

namespace Statement

@[simp] theorem params_text (sql : String) : (text sql).params = [] := rfl

@[simp] theorem params_param (v : Value) : (param v).params = [v] := rfl

@[simp] theorem params_empty : empty.params = [] := rfl

/-- Statements with a text between them hold the values of each, by list induction. -/
@[simp] theorem params_joined (separator : String)
    : ∀ parts : List Statement, (joined separator parts).params = parts.flatMap params
  | [] => rfl
  | [s] => by simp [joined]
  | s :: t :: rest => by
    rw [joined, params_append, params_append, params_joined separator (t :: rest)]
    · simp
    · simp

theorem flatMap_params_param (values : List Value)
    : (values.map param).flatMap params = values := by
  simp [List.flatMap_map]

end Statement

namespace Condition

open Statement

theorem params_inList (column : String) (values : List Value) (negated : Bool)
    : (inList column values negated).params = values := by
  unfold inList
  split
  · rename_i none
    rw [List.isEmpty_iff.1 none]
    cases negated <;> rfl
  · simp [flatMap_params_param]

theorem compilation_raw (sql : String) (bindings : List Value)
    : Compilation [(sql, bindings)] bindings (empty.pushRaw sql bindings) := by
  by_cases count : (pieces .code sql.toList).2.length = bindings.length
  · obtain ⟨s, added⟩ := empty.exists_pushRaw count
    have filled : RawFilled (sql, bindings) := hasPlaceholders_iff.2 count
    rw [added]
    exact .ok (by simpa using filled) (by simpa using (template_of_pushRaw added).2)
  · rw [empty.pushRaw_eq_error count]
    exact .error (.here (hasPlaceholders_iff.2 rfl) count)

mutual

/-- A condition compiles by its raw texts and values, by induction over its groups. -/
theorem compilation_ofPredicate
    : ∀ p : Predicate, Compilation p.raws p.values (ofPredicate p)
  | .basic _ _ _ => .of_text (by simp [Predicate.values])
  | .columns _ _ _ => .of_text (by simp [Predicate.values])
  | .inList column values negated => .of_text (params_inList column values negated)
  | .isNull _ _ => .of_text (by simp [Predicate.values])
  | .between _ _ _ _ => .of_text (by simp [Predicate.values])
  | .raw sql bindings => compilation_raw sql bindings
  | .nested [] => .of_text rfl
  | .nested ((connector, first) :: rest) => by
    rw [ofPredicate]
    refine (compilation_ofPredicate first).bind fun s sParams =>
      (compilation_linked rest).map fun t tParams => ?_
    simp [Predicate.values, Condition.values, sParams, tParams]

theorem compilation_linked
    : ∀ entries : List Where,
        Compilation (Condition.raws entries) (Condition.values entries) (linked entries)
  | [] => .of_text rfl
  | (connector, predicate) :: rest => by
    rw [linked]
    refine (compilation_ofPredicate predicate).bind fun s sParams =>
      (compilation_linked rest).map fun t tParams => ?_
    simp [Condition.values, sParams, tParams]

end

theorem compilation_ofList (entries : List Where)
    : Compilation (Condition.raws entries) (Condition.values entries) (ofList entries) := by
  cases entries with
  | nil => exact .of_text rfl
  | cons entry rest =>
    refine (compilation_ofPredicate entry.2).bind fun s sParams =>
      (compilation_linked rest).map fun t tParams => ?_
    simp [Condition.values, sParams, tParams]

theorem compilation_clause (wheres : List Where)
    : Compilation (Condition.raws wheres) (Condition.values wheres) (clause wheres) := by
  unfold clause
  split
  · rename_i none
    rw [List.isEmpty_iff.1 none]
    exact .of_text rfl
  · exact (compilation_ofList wheres).map fun s params => by simp [params]

end Condition

-----------------------------------------------------------------------------------------
-- Queries
-----------------------------------------------------------------------------------------

/-- The conditions of a join that are written: those of a cross join are not. -/
def Join.conditions (join : Join) : List Where :=
  if join.kind = .cross then [] else join.on

theorem Join.compilation_compile (d : Dialect) (join : Join)
    : Compilation (Condition.raws join.conditions) (Condition.values join.conditions)
        (join.compile d) := by
  unfold Join.compile
  simp only
  split
  · rename_i bare
    have none : join.conditions = [] := by
      rcases bare with cross | empty
      · exact if_pos cross
      · rw [conditions, List.isEmpty_iff.1 empty, ite_self]
    rw [none]
    exact .of_text rfl
  · rename_i filled
    rw [conditions, if_neg fun cross => filled (.inl cross)]
    exact (Condition.compilation_ofList join.on).map fun s params => by simp [params]

namespace Query

/-- The raw texts that a read writes: those of its joins, then those of its conditions. -/
def readRaws (q : Query) : List (String × List Value) :=
  q.joins.flatMap (fun join => Condition.raws join.conditions) ++ Condition.raws q.wheres

/-- The values that a read binds, in the same order. -/
def readValues (q : Query) : List Value :=
  q.joins.flatMap (fun join => Condition.values join.conditions) ++ Condition.values q.wheres

theorem compilation_compileJoins (d : Dialect)
    : ∀ joins : List Join,
        Compilation (joins.flatMap fun join => Condition.raws join.conditions)
          (joins.flatMap fun join => Condition.values join.conditions) (compileJoins d joins)
  | [] => .of_text rfl
  | join :: rest => by
    rw [compileJoins]
    refine (join.compilation_compile d).bind fun s sParams =>
      (compilation_compileJoins d rest).map fun t tParams => ?_
    simp [sParams, tParams]

theorem compilation_compileSource (d : Dialect) (q : Query)
    : Compilation q.readRaws q.readValues (q.compileSource d) := by
  unfold compileSource
  refine (compilation_compileJoins d q.joins).bind fun s sParams =>
    (Condition.compilation_clause q.wheres).map fun t tParams => ?_
  have clause : (if t.isEmpty then Statement.empty else .text " " ++ t).params = t.params := by
    split
    · rename_i none
      have bound : t.bound = [] := by simp_all [Statement.isEmpty]
      rw [Statement.params, Statement.params, bound]
      rfl
    · simp
  rw [Statement.params_append, clause, sParams, tParams, readValues]

theorem compilation_compileSelect (d : Dialect) (q : Query)
    : Compilation q.readRaws q.readValues (q.compileSelect d) :=
  (compilation_compileSource d q).map fun s params => by simp [params]

theorem compilation_compileCount (d : Dialect) (q : Query)
    : Compilation q.readRaws q.readValues (q.compileCount d) :=
  (compilation_compileSource d q).map fun s params => by simp [params]

theorem compilation_compileFilter (wheres : List Where)
    : Compilation (Condition.raws wheres) (Condition.values wheres) (compileFilter wheres) := by
  unfold compileFilter
  split
  · rename_i none
    rw [List.isEmpty_iff.1 none]
    exact .of_text rfl
  · exact Condition.compilation_clause wheres

theorem params_assignments (record : Record)
    : (record.fields.map assignment).flatMap Statement.params = record.values := by
  rw [List.flatMap_map, Record.values, List.map_eq_flatMap]
  rfl

-----------------------------------------------------------------------------------------
-- What is compiled and what fails
-----------------------------------------------------------------------------------------

/-- A read compiles exactly if its raw texts are filled, binds the values in order, and else fails with
the first raw text that is not filled.
-/
structure Reads (q : Query) (result : Except Error Statement) : Prop where
  succeeds : (∃ s, result = .ok s) ↔ ∀ raw ∈ q.readRaws, RawFilled raw
  params : ∀ s, result = .ok s → s.params = q.readValues
  fails : ∀ e, result = .error e ↔ FirstMismatch q.readRaws e

/-- A mutation compiles exactly if it has neither joins nor a limit and the raw texts of its conditions
are filled, and it binds some values in order. Joins are what it fails with first, then a limit, then
the first raw text that is not filled.
-/
structure Mutates (q : Query) (withJoins withLimit : Unsupported) (values : List Value)
    (result : Except Error Statement) : Prop where
  succeeds
    : (∃ s, result = .ok s)
      ↔ q.joins = [] ∧ q.limit = none ∧ ∀ raw ∈ Condition.raws q.wheres, RawFilled raw
  params : ∀ s, result = .ok s → s.params = values
  joined : q.joins ≠ [] → result = .error (.unsupported withJoins)
  limited : q.joins = [] → q.limit ≠ none → result = .error (.unsupported withLimit)
  fails
    : q.joins = [] → q.limit = none →
        ∀ e, result = .error e ↔ FirstMismatch (Condition.raws q.wheres) e

theorem mutates_of_compilation {q : Query} {withJoins withLimit : Unsupported} {values : List Value}
    {result : Except Error Statement} (h : Compilation (Condition.raws q.wheres) values result)
    : q.Mutates withJoins withLimit values
        (if !q.joins.isEmpty then .error (.unsupported withJoins)
          else if q.limit.isSome then .error (.unsupported withLimit)
          else result) := by
  by_cases joins : q.joins = []
  · by_cases limit : q.limit = none
    · rw [if_neg (by simp [joins]), if_neg (by simp [limit])]
      exact {
        succeeds := by simpa [joins, limit] using h.exists_ok_iff
        params := fun s => h.params_of_ok
        joined := fun some => absurd joins some
        limited := fun _ some => absurd limit some
        fails := fun _ _ e => h.eq_error_iff }
    · have limited : q.limit.isSome := Option.isSome_iff_ne_none.2 limit
      rw [if_neg (by simp [joins]), if_pos limited]
      exact {
        succeeds := by simp [limit]
        params := nofun
        joined := fun some => absurd joins some
        limited := fun _ _ => rfl
        fails := fun _ none => absurd none limit }
  · rw [if_pos (by simpa using joins)]
    exact {
      succeeds := by simp [joins]
      params := nofun
      joined := fun _ => rfl
      limited := fun none => absurd none joins
      fails := fun none => absurd none joins }

/-- Compiling fails exactly where it has to, with the failure that comes first, and binds the values in
the order in which they appear: those of joins and then of conditions in a read, those of the record
and then of conditions in an update, and those of conditions in a delete.
-/
theorem compile_outcomes (d : Dialect) (q : Query) (record : Record)
    : (q.Reads (q.compileSelect d) ∧ q.Reads (q.compileCount d))
      ∧ q.Mutates .updateWithJoins .updateWithLimit (record.values ++ Condition.values q.wheres)
          (q.compileUpdate d record)
      ∧ q.Mutates .deleteWithJoins .deleteWithLimit (Condition.values q.wheres)
          (q.compileDelete d) := by
  have reads {result : Except Error Statement} (h : Compilation q.readRaws q.readValues result)
      : q.Reads result :=
    ⟨h.exists_ok_iff, fun _ => h.params_of_ok, fun _ => h.eq_error_iff⟩
  refine ⟨⟨reads (compilation_compileSelect d q), reads (compilation_compileCount d q)⟩,
    mutates_of_compilation ?_, mutates_of_compilation ?_⟩
  · exact (compilation_compileFilter q.wheres).map fun s params => by simp [params_assignments, params]
  · exact (compilation_compileFilter q.wheres).map fun s params => by simp [params]

end Query

end ColumnStore
