import ColumnStore.Proofs.Sql.Weaving

/-! A statement is recovered from its template when the scanner takes every symbol for what it is:
a question mark stands in code where it stands for a value, and nowhere else.
-/

namespace ColumnStore

open Lexical

-----------------------------------------------------------------------------------------
-- Scanning a template
-----------------------------------------------------------------------------------------

/-- The state after one more symbol of a template, if the scanner takes it for what it is. -/
def Lexical.State.pass (s : State) : Symbol → Option State
  | .char c => if c = '?' ∧ s.inCode then none else some (s.step c)
  | .literal _ => if s.inCode then some .code else none

/-- The characters before the first value, and each value with the characters after it. -/
def Symbol.gaps : List Symbol → List Char × List (Value × List Char)
  | [] => ([], [])
  | .char c :: rest =>
    let (first, more) := gaps rest
    (c :: first, more)
  | .literal v :: rest =>
    let (first, more) := gaps rest
    ([], (v, first) :: more)

/-- The scanner cuts a template at its values, by induction over the symbols. -/
theorem Lexical.pieces_spellAll {symbols : List Symbol} {s t : State}
    (h : symbols.foldlM State.pass s = some t)
    : pieces s (Symbol.spellAll (fun _ => "?") symbols)
      = ((Symbol.gaps symbols).1, (Symbol.gaps symbols).2.map (·.2)) := by
  induction symbols generalizing s with
  | nil => rfl
  | cons x rest ih =>
    rw [List.foldlM_cons, Option.bind_eq_bind, Option.bind_eq_some_iff] at h
    obtain ⟨m, passed, later⟩ := h
    cases x with
    | char c =>
      simp only [State.pass, Option.ite_none_left_eq_some, Option.some.injEq] at passed
      obtain ⟨text, rfl⟩ := passed
      simp [Symbol.spell, pieces, text, ih later, Symbol.gaps]
    | literal v =>
      simp only [State.pass, Option.ite_none_right_eq_some, Option.some.injEq] at passed
      obtain ⟨code, rfl⟩ := passed
      simp [Symbol.spell, pieces, code, ih later, Symbol.gaps]

namespace Statement

-----------------------------------------------------------------------------------------
-- Putting a statement together again
-----------------------------------------------------------------------------------------

/-- One more symbol at the end. -/
def pushSymbol (s : Statement) : Symbol → Statement
  | .char c => s.pushText (String.singleton c)
  | .literal v => s.pushParam v

theorem pushText_append (s : Statement) (a b : String)
    : s.pushText (a ++ b) = (s.pushText a).pushText b := by
  simp [pushText, String.append_assoc]

/-- Characters pushed one by one are pushed as one text, by list induction. -/
theorem foldl_pushSymbol_chars (s : Statement) (cs : List Char)
    : (cs.map Symbol.char).foldl pushSymbol s = s.pushText (String.ofList cs) := by
  induction cs generalizing s with
  | nil => simp [pushText]
  | cons c rest ih =>
    rw [List.map_cons, List.foldl_cons, ih, String.ofList_cons, pushText_append]
    rfl

/-- Texts with values behind them are put together one after another, by list induction. -/
theorem foldl_pushSymbol_bound (before after : List (String × Value))
    : (after.flatMap fun (sql, v) => textSymbols sql ++ [.literal v]).foldl pushSymbol
        { bound := before }
      = { bound := before ++ after } := by
  induction after generalizing before with
  | nil => simp
  | cons first rest ih =>
    obtain ⟨sql, v⟩ := first
    have pushed : (textSymbols sql ++ [Symbol.literal v]).foldl pushSymbol { bound := before }
        = { bound := before ++ [(sql, v)] } := by
      simp [textSymbols, foldl_pushSymbol_chars, pushSymbol, pushText, pushParam]
    rw [List.flatMap_cons, List.foldl_append, pushed, ih]
    simp

/-- A statement is what its symbols put together. -/
theorem foldl_pushSymbol (s : Statement)
    : s.symbols.foldl pushSymbol empty = s := by
  rw [symbols, List.foldl_append, empty, foldl_pushSymbol_bound, textSymbols,
    foldl_pushSymbol_chars]
  simp [pushText]

/-- One sequence of symbols is one statement. -/
theorem symbols_inj {s t : Statement}
    : s.symbols = t.symbols ↔ s = t := by
  refine ⟨fun same => ?_, fun same => same ▸ rfl⟩
  rw [← foldl_pushSymbol s, same, foldl_pushSymbol]

/-- The pieces around the values of a sequence of symbols put it together, by induction over the
symbols.
-/
theorem pushBound_gaps (s : Statement) (symbols : List Symbol)
    : (s.pushText (String.ofList (Symbol.gaps symbols).1)).pushBound
        ((Symbol.gaps symbols).2.map fun (v, cs) => (v, String.ofList cs))
      = symbols.foldl pushSymbol s := by
  induction symbols generalizing s with
  | nil => simp [Symbol.gaps, pushBound, pushText]
  | cons x rest ih =>
    cases x with
    | char c =>
      rw [List.foldl_cons, ← ih, Symbol.gaps, String.ofList_cons, pushText_append]
      rfl
    | literal v =>
      rw [List.foldl_cons, ← ih]
      simp [Symbol.gaps, pushBound, pushSymbol, pushText]

/-- The values of what symbols put together are those between the gaps, by induction over the
symbols.
-/
theorem params_foldl_pushSymbol (s : Statement) (symbols : List Symbol)
    : (symbols.foldl pushSymbol s).params = s.params ++ (Symbol.gaps symbols).2.map (·.1) := by
  induction symbols generalizing s with
  | nil => simp [Symbol.gaps]
  | cons x rest ih =>
    rw [List.foldl_cons, ih]
    cases x with
    | char c => rfl
    | literal v => simp [Symbol.gaps, pushSymbol, pushParam, params]

/-- A statement that the scanner can pass is recovered from its template and its values. -/
theorem pushRaw_template {s : Statement} {t : State}
    (h : s.symbols.foldlM State.pass .code = some t)
    : empty.pushRaw s.template s.params = .ok s := by
  have cut : Lexical.split s.template
      = (String.ofList (Symbol.gaps s.symbols).1,
          (Symbol.gaps s.symbols).2.map fun (_, cs) => String.ofList cs) := by
    rw [Lexical.split, template, toList_write, pieces_spellAll h]
    simp
  have values : s.params = (Symbol.gaps s.symbols).2.map (·.1) := by
    rw [← foldl_pushSymbol s, params_foldl_pushSymbol, foldl_pushSymbol]
    rfl
  rw [pushRaw, cut, values]
  simp [List.zip_map', pushBound_gaps, foldl_pushSymbol]

end Statement

-----------------------------------------------------------------------------------------
-- Raw texts
-----------------------------------------------------------------------------------------

namespace Lexical.State

/-- The states that the scanner can be in: quotes are those of a delimiter. -/
def IsProper : State → Prop
  | quoted d | escaped d | closing d => isDelimiter d
  | code | dash | comment => True

theorem IsProper.step {s : State} (h : s.IsProper) (c : Char)
    : (s.step c).IsProper := by
  have afterCode : (afterCode c).IsProper := by
    unfold State.afterCode
    split
    · assumption
    · split <;> trivial
  cases s with
  | code => exact afterCode
  | dash =>
    simp only [State.step]
    split
    · trivial
    · exact afterCode
  | quoted d =>
    simp only [State.step]
    split
    · exact h
    · split <;> exact h
  | escaped d => exact h
  | closing d =>
    simp only [State.step]
    split
    · exact h
    · exact afterCode
  | comment =>
    simp only [State.step]
    split <;> trivial

/-- A text leads from a proper state to a proper state, by list induction. -/
theorem IsProper.run {s : State} (h : s.IsProper) (cs : List Char)
    : (s.run cs).IsProper := by
  induction cs generalizing s with
  | nil => exact h
  | cons c rest ih => exact ih (h.step c)

/-- From code, what is no delimiter and no dash leads to plain code. -/
theorem IsProper.step_quiet {s : State} (h : s.IsProper) (inCode : s.inCode) {c : Char}
    (quiet : Quiet c)
    : s.step c = code := by
  have plain : State.code.step c = code := quiet.step
  cases s with
  | code => exact plain
  | dash => simpa [State.step, quiet.2] using plain
  | closing d =>
    have different : c ≠ d := by
      rintro rfl
      simp [IsProper, quiet.1] at h
    rw [step_closing different, plain]
  | quoted d | escaped d | comment => simp [State.inCode] at inCode

end Lexical.State

namespace Statement

theorem symbols_pushBound (s : Statement) (pairs : List (Value × String))
    : (s.pushBound pairs).symbols
      = s.symbols ++ pairs.flatMap fun (v, sql) => .literal v :: textSymbols sql := by
  induction pairs generalizing s with
  | nil => simp [pushBound]
  | cons first rest ih =>
    change (((s.pushParam first.1).pushText first.2).pushBound rest).symbols = _
    rw [ih]
    simp

/-- The symbols of a value and the piece behind it. -/
def boundPiece (pair : Value × List Char) : List Symbol :=
  .literal pair.1 :: pair.2.map .char

/-- The symbols of a text in pieces, with a value before each piece but the first. -/
def boundPieces (cut : List Char × List (List Char)) (bindings : List Value) : List Symbol :=
  cut.1.map .char ++ (bindings.zip cut.2).flatMap boundPiece

/-- A raw text is added where its placeholders are as many as the values, and what is added are its pieces
with the values between them.
-/
theorem pushRaw_eq_ok_iff {s t : Statement} {sql : String} {bindings : List Value}
    : s.pushRaw sql bindings = .ok t
      ↔ (pieces .code sql.toList).2.length = bindings.length
        ∧ t.symbols = s.symbols ++ boundPieces (pieces .code sql.toList) bindings := by
  by_cases count : (pieces .code sql.toList).2.length = bindings.length
  · have added : ((s.pushText (String.ofList (pieces .code sql.toList).1)).pushBound
          (bindings.zip ((pieces .code sql.toList).2.map String.ofList))).symbols
        = s.symbols ++ boundPieces (pieces .code sql.toList) bindings := by
      rw [symbols_pushBound, List.zip_map_right, List.flatMap_map]
      simp only [symbols_pushText, textSymbols, String.toList_ofList, List.append_assoc, Prod.map_fst,
        Prod.map_snd, id]
      rfl
    simp [pushRaw, Lexical.split, count, ← symbols_inj, added, eq_comm]
  · simp [pushRaw, Lexical.split, count]

theorem exists_pushRaw (s : Statement) {sql : String} {bindings : List Value}
    (count : (pieces .code sql.toList).2.length = bindings.length)
    : ∃ t, s.pushRaw sql bindings = .ok t := by
  simp [pushRaw, Lexical.split, count]

/-- Else the failure tells the text, the number of its placeholders and the number of values. -/
theorem pushRaw_eq_error (s : Statement) {sql : String} {bindings : List Value}
    (mismatch : (pieces .code sql.toList).2.length ≠ bindings.length)
    : s.pushRaw sql bindings
      = .error (.placeholderMismatch sql (pieces .code sql.toList).2.length bindings.length) := by
  simp [pushRaw, Lexical.split, mismatch]

/-- The scanner passes a raw text with its values in their places as it scans the raw text, by
list induction.
-/
theorem foldlM_pass_pieces {s : State} (proper : s.IsProper) {cs : List Char}
    {bindings : List Value} (h : (pieces s cs).2.length = bindings.length)
    : (boundPieces (pieces s cs) bindings).foldlM State.pass s = some (s.run cs) := by
  induction cs generalizing s bindings with
  | nil => simp [pieces, boundPieces]
  | cons c rest ih =>
    by_cases placeholder : c = '?' ∧ s.inCode
    · obtain ⟨rfl, inCode⟩ := placeholder
      cases bindings with
      | nil => simp [pieces, inCode] at h
      | cons v more =>
        have again : (pieces .code rest).2.length = more.length := by
          simpa [pieces, inCode] using h
        have passed := ih (s := .code) trivial again
        rw [State.run_cons, proper.step_quiet inCode (by decide), ← passed]
        simp [pieces, boundPieces, boundPiece, inCode, State.pass]
    · have again : (pieces (s.step c) rest).2.length = bindings.length := by
        simpa [pieces, placeholder] using h
      rw [State.run_cons, ← ih (proper.step c) again]
      simp [pieces, boundPieces, placeholder, State.pass]

/-- The scanner passes a raw text whose values are in their places. -/
theorem foldlM_pass_pushRaw {sql : String} {bindings : List Value} {s : Statement}
    (ok : empty.pushRaw sql bindings = .ok s)
    : s.symbols.foldlM State.pass .code = some (State.code.run sql.toList) := by
  obtain ⟨count, symbols⟩ := pushRaw_eq_ok_iff.1 ok
  rw [symbols, symbols_empty, List.nil_append, foldlM_pass_pieces (s := .code) trivial count]

-----------------------------------------------------------------------------------------
-- What is put together of parts
-----------------------------------------------------------------------------------------

/-- A raw text that the scanner passes, and leaves in code. -/
def EndsInCode (s : Statement) : Prop :=
  ∃ t : State, (t.IsProper ∧ t.inCode) ∧ s.symbols.foldlM State.pass .code = some t

/-- The scanner passes the characters between the quotes of a name and stays there, by list
induction. A question mark among them is no placeholder.
-/
theorem foldlM_pass_doubleQuotes {cs : List Char} (h : '\\' ∉ cs)
    : ((Identifier.doubleQuotes cs).map Symbol.char).foldlM State.pass (.quoted '"')
      = some (.quoted '"') := by
  induction cs with
  | nil => rfl
  | cons c rest ih =>
    simp only [List.mem_cons, not_or] at h
    have inside : ((if c = '"' then ['"', '"'] else [c]).map Symbol.char).foldlM State.pass
        (.quoted '"') = some (.quoted '"') := by
      split
      · rfl
      · rename_i quote
        simp [State.pass, State.inCode, State.step, Ne.symm h.1, quote]
    rw [Identifier.doubleQuotes, List.flatMap_cons, List.map_append, List.foldlM_append, inside]
    exact ih h.2

/-- The scanner passes every part: names in their quotes, values in code, and raw texts that end in
code.
-/
theorem readBy_pass
    : Woven.ReadBy EndsInCode State.pass .code fun s => s.IsProper ∧ s.inCode where
  rests := ⟨trivial, rfl⟩
  plain s c rests plain := by
    simp [State.pass, plain.2, rests.1.step_quiet rests.2 plain.1]
  name cs h := by
    refine ⟨.closing '"', ⟨rfl, rfl⟩, ?_⟩
    have opened : State.pass .code (.char '"') = some (.quoted '"') := rfl
    have inside := foldlM_pass_doubleQuotes h
    simp only [Identifier.quoted, List.cons_append, List.map_cons, List.map_append,
      List.foldlM_cons, List.foldlM_append, opened]
    simp [inside, State.pass, State.inCode, State.step]
  value v := ⟨.code, ⟨trivial, rfl⟩, rfl⟩
  raw s h := h

/-- A statement of parts is recovered from its template and its values. -/
theorem IsWoven.pushRaw_template {s : Statement} (h : s.IsWoven EndsInCode)
    : empty.pushRaw s.template s.params = .ok s := by
  obtain ⟨seam, parts⟩ := h
  obtain ⟨t, _, passed, _⟩ := parts.read readBy_pass
  exact Statement.pushRaw_template passed

end Statement

end ColumnStore
