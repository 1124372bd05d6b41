import ColumnStore.Sql.Statement

/-! A statement as a sequence of characters and values, without the segments they come in.
Every text of a statement writes its symbols one by one, so scanning a rendered statement and
scanning its template are two runs over one sequence.
-/

namespace ColumnStore

/-- What stands in a statement: a character of its text, or a value to be written as a literal. -/
inductive Symbol where
  | char (c : Char)
  | literal (v : Value)

namespace Symbol

/-- The characters of a symbol, with a given text for each value. -/
def spell (literal : Value → String) : Symbol → List Char
  | char c => [c]
  | .literal v => (literal v).toList

def value? : Symbol → Option Value
  | char _ => none
  | .literal v => some v

def spellAll (literal : Value → String) (symbols : List Symbol) : List Char :=
  symbols.flatMap (spell literal)

@[simp] theorem spellAll_nil (literal : Value → String) : spellAll literal [] = [] := rfl

@[simp] theorem spellAll_cons (literal : Value → String) (x : Symbol) (rest : List Symbol)
    : spellAll literal (x :: rest) = x.spell literal ++ spellAll literal rest := by
  simp [spellAll]

@[simp] theorem spellAll_append (literal : Value → String) (front back : List Symbol)
    : spellAll literal (front ++ back) = spellAll literal front ++ spellAll literal back := by
  simp [spellAll]

@[simp] theorem spellAll_map_char (literal : Value → String) (cs : List Char)
    : spellAll literal (cs.map char) = cs := by
  induction cs with
  | nil => rfl
  | cons c rest ih => simp [spell, ih]

@[simp] theorem filterMap_map_char (cs : List Char) : (cs.map char).filterMap value? = [] := by
  simp [List.filterMap_map, Function.comp_def, value?]

end Symbol

namespace Statement

def textSymbols (sql : String) : List Symbol :=
  sql.toList.map .char

/-- The characters and the values of a statement, in order. -/
def symbols (s : Statement) : List Symbol :=
  s.bound.flatMap (fun (sql, v) => textSymbols sql ++ [.literal v]) ++ textSymbols s.tail

@[simp] theorem textSymbols_append (a b : String)
    : textSymbols (a ++ b) = textSymbols a ++ textSymbols b := by
  simp [textSymbols]

@[simp] theorem symbols_empty : empty.symbols = [] := rfl

@[simp] theorem symbols_text (sql : String) : (text sql).symbols = textSymbols sql := rfl

@[simp] theorem symbols_param (v : Value) : (param v).symbols = [.literal v] := rfl

/-- The symbols of one statement after the other; where the texts meet makes no difference. -/
@[simp] theorem symbols_append (s t : Statement)
    : (s ++ t).symbols = s.symbols ++ t.symbols := by
  obtain ⟨bound, tail⟩ := t
  cases bound with
  | nil => simp [symbols, pushText, show s ++ ⟨[], tail⟩ = s.pushText tail from rfl]
  | cons first rest =>
    obtain ⟨sql, v⟩ := first
    change symbols { bound := s.bound ++ (s.tail ++ sql, v) :: rest, tail := tail } = _
    simp [symbols]

@[simp] theorem symbols_pushText (s : Statement) (sql : String)
    : (s.pushText sql).symbols = s.symbols ++ textSymbols sql := by
  simp [symbols, pushText]

@[simp] theorem symbols_pushParam (s : Statement) (v : Value)
    : (s.pushParam v).symbols = s.symbols ++ [.literal v] := by
  simp [symbols, pushParam, textSymbols]

@[simp] theorem append_empty (s : Statement)
    : s ++ empty = s := by
  change append s empty = s
  simp [append, empty, pushText]

theorem text_append (a b : String)
    : text (a ++ b) = text a ++ text b := rfl

theorem append_assoc (s t u : Statement)
    : s ++ t ++ u = s ++ (t ++ u) := by
  obtain ⟨tBound, tTail⟩ := t
  obtain ⟨uBound, uTail⟩ := u
  change append (append _ _) _ = append _ (append _ _)
  cases tBound with
  | nil => cases uBound <;> simp [append, pushText, String.append_assoc]
  | cons first rest => cases uBound <;> simp [append, pushText]

/-- A statement is written symbol by symbol. -/
theorem toList_write (literal : Value → String) (s : Statement)
    : (s.write literal).toList = Symbol.spellAll literal s.symbols := by
  have bound (pairs : List (String × Value))
      : (pairs.map fun (sql, v) => sql ++ literal v).flatMap String.toList
        = Symbol.spellAll literal
            (pairs.flatMap fun (sql, v) => textSymbols sql ++ [.literal v]) := by
    induction pairs with
    | nil => rfl
    | cons first rest ih =>
      obtain ⟨sql, v⟩ := first
      simp [ih, textSymbols, Symbol.spell]
  simp [write, symbols, bound, textSymbols]

/-- One statement after the other is written as both are. -/
@[simp] theorem write_append (literal : Value → String) (s t : Statement)
    : (s ++ t).write literal = s.write literal ++ t.write literal := by
  simp [← String.toList_inj, toList_write]

@[simp] theorem write_text (literal : Value → String) (sql : String)
    : (text sql).write literal = sql := by
  simp [write, text]

@[simp] theorem write_param (literal : Value → String) (v : Value)
    : (param v).write literal = literal v := by
  simp [write, param]

/-- Statements that are put together are written one after another, by list induction. -/
theorem write_joined (literal : Value → String) (separator : String)
    : ∀ parts : List Statement,
        (joined separator parts).write literal = separator.intercalate (parts.map (·.write literal))
  | [] => rfl
  | [s] => by simp [joined]
  | s :: t :: rest => by
    have shape : joined separator (s :: t :: rest)
        = s ++ text separator ++ joined separator (t :: rest) := by
      rw [joined]
      exact fun none => nomatch none
    rw [shape, write_append, write_append, write_text, write_joined literal separator (t :: rest),
      List.map_cons, List.map_cons, List.map_cons, String.intercalate_cons_cons]

/-- The values of a statement are those among its symbols. -/
theorem params_eq_filterMap (s : Statement)
    : s.params = s.symbols.filterMap Symbol.value? := by
  have bound (pairs : List (String × Value))
      : pairs.map (·.2)
        = (pairs.flatMap fun (sql, v) => textSymbols sql ++ [.literal v]).filterMap Symbol.value? := by
    induction pairs with
    | nil => rfl
    | cons first rest ih => simp [ih, textSymbols, Symbol.value?]
  rw [symbols, List.filterMap_append, ← bound, textSymbols, Symbol.filterMap_map_char, List.append_nil,
    params]

@[simp] theorem params_append (s t : Statement)
    : (s ++ t).params = s.params ++ t.params := by
  simp [params_eq_filterMap]

/-- A statement starts with its first symbol. -/
theorem head?_write {s : Statement} {c : Char} (h : [.char c] <+: s.symbols)
    {literal : Value → String}
    : (s.write literal).toList.head? = some c := by
  obtain ⟨rest, shape⟩ := h
  rw [toList_write, ← shape]
  simp [Symbol.spell]

/-- A statement ends with its last symbol. -/
theorem getLast?_write {s : Statement} {c : Char} (h : [.char c] <:+ s.symbols)
    {literal : Value → String}
    : (s.write literal).toList.getLast? = some c := by
  obtain ⟨front, shape⟩ := h
  rw [toList_write, ← shape]
  simp [Symbol.spell]

/-- What is put together ends as its last part does, by list induction. -/
theorem symbols_joined_suffix {separator : String} {parts : List Statement} {last : Statement}
    (h : parts.getLast? = some last)
    : last.symbols <:+ (joined separator parts).symbols := by
  induction parts with
  | nil => simp at h
  | cons s rest ih =>
    cases rest with
    | nil =>
      obtain rfl : s = last := by simpa using h
      exact List.suffix_rfl
    | cons t more =>
      have later := ih (by simpa [List.getLast?_cons_cons] using h)
      rw [joined, symbols_append]
      · exact later.trans (List.suffix_append _ _)
      · simp

end Statement

end ColumnStore
