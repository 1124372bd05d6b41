import ColumnStore.Sql.Lexical

/-! The state in which the scanner reads the character at a place of a text.
After a delimiter or a dash the automaton waits for one more character; a settled state has looked
at it, so every place is in code, in a quotation or in a comment.
-/

namespace ColumnStore.Lexical

namespace State

/-- The state once the next character is known. A delimiter has ended its quotation unless a
second one follows, and a dash starts a comment only with a second one.
-/
def settle : State → Option Char → State
  | dash, next => if next = some '-' then comment else code
  | closing d, next => if next = some d then quoted d else code
  | s, _ => s

@[simp] theorem run_nil (s : State) : s.run [] = s := rfl

@[simp] theorem run_cons (s : State) (c : Char) (cs : List Char)
    : s.run (c :: cs) = (s.step c).run cs := rfl

@[simp] theorem settle_code (next : Option Char) : settle code next = code := rfl

/-- After a delimiter, a character that does not double it is read as after code. -/
theorem step_closing {d c : Char} (h : c ≠ d) : (closing d).step c = code.step c := by
  simp [step, h]

/-- A quotation that the next character does not double has ended. -/
theorem settle_closing {d : Char} {next : Option Char} (h : next ≠ some d)
    : (closing d).settle next = code := by
  simp [settle, h]

/-- Parts with separators between them end as one part does, by list induction: each part is read
from code, to which a separator leads back.
-/
theorem run_intercalate {Ends : State → Prop} {separator : List Char} {parts : List (List Char)}
    (start : Ends code) (back : ∀ s, Ends s → s.run separator = code)
    (each : ∀ cs ∈ parts, Ends (code.run cs))
    : Ends (code.run (separator.intercalate parts)) := by
  induction parts with
  | nil => simpa using start
  | cons cs rest ih =>
    have first := each cs (by simp)
    cases rest with
    | nil => simpa using first
    | cons next more =>
      rw [List.intercalate_cons_cons, run_append, run_append, back _ first]
      exact ih fun part member => each part (List.mem_cons_of_mem cs member)

end State

/-- The state in which the character at a place of a text is read, from code on. The place past
the last character counts too.
-/
def stateAt (cs : List Char) (place : Nat) : State :=
  (State.code.run (cs.take place)).settle cs[place]?

theorem stateAt_append (front back : List Char)
    : stateAt (front ++ back) front.length = (State.code.run front).settle back.head? := by
  rw [stateAt, List.take_left, List.getElem?_append_right (Nat.le_refl _), Nat.sub_self,
    List.head?_eq_getElem?]

end ColumnStore.Lexical
