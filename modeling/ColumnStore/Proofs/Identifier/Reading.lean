import ColumnStore.Proofs.Identifier.Scanning
import ColumnStore.Proofs.Sql.Grammar

/-! A quoted name is read as the column that it names: one token for each segment, and the dots
between them. The star is read as itself, since no other segment goes without quotes.
-/

namespace ColumnStore

open Lexical Grammar

namespace Grammar

/-- The part of a column reference that a segment of a name stands for. -/
def Part.ofSegment (cs : List Char) : Part :=
  if cs = ['*'] then .star else .name cs

def columnParts (cs : List Char) : List Part :=
  (cs.splitOn '.').map Part.ofSegment

/-- The column that a name stands for. -/
def Operand.ofName (name : String) : Operand :=
  .column (columnParts name.toList)

end Grammar

/-- A name that stands for one column: it is plain and has no alias. -/
def IsColumnName (name : String) : Prop :=
  PlainName name.toList ∧ Identifier.splitAlias? name.toList = none

instance (name : String) : Decidable (IsColumnName name) :=
  inferInstanceAs (Decidable (_ ∧ _))

namespace Identifier

/-- Within the quotes every character belongs to the name, by list induction: a quote is doubled and
counts once.
-/
theorem read_doubleQuotes {cs : List Char} (h : '\\' ∉ cs) (before : List Char)
    : (Start.name before).read ((doubleQuotes cs).map .char)
      = some ([], .name (before ++ cs)) := by
  induction cs generalizing before with
  | nil => simp [doubleQuotes, Start.read]
  | cons c rest ih =>
    simp only [List.mem_cons, not_or] at h
    have inside := ih h.2 (before ++ [c])
    rw [List.append_assoc] at inside
    by_cases quote : c = '"'
    · subst quote
      simpa [Start.read, Start.step, Start.extend?, doubleQuotes] using inside
    · simpa [Start.read, Start.step, Start.extend?, doubleQuotes, quote, Ne.symm h.1] using inside

theorem tokens?_segment {cs : List Char} (h : '\\' ∉ cs)
    : tokens? ((segment cs).map .char) = some [(Part.ofSegment cs).token] := by
  by_cases star : cs = ['*']
  · subst star
    rfl
  · have opened : Start.none.step (.char '"') = some ([], .name []) := rfl
    have closed : (Start.name cs).read [.char '"'] = some ([], .closed cs) := rfl
    have quoted : Start.none.read ((segment cs).map .char) = some ([], .closed cs) := by
      rw [segment, if_neg star, List.cons_append, List.map_cons, List.map_append,
        Start.read_cons opened, Start.read_append_of_read (read_doubleQuotes h []),
        Start.after_nil, Start.after_nil]
      exact closed
    rw [Part.ofSegment, if_neg star]
    exact tokens?_eq_some.2 ⟨[], .closed cs, [.name cs], quoted, rfl, rfl⟩

/-- Quoted segments with dots between them are read as a column, by list induction. -/
theorem reads_segments
    : ∀ {parts : List (List Char)},
        parts ≠ []
        → (∀ cs ∈ parts, '\\' ∉ cs)
        → ∃ ts,
            tokens? ((['.'].intercalate (parts.map segment)).map .char) = some ts
            ∧ IsColumn ts (parts.map Part.ofSegment)
  | [], filled, _ => (filled rfl).elim
  | [cs], _, h => by
    refine ⟨_, ?_, .one (Part.ofSegment cs)⟩
    simpa using tokens?_segment (h cs (by simp))
  | cs :: next :: more, _, h => by
    obtain ⟨ts, rest, column⟩ := reads_segments (List.cons_ne_nil next more)
      fun part member => h part (List.mem_cons_of_mem cs member)
    refine ⟨_, ?_, .dot (Part.ofSegment cs) column⟩
    have dot : Parted [.char '.'] [sign "."] := rfl
    have apart : Separates [.char '.'] := ⟨'.', [], rfl, by decide⟩
    have whole := (apart.append _).tokens?_append (tokens?_segment (h cs (by simp)))
      (dot.tokens?_append rest)
    simpa [List.intercalate_cons_cons] using whole

end Identifier

/-- A column reference in SQL text is read as the column that the name stands for. -/
theorem reads_columnSql {name : String} (h : IsColumnName name)
    : ∃ ts, tokens? ((columnSql name).toList.map .char) = some ts
      ∧ IsOperand ts (.ofName name) := by
  obtain ⟨ts, read, column⟩ := Identifier.reads_segments (List.splitOn_ne_nil '.' name.toList)
    fun cs member => (h.1.mono (Text.subset_of_mem_splitOn member)).1
  refine ⟨ts, ?_, .column column⟩
  rw [columnSql, String.toList_ofList, (Identifier.isSegmented_of_plain h.1 h.2).column_eq]
  exact read

end ColumnStore
