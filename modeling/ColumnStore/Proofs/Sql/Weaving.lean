import ColumnStore.Proofs.Identifier.Scanning
import ColumnStore.Proofs.Sql.Literals
import ColumnStore.Proofs.Sql.Symbols

/-! Statements as they are put together: characters that mean nothing to the scanner, and among them
quoted names, values and raw texts, no two of these side by side. Whatever reads a statement symbol
by symbol has to be asked about its parts only.
-/

namespace ColumnStore

open Lexical

/-- A character that the scanner passes over in code, and that is no placeholder. -/
def Lexical.IsPlain (c : Char) : Prop :=
  Quiet c ∧ c ≠ '?'

instance (c : Char) : Decidable (IsPlain c) :=
  inferInstanceAs (Decidable (_ ∧ _))

/-- Characters that are all plain. -/
def Lexical.IsWords (cs : List Char) : Prop :=
  ∀ c ∈ cs, IsPlain c

instance (cs : List Char) : Decidable (IsWords cs) :=
  List.decidableBAll IsPlain cs

/-- What may come next. -/
inductive Seam where
  /-- Every part: a plain character stands last, or nothing. -/
  | free
  /-- Only a plain character: another part stands last. -/
  | bound

/-- The symbols of parts put together, with the raw texts that may be among them. -/
inductive Woven (Fits : Statement → Prop) : Seam → List Symbol → Prop where
  | nil : Woven Fits .free []
  | plain {seam : Seam} {front : List Symbol} (before : Woven Fits seam front) {c : Char}
      (h : IsPlain c)
    : Woven Fits .free (front ++ [.char c])
  | name {front : List Symbol} (before : Woven Fits .free front) {cs : List Char} (h : '\\' ∉ cs)
    : Woven Fits .bound (front ++ (Identifier.quoted cs).map .char)
  | value {front : List Symbol} (before : Woven Fits .free front) (v : Value)
    : Woven Fits .bound (front ++ [.literal v])
  | raw {front : List Symbol} (before : Woven Fits .free front) {s : Statement} (h : Fits s)
    : Woven Fits .bound (front ++ s.symbols)

variable {Fits : Statement → Prop}

namespace Woven

/-- Parts may follow where every part may, by induction over the parts that follow. -/
theorem append {seam : Seam} {front back : List Symbol} (before : Woven Fits .free front)
    (h : Woven Fits seam back)
    : Woven Fits seam (front ++ back) := by
  induction h with
  | nil => rwa [List.append_nil]
  | plain _ h ih =>
    rw [← List.append_assoc]
    exact .plain ih h
  | name _ h ih =>
    rw [← List.append_assoc]
    exact .name ih h
  | value _ v ih =>
    rw [← List.append_assoc]
    exact .value ih v
  | raw _ h ih =>
    rw [← List.append_assoc]
    exact .raw ih h

/-- Words may follow where every part may, by list induction. -/
theorem words {front : List Symbol} {cs : List Char} (before : Woven Fits .free front)
    (h : IsWords cs)
    : Woven Fits .free (front ++ cs.map .char) := by
  induction cs generalizing front with
  | nil => simpa using before
  | cons c rest ih =>
    have more := ih (before.plain (h c (by simp))) fun d member => h d (by simp [member])
    simpa using more

/-- Words that are not empty may follow every part, and leave room for another. -/
theorem separate {seam : Seam} {front : List Symbol} {cs : List Char}
    (before : Woven Fits seam front) (filled : cs ≠ []) (h : IsWords cs)
    : Woven Fits .free (front ++ cs.map .char) := by
  obtain ⟨c, rest, rfl⟩ := List.exists_cons_of_ne_nil filled
  have more : Woven Fits .free (front ++ [.char c] ++ rest.map .char) :=
    words (before.plain (h c (by simp))) fun d member => h d (by simp [member])
  simpa using more

-----------------------------------------------------------------------------------------
-- Reading what is put together
-----------------------------------------------------------------------------------------

section Reading

variable {Place : Type}

/-- A reader that plain characters bring back to where it starts, from there and from where a name,
a value or a raw text leaves it.
-/
structure ReadBy (Fits : Statement → Prop) (next : Place → Symbol → Option Place) (start : Place)
    (Rests : Place → Prop) : Prop where
  rests : Rests start
  plain : ∀ p c, Rests p → IsPlain c → next p (.char c) = some start
  name
    : ∀ cs, '\\' ∉ cs →
        ∃ p, Rests p ∧ ((Identifier.quoted cs).map .char).foldlM next start = some p
  value : ∀ v, ∃ p, Rests p ∧ next start (.literal v) = some p
  raw : ∀ s, Fits s → ∃ p, Rests p ∧ s.symbols.foldlM next start = some p

/-- A reader that reads every part reads what is put together of them, by induction over the
parts. Where every part may follow it is where it started.
-/
theorem read {next : Place → Symbol → Option Place} {start : Place} {Rests : Place → Prop}
    (reader : ReadBy Fits next start Rests) {seam : Seam} {symbols : List Symbol}
    (h : Woven Fits seam symbols)
    : ∃ p, Rests p ∧ symbols.foldlM next start = some p ∧ (seam = .free → p = start) := by
  induction h with
  | nil => exact ⟨start, reader.rests, rfl, fun _ => rfl⟩
  | plain _ h ih =>
    obtain ⟨p, rests, read, _⟩ := ih
    refine ⟨start, reader.rests, ?_, fun _ => rfl⟩
    simp [List.foldlM_append, read, reader.plain p _ rests h]
  | name _ h ih =>
    obtain ⟨p, _, read, same⟩ := ih
    obtain ⟨q, rests, quoted⟩ := reader.name _ h
    refine ⟨q, rests, ?_, nofun⟩
    rw [List.foldlM_append, read, same rfl]
    exact quoted
  | value _ v ih =>
    obtain ⟨p, _, read, same⟩ := ih
    obtain ⟨q, rests, bound⟩ := reader.value v
    refine ⟨q, rests, ?_, nofun⟩
    simp [List.foldlM_append, read, same rfl, bound]
  | raw _ h ih =>
    obtain ⟨p, _, read, same⟩ := ih
    obtain ⟨q, rests, passed⟩ := reader.raw _ h
    refine ⟨q, rests, ?_, nofun⟩
    rw [List.foldlM_append, read, same rfl]
    exact passed

end Reading

end Woven

-----------------------------------------------------------------------------------------
-- Statements
-----------------------------------------------------------------------------------------

namespace Statement

/-- A statement of parts, after which a plain character may come. -/
def IsWoven (Fits : Statement → Prop) (s : Statement) : Prop :=
  ∃ seam, Woven Fits seam s.symbols

/-- A statement of parts, after which every part may come. -/
def IsFree (Fits : Statement → Prop) (s : Statement) : Prop :=
  Woven Fits .free s.symbols

theorem IsFree.isWoven {s : Statement} (h : s.IsFree Fits)
    : s.IsWoven Fits :=
  ⟨.free, h⟩

theorem isFree_empty : empty.IsFree Fits :=
  .nil

theorem isFree_text {sql : String} (h : IsWords sql.toList)
    : (text sql).IsFree Fits :=
  Woven.words .nil h

theorem isWoven_param (v : Value)
    : (param v).IsWoven Fits :=
  ⟨.bound, .value .nil v⟩

theorem isWoven_raw {s : Statement} (h : Fits s)
    : s.IsWoven Fits :=
  ⟨.bound, .raw .nil h⟩

/-- Parts may follow a statement after which every part may come. -/
theorem IsFree.append {s t : Statement} (first : s.IsFree Fits) (second : t.IsWoven Fits)
    : (s ++ t).IsWoven Fits := by
  obtain ⟨seam, parts⟩ := second
  refine ⟨seam, ?_⟩
  rw [symbols_append]
  exact Woven.append first parts

theorem IsFree.append_free {s t : Statement} (first : s.IsFree Fits) (second : t.IsFree Fits)
    : (s ++ t).IsFree Fits := by
  rw [IsFree, symbols_append]
  exact Woven.append first second

/-- Words that are not empty may follow every statement of parts. -/
theorem IsWoven.separate {s : Statement} {sql : String} (h : s.IsWoven Fits) (filled : sql ≠ "")
    (words : IsWords sql.toList)
    : (s ++ text sql).IsFree Fits := by
  obtain ⟨seam, parts⟩ := h
  rw [IsFree, symbols_append]
  exact parts.separate (fun none => filled (String.toList_eq_nil_iff.1 none)) words

/-- A text that is empty, or words with what is put together after them. -/
inductive IsClause (Fits : Statement → Prop) : String → Prop where
  | none : IsClause Fits ""
  | some {words sql : String} (filled : words ≠ "") (plain : IsWords words.toList)
      (parts : (text sql).IsWoven Fits)
    : IsClause Fits (words ++ sql)

/-- A clause may follow what is put together. -/
theorem IsWoven.append_clause {s : Statement} {sql : String} (h : s.IsWoven Fits)
    (clause : IsClause Fits sql)
    : (s ++ text sql).IsWoven Fits := by
  cases clause with
  | none =>
    change (s ++ empty).IsWoven Fits
    rwa [append_empty]
  | some filled plain parts =>
    rw [text_append, ← append_assoc]
    exact (h.separate filled plain).append parts

/-- Statements with words between them, by list induction. -/
theorem isWoven_joined {separator : String} (filled : separator ≠ "")
    (words : IsWords separator.toList)
    : ∀ {parts : List Statement}, (∀ s ∈ parts, s.IsWoven Fits)
        → (joined separator parts).IsWoven Fits
  | [], _ => isFree_empty.isWoven
  | [s], h => h s (by simp)
  | s :: t :: more, h => by
    have first := (h s (by simp)).separate filled words
    exact first.append (isWoven_joined filled words
      fun u member => h u (List.mem_cons_of_mem s member))

/-- Texts put together are the text of what is put together, by list induction. -/
theorem joined_text (separator : String)
    : ∀ parts : List String, joined separator (parts.map text) = text (separator.intercalate parts)
  | [] => rfl
  | [sql] => by simp [joined]
  | sql :: next :: more => by
    rw [String.intercalate_cons_cons, text_append, text_append, ← joined_text separator]
    rfl

end Statement

end ColumnStore
