import ColumnStore.Dialect
import ColumnStore.Proofs.Sql.Scanning
import ColumnStore.Proofs.Text.Trimming

/-! A quoted name is closed where it should be: scanned from code, it leaves the scanner right after
its closing quote. Only a backslash or a function call in a name could do otherwise.
-/

namespace ColumnStore

open Lexical

/-- A name without a backslash, which would escape within its quotes, and without a closing
parenthesis, which could make it a function call.
-/
def PlainName (cs : List Char) : Prop :=
  '\\' ∉ cs ∧ ')' ∉ cs

instance (cs : List Char) : Decidable (PlainName cs) :=
  inferInstanceAs (Decidable (_ ∧ _))

theorem PlainName.mono {cs part : List Char} (h : PlainName cs) (subset : part ⊆ cs)
    : PlainName part :=
  ⟨fun member => h.1 (subset member), fun member => h.2 (subset member)⟩

theorem PlainName.append {a b : List Char} (left : PlainName a) (right : PlainName b)
    : PlainName (a ++ b) := by
  constructor
  · exact fun member => (List.mem_append.1 member).elim left.1 right.1
  · exact fun member => (List.mem_append.1 member).elim left.2 right.2

namespace Identifier

open State

-----------------------------------------------------------------------------------------
-- The parts of a name
-----------------------------------------------------------------------------------------

/-- What follows a separator is part of the text. -/
theorem afterSeparator?_subset {cs given : List Char} (h : afterSeparator? cs = some given)
    : given ⊆ cs := by
  unfold afterSeparator? at h
  split at h
  · simp at h
  · rename_i c rest
    split at h
    · split at h
      · rename_i a s b more shape
        split at h
        · cases h
          intro x member
          have later : x ∈ rest.dropWhile Text.isBlank := by
            rw [shape]
            simp [(List.dropWhile_sublist _).subset member]
          exact List.mem_cons_of_mem c ((List.dropWhile_sublist _).subset later)
        · simp at h
      · simp at h
    · simp at h

/-- The base and the alias of a name are parts of it, by list induction. -/
theorem splitAlias?_subset {cs base given : List Char} (h : splitAlias? cs = some (base, given))
    : base ⊆ cs ∧ given ⊆ cs := by
  induction cs generalizing base with
  | nil => simp [splitAlias?] at h
  | cons c rest ih =>
    simp only [splitAlias?] at h
    split at h
    · rename_i found
      cases h
      exact ⟨List.nil_subset _, afterSeparator?_subset found⟩
    · obtain ⟨⟨b, g⟩, split, same⟩ := Option.map_eq_some_iff.1 h
      cases same
      obtain ⟨left, right⟩ := ih split
      exact ⟨List.cons_subset_cons c left, List.Subset.trans right (List.subset_cons_self c rest)⟩

/-- A plain name is no function call. -/
theorem isExpression_of_plain {cs : List Char} (h : PlainName cs)
    : isExpression cs = false := by
  simp only [isExpression, decide_eq_false_iff_not]
  intro last
  have member : ')' ∈ Text.trimEnd cs := List.mem_of_getLast? last
  simp only [Text.trimEnd, List.mem_reverse] at member
  exact h.2 (List.mem_reverse.1 ((List.dropWhile_sublist _).subset member))

/-- A name that is written in segments: it is no function call and has no alias. -/
structure IsSegmented (cs : List Char) : Prop where
  call : isExpression cs = false
  single : splitAlias? cs = none

instance (cs : List Char) : Decidable (IsSegmented cs) :=
  decidable_of_iff (isExpression cs = false ∧ splitAlias? cs = none)
    ⟨fun ⟨call, single⟩ => ⟨call, single⟩, fun h => ⟨h.1, h.2⟩⟩

theorem isSegmented_of_plain {cs : List Char} (h : PlainName cs) (single : splitAlias? cs = none)
    : IsSegmented cs :=
  ⟨isExpression_of_plain h, single⟩

/-- Such a name becomes its segments between dots. -/
theorem IsSegmented.column_eq {cs : List Char} (h : IsSegmented cs)
    : column cs = dotted cs := by
  rw [column, if_neg (by simp [h.call])]
  split
  · rename_i found
    simp [h.single] at found
  · rfl

theorem IsSegmented.column_eq_segment {cs : List Char} (h : IsSegmented cs) (dot : '.' ∉ cs)
    : column cs = segment cs := by
  rw [h.column_eq, dotted, List.splitOn_eq_singleton dot, List.map_singleton,
    List.intercalate_singleton]

-----------------------------------------------------------------------------------------
-- Scanning a quoted name
-----------------------------------------------------------------------------------------

/-- The characters between the quotes keep the scanner inside them, by list induction: a quote is
doubled, and no backslash is active.
-/
theorem run_doubleQuotes {cs : List Char} (h : '\\' ∉ cs)
    : (State.quoted '"').run (doubleQuotes cs) = State.quoted '"' := by
  induction cs with
  | nil => rfl
  | cons c rest ih =>
    simp only [List.mem_cons, not_or] at h
    have inside : (State.quoted '"').run (if c = '"' then ['"', '"'] else [c])
        = State.quoted '"' := by
      split
      · rfl
      · rename_i quote
        simp [State.step, Ne.symm h.1, quote]
    rw [doubleQuotes, List.flatMap_cons, State.run_append, inside]
    exact ih h.2

/-- A name in its quotes. -/
def quoted (cs : List Char) : List Char :=
  '"' :: doubleQuotes cs ++ ['"']

/-- A quoted name is scanned to its closing quote. -/
theorem run_quoted {cs : List Char} (h : '\\' ∉ cs)
    : code.run (quoted cs) = closing '"' := by
  rw [quoted, List.cons_append, State.run_cons, show code.step '"' = State.quoted '"' from rfl,
    State.run_append, run_doubleQuotes h]
  rfl

end Identifier

end ColumnStore
