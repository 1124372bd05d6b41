import ColumnStore.Proofs.Sql.Containment
import ColumnStore.Proofs.Sql.Weaving

/-! Statements whose values all have room for their literals, down to the last symbol. Those that are
put together of names, values and words are sealed, for a name ends with its quote and words leave
the scanner in plain code.
-/

namespace ColumnStore

open Lexical

/-- The places where a name or a literal has just ended, or nothing is pending. What is no
delimiter is read from each of them as from plain code.
-/
def Lexical.Place.IsTidy (p : Place) : Prop :=
  p = .inText .code ∨ p = .inText (.closing '"') ∨ p = .afterLiteral

/-- A plain character leads from every tidy place to plain code. -/
theorem Lexical.Place.IsTidy.follow {p : Place} {c : Char} (h : p.IsTidy) (plain : IsPlain c)
    : p.follow (.char c) = some (.inText .code) := by
  have back : State.code.step c = .code := plain.1.step
  have delimiter := plain.1.1
  rcases h with rfl | rfl | rfl
  · rw [Place.follow, back]
  · have different : c ≠ '"' := by rintro rfl; simp [isDelimiter] at delimiter
    rw [Place.follow, State.step_closing different, back]
  · have different : c ≠ '\'' := by rintro rfl; simp [isDelimiter] at delimiter
    rw [Place.follow, if_neg different, back]

namespace Statement

/-- The statement's symbols lead from one place to another, every literal left whole. -/
def Leads (p : Place) (s : Statement) (q : Place) : Prop :=
  p.followAll s.symbols = some q

/-- Read from code, the statement ends where a separator may follow. -/
def Sealed (s : Statement) : Prop :=
  ∃ q : Place, q.IsTidy ∧ Leads (.inText .code) s q

/-- Characters lead from state to state as the scanner runs, by list induction. -/
theorem followAll_map_char (s : State) (cs : List Char)
    : (Place.inText s).followAll (cs.map .char) = some (.inText (s.run cs)) := by
  induction cs generalizing s with
  | nil => rfl
  | cons c rest ih => exact ih (s.step c)

/-- Every part but a raw text leads to a tidy place. -/
theorem readBy_follow
    : Woven.ReadBy (fun _ => False) Place.follow (.inText .code) Place.IsTidy where
  rests := .inl rfl
  plain _ _ tidy plain := tidy.follow plain
  name cs h := by
    refine ⟨.inText (.closing '"'), .inr (.inl rfl), ?_⟩
    rw [← Identifier.run_quoted h]
    exact followAll_map_char .code (Identifier.quoted cs)
  value v := ⟨.afterLiteral, .inr (.inr rfl), rfl⟩
  raw _ fits := fits.elim

/-- What is put together without raw text is sealed. -/
theorem IsWoven.sealed {s : Statement} (h : s.IsWoven fun _ => False)
    : s.Sealed := by
  obtain ⟨seam, parts⟩ := h
  obtain ⟨q, tidy, leads, _⟩ := parts.read readBy_follow
  exact ⟨q, tidy, leads⟩

/-- A sealed statement contains its literals under either escaping. -/
theorem Sealed.contained {s : Statement} (h : s.Sealed) (e : Escaping)
    : s.Contained e := by
  obtain ⟨q, _, leads⟩ := h
  exact contained_of_follow leads e

end Statement

end ColumnStore
