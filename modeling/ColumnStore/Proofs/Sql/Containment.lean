import ColumnStore.Proofs.Sql.Literals
import ColumnStore.Proofs.Sql.Symbols

/-! No value breaks out of its literal in a statement whose text gives it room: a literal is opened
in code, and neither a quote nor another literal follows it at once. The scanner then reads the
rendered text as it reads the template, by one simulation over the symbols.
-/

namespace ColumnStore

namespace Lexical

open State

/-- Whether a literal can be opened: in code, after nothing that its first character extends. -/
def State.admitsLiteral : State → Bool
  | code => true
  | closing d => d = '"' ∨ d = '\x60'
  | _ => false

/-- A literal is read from a state that admits it as from plain code. -/
theorem IsLiteral.run_of_admits {s : State} {cs : List Char} (h : IsLiteral cs)
    (admits : s.admitsLiteral)
    : s.run cs = code.run cs := by
  obtain ⟨c, rest, rfl, quote, backquote⟩ := h.opens
  cases s with
  | code => rfl
  | closing d =>
    have different : c ≠ d := by
      rintro rfl
      simp [State.admitsLiteral, quote, backquote] at admits
    rw [run_cons, step_closing different, run_cons]
  | dash | quoted _ | escaped _ | comment => simp [State.admitsLiteral] at admits

theorem IsLiteral.settle_of_admits {s : State} {cs : List Char} (h : IsLiteral cs)
    (admits : s.admitsLiteral) (more : List Char)
    : s.settle (cs ++ more).head? = code := by
  obtain ⟨c, rest, rfl, quote, backquote⟩ := h.opens
  cases s with
  | code => rfl
  | closing d =>
    refine settle_closing ?_
    rintro same
    obtain rfl : c = d := Option.some.inj same
    simp [State.admitsLiteral, quote, backquote] at admits
  | dash | quoted _ | escaped _ | comment => simp [State.admitsLiteral] at admits

-----------------------------------------------------------------------------------------
-- Following the symbols of a statement
-----------------------------------------------------------------------------------------

/-- Where the scanner stands between two symbols, whatever the literals are. -/
inductive Place where
  /-- In text, in a state that no literal has part in. -/
  | inText (s : State)
  /-- Right after a literal, which ends here unless the next character doubles its quote. -/
  | afterLiteral
deriving DecidableEq

namespace Place

/-- The place after one more symbol, if the symbol leaves every literal whole. -/
def follow : Place → Symbol → Option Place
  | inText s, .char c => some (inText (s.step c))
  | inText s, .literal _ => if s.admitsLiteral then some afterLiteral else none
  | afterLiteral, .char c => if c = '\'' then none else some (inText (code.step c))
  | afterLiteral, .literal _ => none

/-- The place after a sequence of symbols. -/
def followAll (p : Place) (symbols : List Symbol) : Option Place :=
  symbols.foldlM follow p

/-- The states that the scanner can be in at a place: after a literal it may wait for a second
quote.
-/
def Allows : Place → State → Prop
  | inText t, s => s = t
  | afterLiteral, s => s.EndsLiteral

theorem followAll_append {p q : Place} {front back : List Symbol}
    (h : p.followAll (front ++ back) = some q)
    : ∃ m, p.followAll front = some m ∧ m.followAll back = some q := by
  rw [followAll, List.foldlM_append] at h
  exact Option.bind_eq_some_iff.1 h

theorem followAll_cons {p q : Place} {x : Symbol} {rest : List Symbol}
    (h : p.followAll (x :: rest) = some q)
    : ∃ m, p.follow x = some m ∧ m.followAll rest = some q := by
  rw [followAll, List.foldlM_cons] at h
  exact Option.bind_eq_some_iff.1 h

/-- After a literal no quote is followed. -/
theorem ne_quote_of_follow {c : Char} {q : Place} (h : afterLiteral.follow (.char c) = some q)
    : c ≠ '\'' := by
  rintro rfl
  simp [follow] at h

/-- What follows a literal at once does not double its quote. -/
theorem settle_afterLiteral {literal : Value → String} {s : State} {q : Place}
    {back : List Symbol} (allowed : afterLiteral.Allows s)
    (h : afterLiteral.followAll back = some q)
    : s.settle (Symbol.spellAll literal back).head? = code := by
  have next : (Symbol.spellAll literal back).head? ≠ some '\'' := by
    cases back with
    | nil => simp
    | cons x rest =>
      obtain ⟨m, first, _⟩ := followAll_cons h
      cases x with
      | char c => simpa [Symbol.spell] using ne_quote_of_follow first
      | literal v => simp [follow] at first
  rcases allowed with rfl | rfl
  · rfl
  · exact settle_closing next

/-- A character is read in the same state wherever its place allows the scanner to be. -/
theorem settle_char {p q : Place} {c : Char} {s t : State} (h : p.follow (.char c) = some q)
    (left : p.Allows s) (right : p.Allows t)
    : s.settle (some c) = t.settle (some c) := by
  cases p with
  | inText u => rw [show s = u from left, show t = u from right]
  | afterLiteral =>
    have next : some c ≠ some '\'' := by simpa using ne_quote_of_follow h
    have plain {u} (allowed : afterLiteral.Allows u) : u.settle (some c) = code := by
      rcases allowed with rfl | rfl
      · rfl
      · exact settle_closing next
    rw [plain left, plain right]

section Simulation

variable {literal : Value → String} (whole : ∀ v, IsLiteral (literal v).toList)

include whole

/-- The scanner stays where its place allows it through one symbol, by symbol cases. -/
theorem Allows.follow {p q : Place} {s : State} {x : Symbol} (allowed : p.Allows s)
    (h : p.follow x = some q)
    : q.Allows (s.run (x.spell literal)) := by
  cases p with
  | inText t =>
    obtain rfl : s = t := allowed
    cases x with
    | char c =>
      cases h
      rfl
    | literal v =>
      simp only [Place.follow, Option.ite_none_right_eq_some, Option.some.injEq] at h
      obtain ⟨admits, rfl⟩ := h
      change State.EndsLiteral _
      rw [Symbol.spell, (whole v).run_of_admits admits]
      exact (whole v).closes
  | afterLiteral =>
    cases x with
    | char c =>
      simp only [Place.follow, Option.ite_none_left_eq_some, Option.some.injEq] at h
      obtain ⟨quote, rfl⟩ := h
      rcases allowed with rfl | rfl
      · rfl
      · exact step_closing quote
    | literal v => simp [Place.follow] at h

/-- The scanner stays where its place allows it through every text, by induction over the
symbols.
-/
theorem Allows.followAll {p q : Place} {s : State} {symbols : List Symbol}
    (allowed : p.Allows s) (h : p.followAll symbols = some q)
    : q.Allows (s.run (Symbol.spellAll literal symbols)) := by
  induction symbols generalizing p s with
  | nil =>
    cases h
    exact allowed
  | cons x rest ih =>
    obtain ⟨m, first, later⟩ := followAll_cons h
    rw [Symbol.spellAll_cons, run_append]
    exact ih (allowed.follow whole first) later

end Simulation

end Place

end Lexical

open Lexical

-----------------------------------------------------------------------------------------
-- Statements whose literals are contained
-----------------------------------------------------------------------------------------

namespace Statement

def width (literal : Value → String) (symbols : List Symbol) : Nat :=
  (Symbol.spellAll literal symbols).length

/-- The literals of a rendered statement are closed units: each is opened in code and leaves the
scanner in code, and every character of text is read in the state in which the template has it.
-/
structure Contained (e : Escaping) (s : Statement) : Prop where
  literals
    : ∀ front v back,
        s.symbols = front ++ .literal v :: back
        → stateAt (s.render e).toList (width e.quote front) = .code
          ∧ stateAt (s.render e).toList (width e.quote (front ++ [.literal v])) = .code
  texts
    : ∀ front c back,
        s.symbols = front ++ .char c :: back
        → stateAt (s.render e).toList (width e.quote front)
          = stateAt s.template.toList (width (fun _ => "?") front)

/-- The state between two parts of a written statement. -/
theorem stateAt_write {s : Statement} {front back : List Symbol} (literal : Value → String)
    (split : s.symbols = front ++ back)
    : stateAt (s.write literal).toList (width literal front)
      = (State.code.run (Symbol.spellAll literal front)).settle
          (Symbol.spellAll literal back).head? := by
  rw [toList_write, split, Symbol.spellAll_append, width, stateAt_append]

/-- A statement that can be followed from code to its end contains its literals. Witness: the
scanner is where the place allows it, in the rendered text as in the template.
-/
theorem contained_of_follow {s : Statement} {q : Place}
    (h : (Place.inText .code).followAll s.symbols = some q) (e : Escaping)
    : s.Contained e := by
  have start : (Place.inText .code).Allows .code := rfl
  refine ⟨?_, ?_⟩
  · intro front v back split
    rw [split] at h
    obtain ⟨m, before, later⟩ := Place.followAll_append h
    obtain ⟨n, opened, after⟩ := Place.followAll_cons later
    cases m with
    | afterLiteral => simp [Place.follow] at opened
    | inText t =>
      simp only [Place.follow, Option.ite_none_right_eq_some, Option.some.injEq] at opened
      obtain ⟨admits, rfl⟩ := opened
      have allowed := start.followAll (isLiteral_quote e) before
      constructor
      · rw [render, stateAt_write _ split, Symbol.spellAll_cons, show _ = t from allowed]
        exact (isLiteral_quote e v).settle_of_admits admits _
      · have through : (Place.inText t).follow (.literal v) = some .afterLiteral := by
          simp [Place.follow, admits]
        have closed := allowed.follow (isLiteral_quote e) through
        rw [render, stateAt_write _ (by rw [split, List.append_cons]), Symbol.spellAll_append,
          State.run_append]
        exact Place.settle_afterLiteral (by simpa using closed) after
  · intro front c back split
    rw [split] at h
    obtain ⟨m, before, later⟩ := Place.followAll_append h
    obtain ⟨n, read, _⟩ := Place.followAll_cons later
    rw [render, template, stateAt_write _ split, stateAt_write _ split]
    exact Place.settle_char read (start.followAll (isLiteral_quote e) before)
      (start.followAll (fun _ => isLiteral_placeholder) before)

end Statement

end ColumnStore
