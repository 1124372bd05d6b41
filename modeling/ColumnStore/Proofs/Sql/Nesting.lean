import ColumnStore.Proofs.Sql.Literals

/-! Brackets are counted while SQL text is scanned, and a separator where none is open ends the part
before it. A part that has its separators in quotes or in brackets is then read off a text by what it
holds alone.
-/

namespace ColumnStore.Lexical

open State

/-- The state of the scanner and the number of open brackets. -/
structure Nesting where
  state : State
  depth : Nat

def isOpening (c : Char) : Bool :=
  c = '(' ∨ c = '['

def isClosing (c : Char) : Bool :=
  c = ')' ∨ c = ']'

/-- The characters that end a part: a blank, a comma, and the parenthesis that ends a list of parts. -/
def isSeparator (c : Char) : Bool :=
  c = ' ' ∨ c = ',' ∨ c = ')'

namespace Nesting

/-- Whether a separator counts: in code, where no bracket is open. -/
def isTop (n : Nesting) : Bool :=
  n.state.inCode && n.depth == 0

def depthAfter (n : Nesting) (c : Char) : Nat :=
  if n.state.inCode then
    if isOpening c then n.depth + 1
    else if isClosing c then n.depth - 1
    else n.depth
  else n.depth

/-- The nesting after one more character of a part, unless the character ends the part. -/
def follow? (n : Nesting) (c : Char) : Option Nesting :=
  if n.isTop ∧ isSeparator c then none else some ⟨n.state.step c, n.depthAfter c⟩

def followAll? (n : Nesting) (cs : List Char) : Option Nesting :=
  cs.foldlM follow? n

theorem followAll?_cons (n : Nesting) (c : Char) (cs : List Char)
    : n.followAll? (c :: cs) = (n.follow? c).bind (·.followAll? cs) :=
  rfl

theorem followAll?_append (n : Nesting) (a b : List Char)
    : n.followAll? (a ++ b) = (n.followAll? a).bind (·.followAll? b) :=
  List.foldlM_append

end Nesting

/-- Whether a part can end before a text. -/
def StartsApart (cs : List Char) : Prop :=
  ∃ c rest, cs = c :: rest ∧ isSeparator c

/-- Two parts at the start of one text are the same, as each ends at the first separator that counts. By
list induction on both, in lockstep.
-/
theorem Nesting.part_unique {n p q : Nesting} {a b r s : List Char} (left : n.followAll? a = some p)
    (right : n.followAll? b = some q) (pTop : p.isTop) (qTop : q.isTop) (rApart : StartsApart r)
    (sApart : StartsApart s) (same : a ++ r = b ++ s)
    : a = b ∧ r = s := by
  induction a generalizing n b with
  | nil =>
    cases b with
    | nil => exact ⟨rfl, same⟩
    | cons c b =>
      obtain ⟨d, rest, rfl, separates⟩ := rApart
      obtain ⟨rfl, -⟩ := List.cons_eq_cons.1 same
      cases left
      simp [followAll?_cons, follow?, pTop, separates] at right
  | cons c a ih =>
    cases b with
    | nil =>
      obtain ⟨d, rest, rfl, separates⟩ := sApart
      obtain ⟨rfl, -⟩ := List.cons_eq_cons.1 same
      cases right
      simp [followAll?_cons, follow?, qTop, separates] at left
    | cons d b =>
      obtain ⟨rfl, later⟩ := List.cons_eq_cons.1 same
      obtain ⟨m, first, left⟩ := Option.bind_eq_some_iff.1 left
      rw [followAll?_cons, first] at right
      obtain ⟨rfl, rest⟩ := ih left right later
      exact ⟨rfl, rest⟩

-----------------------------------------------------------------------------------------
-- Parts
-----------------------------------------------------------------------------------------

/-- A text that can stand between separators at a depth: read from code it ends there, at the same depth,
and no separator in it counts.
-/
def IsPart (depth : Nat) (cs : List Char) : Prop :=
  ∃ s : State, s.EndsLiteral ∧ Nesting.followAll? ⟨code, depth⟩ cs = some ⟨s, depth⟩

theorem State.EndsLiteral.inCode {s : State} (ended : s.EndsLiteral)
    : s.inCode := by
  rcases ended with rfl | rfl <;> rfl

/-- A quiet character is read alike wherever a literal may have ended. -/
theorem State.EndsLiteral.step {s : State} (ended : s.EndsLiteral) {c : Char} (quiet : Quiet c)
    : s.step c = code := by
  rcases ended with rfl | rfl
  · exact quiet.step
  · have different : c ≠ '\'' := by
      rintro rfl
      exact absurd quiet.1 (by decide)
    rw [step_closing different, quiet.step]

/-- Parts that start the same text are the same where no bracket is open. -/
theorem IsPart.unique {a b r s : List Char} (left : IsPart 0 a) (right : IsPart 0 b)
    (rApart : StartsApart r) (sApart : StartsApart s) (same : a ++ r = b ++ s)
    : a = b ∧ r = s := by
  obtain ⟨t, tEnded, left⟩ := left
  obtain ⟨u, uEnded, right⟩ := right
  have top {s : State} (ended : s.EndsLiteral) : Nesting.isTop ⟨s, 0⟩ := by
    simp [Nesting.isTop, ended.inCode]
  exact Nesting.part_unique left right (top tEnded) (top uEnded) rApart sApart same

/-- A character is passed over if it is neither a bracket nor read by a state of its own, and where no
bracket is open, no separator.
-/
structure IsInert (depth : Nat) (c : Char) : Prop where
  quiet : Quiet c
  opening : isOpening c = false
  closing : isClosing c = false
  separator : depth = 0 → isSeparator c = false

theorem IsInert.follow? {depth : Nat} {c : Char} (inert : IsInert depth c) {s : State}
    (ended : s.EndsLiteral)
    : Nesting.follow? ⟨s, depth⟩ c = some ⟨code, depth⟩ := by
  have within : ¬ (Nesting.isTop ⟨s, depth⟩ ∧ isSeparator c) := by
    rintro ⟨top, separates⟩
    have outside : depth = 0 := by simpa [Nesting.isTop, ended.inCode] using top
    rw [inert.separator outside] at separates
    cases separates
  rw [Nesting.follow?, if_neg within, ended.step inert.quiet]
  simp [Nesting.depthAfter, ended.inCode, inert.opening, inert.closing]

/-- From code, characters that are passed over lead to code, by list induction. -/
theorem followAll?_inert {depth : Nat} {cs : List Char} (inert : ∀ c ∈ cs, IsInert depth c)
    : Nesting.followAll? ⟨code, depth⟩ cs = some ⟨code, depth⟩ := by
  induction cs with
  | nil => rfl
  | cons c cs ih =>
    obtain ⟨first, others⟩ := List.forall_mem_cons.1 inert
    rw [Nesting.followAll?_cons, first.follow? (.inl rfl), Option.bind_some, ih others]

theorem IsPart.nil (depth : Nat)
    : IsPart depth [] :=
  ⟨code, .inl rfl, rfl⟩

theorem isPart_of_inert {depth : Nat} {cs : List Char} (inert : ∀ c ∈ cs, IsInert depth c)
    : IsPart depth cs :=
  ⟨code, .inl rfl, followAll?_inert inert⟩

/-- Two parts are one part with characters between them that are passed over. -/
theorem IsPart.append_cons {depth : Nat} {a b : List Char} {c : Char} (first : IsPart depth a)
    (between : List Char) (inert : ∀ d ∈ c :: between, IsInert depth d) (second : IsPart depth b)
    : IsPart depth (a ++ c :: (between ++ b)) := by
  obtain ⟨s, ended, read⟩ := first
  obtain ⟨t, tEnded, rest⟩ := second
  obtain ⟨here, others⟩ := List.forall_mem_cons.1 inert
  refine ⟨t, tEnded, ?_⟩
  rw [Nesting.followAll?_append, read, Option.bind_some, Nesting.followAll?_cons, here.follow? ended,
    Option.bind_some, Nesting.followAll?_append, followAll?_inert others, Option.bind_some, rest]

/-- A part in brackets, after another part or nothing, is a part. Separators in it do not count. -/
theorem IsPart.bracketed {depth : Nat} {front cs : List Char} (before : IsPart depth front)
    (part : IsPart (depth + 1) cs) {opening closing : Char} (opens : isOpening opening)
    (closes : isClosing closing)
    : IsPart depth (front ++ opening :: (cs ++ [closing])) := by
  obtain ⟨s, ended, read⟩ := before
  obtain ⟨t, tEnded, inside⟩ := part
  have opened : Nesting.follow? ⟨s, depth⟩ opening = some ⟨code, depth + 1⟩ := by
    have quiet : Quiet opening ∧ isSeparator opening = false := by
      simp only [isOpening, decide_eq_true_eq] at opens
      rcases opens with rfl | rfl <;> decide
    simp [Nesting.follow?, quiet.2, ended.step quiet.1, Nesting.depthAfter, ended.inCode, opens]
  have closed : Nesting.follow? ⟨t, depth + 1⟩ closing = some ⟨code, depth⟩ := by
    have quiet : Quiet closing ∧ isOpening closing = false := by
      simp only [isClosing, decide_eq_true_eq] at closes
      rcases closes with rfl | rfl <;> decide
    simp [Nesting.follow?, Nesting.isTop, tEnded.step quiet.1, Nesting.depthAfter, tEnded.inCode,
      quiet.2, closes]
  refine ⟨code, .inl rfl, ?_⟩
  rw [Nesting.followAll?_append, read, Option.bind_some, Nesting.followAll?_cons, opened,
    Option.bind_some, Nesting.followAll?_append, inside, Option.bind_some, Nesting.followAll?_cons,
    closed]
  rfl

/-- Parts with commas between them are one part, where a bracket is open. By list induction. -/
theorem IsPart.intercalate {depth : Nat} {items : List (List Char)}
    (each : ∀ cs ∈ items, IsPart (depth + 1) cs)
    : IsPart (depth + 1) ([',', ' '].intercalate items) := by
  induction items with
  | nil => exact .nil _
  | cons first rest ih =>
    obtain ⟨here, others⟩ := List.forall_mem_cons.1 each
    cases rest with
    | nil => simpa using here
    | cons next more =>
      have comma : ∀ c ∈ [',', ' '], IsInert (depth + 1) c := by
        simpa using ⟨⟨by decide, rfl, rfl, by simp⟩, ⟨by decide, rfl, rfl, by simp⟩⟩
      rw [List.intercalate_cons_cons]
      simpa using here.append_cons [' '] comma (ih others)

-----------------------------------------------------------------------------------------
-- Lists
-----------------------------------------------------------------------------------------

/-- Items with a comma before each and a parenthesis after the last are read off a text, if one is read
off where it ends. By list induction on both lists in lockstep.
-/
theorem map_unique_of_items {α β : Type} {text : α → List Char} {what : α → β}
    {Ends : List Char → Prop} (comma : ∀ rest, Ends (',' :: rest)) (close : ∀ rest, Ends (')' :: rest))
    {as bs : List α}
    (each : ∀ a ∈ as, ∀ b ∈ bs, ∀ r s : List Char, Ends r → Ends s → text a ++ r = text b ++ s →
      what a = what b ∧ r = s)
    {r s : List Char}
    (same : (as.flatMap fun a => [',', ' '] ++ text a) ++ ')' :: r
      = (bs.flatMap fun b => [',', ' '] ++ text b) ++ ')' :: s)
    : as.map what = bs.map what := by
  have ends (items : List α) (more : List Char)
      : Ends ((items.flatMap fun item => [',', ' '] ++ text item) ++ ')' :: more) := by
    cases items with
    | nil => exact close more
    | cons item items => exact comma _
  induction as generalizing bs with
  | nil =>
    cases bs with
    | nil => rfl
    | cons b bs => cases same
  | cons a as ih =>
    cases bs with
    | nil => cases same
    | cons b bs =>
      simp only [List.flatMap_cons, List.append_assoc] at same
      obtain ⟨here, rest⟩ := each a (by simp) b (by simp) _ _ (ends as r) (ends bs s)
        (List.append_cancel_left same)
      have others := ih (fun a aMember b bMember =>
        each a (List.mem_cons_of_mem _ aMember) b (List.mem_cons_of_mem _ bMember)) rest
      rw [List.map_cons, List.map_cons, here, others]

-----------------------------------------------------------------------------------------
-- Literals
-----------------------------------------------------------------------------------------

theorem IsScalarChar.inert {c : Char} (scalar : IsScalarChar c) (depth : Nat)
    : IsInert depth c := by
  have differs (d : Char) (other : ¬ IsScalarChar d) : c ≠ d := fun same => other (same ▸ scalar)
  refine ⟨scalar.quiet, ?_, ?_, fun _ => ?_⟩
  · simp [isOpening, differs '(' (by decide), differs '[' (by decide)]
  · simp [isClosing, differs ')' (by decide), differs ']' (by decide)]
  · simp [isSeparator, differs ' ' (by decide), differs ',' (by decide), differs ')' (by decide)]

/-- Words and numerals are parts; a minus before one waits for a second minus, which does not come. -/
theorem ScalarText.isPart {cs : List Char} (text : ScalarText cs) (depth : Nat)
    : IsPart depth cs := by
  cases text with
  | plain _ each => exact isPart_of_inert fun c member => (each c member).inert depth
  | @minus cs present each =>
    obtain ⟨c, rest, rfl⟩ := List.exists_cons_of_ne_nil present
    have quiet := (each c (by simp)).quiet
    have same : Nesting.follow? ⟨dash, depth⟩ c = Nesting.follow? ⟨code, depth⟩ c := by
      have stepped : dash.step c = code.step c := by
        rw [quiet.step]
        simp [State.step, afterCode, quiet.1, quiet.2]
      simp [Nesting.follow?, Nesting.isTop, Nesting.depthAfter, stepped, inCode]
    have signed : Nesting.follow? ⟨code, depth⟩ '-' = some ⟨dash, depth⟩ := by
      simp [Nesting.follow?, isSeparator, Nesting.depthAfter, isOpening, isClosing, State.step,
        afterCode, isDelimiter]
    refine ⟨code, .inl rfl, ?_⟩
    rw [Nesting.followAll?_cons, signed, Option.bind_some, Nesting.followAll?_cons, same,
      ← Nesting.followAll?_cons]
    exact followAll?_inert fun d member => (each d member).inert depth

/-- Outside of code, separators do not count and brackets are not counted. -/
theorem follow?_outside {s : State} (outside : s.inCode = false) (depth : Nat) (c : Char)
    : Nesting.follow? ⟨s, depth⟩ c = some ⟨s.step c, depth⟩ := by
  simp [Nesting.follow?, Nesting.isTop, Nesting.depthAfter, outside]

/-- A quote neither ends a part nor counts as a bracket. -/
theorem follow?_quote (s : State) (depth : Nat)
    : Nesting.follow? ⟨s, depth⟩ '\'' = some ⟨s.step '\'', depth⟩ := by
  simp [Nesting.follow?, isSeparator, Nesting.depthAfter, isOpening, isClosing]

/-- What stands for a character in single quotes is passed over within them. -/
theorem followAll?_escapeChar (e : Escaping) (c : Char) (depth : Nat)
    : Nesting.followAll? ⟨quoted '\'', depth⟩ (e.escapeChar c) = some ⟨quoted '\'', depth⟩ := by
  have first (c : Char) (rest : List Char)
      : Nesting.followAll? ⟨quoted '\'', depth⟩ (c :: rest)
        = Nesting.followAll? ⟨(quoted '\'').step c, depth⟩ rest := by
    rw [Nesting.followAll?_cons, follow?_outside rfl, Option.bind_some]
  have one {c : Char} (quote : c ≠ '\'') (backslash : c ≠ '\\')
      : Nesting.followAll? ⟨quoted '\'', depth⟩ [c] = some ⟨quoted '\'', depth⟩ := by
    rw [first, State.step, if_neg backslash, if_neg quote]
    rfl
  have behind (letter : Char)
      : Nesting.followAll? ⟨quoted '\'', depth⟩ ['\\', letter] = some ⟨quoted '\'', depth⟩ := by
    rw [first, State.step, if_pos rfl, Nesting.followAll?_cons, follow?_outside rfl]
    rfl
  have twice : Nesting.followAll? ⟨quoted '\'', depth⟩ ['\'', '\''] = some ⟨quoted '\'', depth⟩ := by
    rw [first, Nesting.followAll?_cons, follow?_quote]
    rfl
  rcases escapeChar_cases e c with ⟨plain, quote, backslash⟩ | ⟨letter, escaped⟩ | doubled
  · rw [plain, one quote backslash]
  · rw [escaped, behind letter]
  · rw [doubled, twice]

/-- A quoted text is a part, whatever it holds. -/
theorem isPart_quoteText (e : Escaping) (s : String) (depth : Nat)
    : IsPart depth (e.quoteText s).toList := by
  have inside (cs : List Char)
      : Nesting.followAll? ⟨quoted '\'', depth⟩ (e.escape cs) = some ⟨quoted '\'', depth⟩ := by
    induction cs with
    | nil => rfl
    | cons c cs ih =>
      rw [Escaping.escape, List.flatMap_cons, Nesting.followAll?_append, followAll?_escapeChar,
        Option.bind_some]
      exact ih
  have opened : Nesting.follow? ⟨code, depth⟩ '\'' = some ⟨quoted '\'', depth⟩ :=
    follow?_quote _ depth
  have closed : Nesting.follow? ⟨quoted '\'', depth⟩ '\'' = some ⟨closing '\'', depth⟩ :=
    follow?_outside rfl depth '\''
  refine ⟨closing '\'', .inr rfl, ?_⟩
  rw [Escaping.toList_quoteText, List.cons_append, Nesting.followAll?_cons, opened,
    Option.bind_some, Nesting.followAll?_append, inside, Option.bind_some, Nesting.followAll?_cons,
    closed]
  rfl

/-- A literal is a part at every depth, by induction on it. -/
theorem LiteralText.isPart {e : Escaping} {cs : List Char} (text : LiteralText e cs) (depth : Nat)
    : IsPart depth cs := by
  induction text generalizing depth with
  | scalar text => exact text.isPart depth
  | text s => exact isPart_quoteText e s depth
  | array _ ih =>
    have items := IsPart.intercalate fun cs member => ih cs member (depth + 1)
    exact (IsPart.nil depth).bracketed items rfl rfl

end ColumnStore.Lexical
