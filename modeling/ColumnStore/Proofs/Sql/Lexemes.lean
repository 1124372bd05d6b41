import ColumnStore.Proofs.Sql.Binding
import ColumnStore.Proofs.Sql.Quotations

/-! SQL text as lexemes: quotations, comments, and every other character by itself. What they are is said
without the scanner, and the pieces that the scanner makes of a text are what stands between the lexemes
that are a question mark.
-/

namespace ColumnStore.Lexical

-----------------------------------------------------------------------------------------
-- Where a quotation and a comment end
-----------------------------------------------------------------------------------------

/-- What can stand between the delimiters of a quotation: a backslash takes the next character with it,
and the delimiter is doubled.
-/
inductive Inside (d : Char) : List Char → Prop where
  | nil : Inside d []
  | plain {c : Char} {cs : List Char} (backslash : c ≠ '\\') (other : c ≠ d) (more : Inside d cs)
    : Inside d (c :: cs)
  | escaped (c : Char) {cs : List Char} (more : Inside d cs) : Inside d ('\\' :: c :: cs)
  | doubled {cs : List Char} (more : Inside d cs) : Inside d (d :: d :: cs)

/-- The text behind an opening delimiter that is still of the quotation, and what follows it. Without a
delimiter that ends it, the quotation goes on to the end of the text, be it in the middle of an escape.
-/
inductive EndsQuotation (d : Char) : List Char → List Char → Prop where
  | closed {cs rest : List Char} (inside : Inside d cs) (alone : rest.head? ≠ some d)
    : EndsQuotation d (cs ++ [d]) rest
  | unclosed {cs : List Char} (inside : Inside d cs) : EndsQuotation d cs []
  | escaping {cs : List Char} (inside : Inside d cs) : EndsQuotation d (cs ++ ['\\']) []

/-- The text behind two dashes that is still of the comment, and what follows it. -/
inductive EndsComment : List Char → List Char → Prop where
  | line {cs rest : List Char} (within : '\n' ∉ cs) : EndsComment (cs ++ ['\n']) rest
  | last {cs : List Char} (within : '\n' ∉ cs) : EndsComment cs []

section

variable {d : Char}

theorem ne_of_isDelimiter (delimiter : isDelimiter d) {c : Char} (other : isDelimiter c = false)
    : d ≠ c := by
  rintro rfl
  rw [delimiter] at other
  cases other

/-- The reader of quotations passes over what is inside. By induction on it. -/
theorem Inside.map_untilDelimiter? (delimiter : isDelimiter d) {cs : List Char} (inside : Inside d cs)
    (rest : List Char)
    : (untilDelimiter? d (cs ++ rest)).map (·.2) = (untilDelimiter? d rest).map (·.2) := by
  have after (c : Char) (further : Option (List Char × List Char))
      : (Text.readAfter c further).map (·.2) = further.map (·.2) := by
    cases further <;> rfl
  induction inside with
  | nil => rfl
  | plain backslash other _ ih =>
    rw [List.cons_append, untilDelimiter?_plain backslash other, after, ih]
  | escaped c _ ih =>
    rw [List.cons_append, List.cons_append, untilDelimiter?_escaped, after, ih]
  | doubled _ ih =>
    rw [List.cons_append, List.cons_append,
      untilDelimiter?_doubled (ne_of_isDelimiter delimiter rfl), after, ih]

/-- What follows a quotation is what the reader leaves. -/
theorem EndsQuotation.rest_eq (delimiter : isDelimiter d) {body rest : List Char}
    (ends : EndsQuotation d body rest)
    : rest = ((untilDelimiter? d (body ++ rest)).map (·.2)).getD [] := by
  cases ends with
  | closed inside alone =>
    have stops := untilDelimiter?_closed (ne_of_isDelimiter delimiter rfl) alone
    rw [List.append_assoc, inside.map_untilDelimiter? delimiter, List.singleton_append, stops]
    rfl
  | unclosed inside =>
    rw [inside.map_untilDelimiter? delimiter]
    rfl
  | escaping inside =>
    rw [List.append_assoc, inside.map_untilDelimiter? delimiter]
    simp [untilDelimiter?]

/-- A quotation has one end in a text. -/
theorem EndsQuotation.unique (delimiter : isDelimiter d) {a b r s : List Char}
    (left : EndsQuotation d a r) (right : EndsQuotation d b s) (same : a ++ r = b ++ s)
    : a = b ∧ r = s := by
  have rest : r = s := by rw [left.rest_eq delimiter, same, ← right.rest_eq delimiter]
  rw [rest] at same
  exact ⟨List.append_cancel_right same, rest⟩

theorem EndsQuotation.prepend {front body rest : List Char}
    (before : ∀ cs, Inside d cs → Inside d (front ++ cs)) (ends : EndsQuotation d body rest)
    : EndsQuotation d (front ++ body) rest := by
  cases ends with
  | closed inside alone =>
    rw [← List.append_assoc]
    exact .closed (before _ inside) alone
  | unclosed inside => exact .unclosed (before _ inside)
  | escaping inside =>
    rw [← List.append_assoc]
    exact .escaping (before _ inside)

/-- A quotation has an end in every text, by the reader's cases. -/
theorem exists_endsQuotation (d : Char) (cs : List Char)
    : ∃ body rest, body ++ rest = cs ∧ EndsQuotation d body rest := by
  fun_induction untilDelimiter? d cs with
  | case1 => exact ⟨[], [], rfl, .unclosed .nil⟩
  | case2 => exact ⟨['\\'], [], rfl, .escaping .nil⟩
  | case3 c more ih =>
    obtain ⟨body, rest, rfl, ends⟩ := ih
    exact ⟨['\\', c] ++ body, rest, rfl, ends.prepend fun _ => .escaped c⟩
  | case4 => exact ⟨[d], [], rfl, .closed .nil (by simp)⟩
  | case5 more _ ih =>
    obtain ⟨body, rest, rfl, ends⟩ := ih
    exact ⟨[d, d] ++ body, rest, rfl, ends.prepend fun _ => .doubled⟩
  | case6 _ next other => exact ⟨[d], _ :: _, rfl, .closed .nil (by simpa using other)⟩
  | case7 c rest backslash other ih =>
    obtain ⟨body, rest, rfl, ends⟩ := ih
    exact ⟨[c] ++ body, rest, rfl, ends.prepend fun _ => .plain backslash other⟩

end

/-- What follows a comment is what follows the end of the line. -/
theorem EndsComment.rest_eq {body rest : List Char} (ends : EndsComment body rest)
    : rest = ((body ++ rest).dropWhile (· ≠ '\n')).tail := by
  have each {cs : List Char} (within : '\n' ∉ cs) (c : Char) (member : c ∈ cs) : decide (c ≠ '\n') := by
    rw [decide_eq_true_eq]
    rintro rfl
    exact within member
  cases ends with
  | line within =>
    rw [List.append_assoc, List.singleton_append, (Text.cut_append_cons (each within) (by simp) rest).2]
    rfl
  | last within =>
    rw [List.append_nil, List.dropWhile_eq_nil_iff.2 (each within)]
    rfl

/-- A comment has one end in a text. -/
theorem EndsComment.unique {a b r s : List Char} (left : EndsComment a r) (right : EndsComment b s)
    (same : a ++ r = b ++ s)
    : a = b ∧ r = s := by
  have rest : r = s := by rw [left.rest_eq, same, ← right.rest_eq]
  rw [rest] at same
  exact ⟨List.append_cancel_right same, rest⟩

theorem exists_endsComment (cs : List Char)
    : ∃ body rest, body ++ rest = cs ∧ EndsComment body rest := by
  by_cases ended : '\n' ∈ cs
  · obtain ⟨line, rest, rfl, within⟩ := List.eq_append_cons_of_mem ended
    exact ⟨line ++ ['\n'], rest, by simp, .line within⟩
  · exact ⟨cs, [], by simp, .last ended⟩

-----------------------------------------------------------------------------------------
-- Lexemes
-----------------------------------------------------------------------------------------

/-- A quotation with its delimiters, a comment with its dashes, or one other character. -/
inductive Lexeme where
  | quotation (cs : List Char)
  | comment (cs : List Char)
  | single (c : Char)
deriving DecidableEq

namespace Lexeme

def chars : Lexeme → List Char
  | quotation cs | comment cs => cs
  | single c => [c]

/-- A question mark by itself. -/
def placeholder : Lexeme :=
  single '?'

/-- The first lexeme of a text, with what follows it. -/
inductive Leads : Lexeme → List Char → Prop where
  | quotation {d : Char} {body rest : List Char} (delimiter : isDelimiter d)
      (ends : EndsQuotation d body rest)
    : Leads (quotation (d :: body)) rest
  | comment {body rest : List Char} (ends : EndsComment body rest)
    : Leads (comment ('-' :: '-' :: body)) rest
  | single {c : Char} {rest : List Char} (delimiter : isDelimiter c = false)
      (dash : c = '-' → rest.head? ≠ some '-')
    : Leads (single c) rest

theorem Leads.chars_ne_nil {l : Lexeme} {rest : List Char} (h : l.Leads rest)
    : l.chars ≠ [] := by
  cases h <;> exact List.cons_ne_nil _ _

/-- A text has one first lexeme, as its first characters tell the kind. -/
theorem Leads.unique {l m : Lexeme} {r s : List Char} (left : l.Leads r) (right : m.Leads s)
    (same : l.chars ++ r = m.chars ++ s)
    : l = m ∧ r = s := by
  cases left with
  | quotation delimiter ends =>
    cases right with
    | quotation otherDelimiter otherEnds =>
      obtain ⟨rfl, later⟩ := List.cons_eq_cons.1 same
      obtain ⟨rfl, rest⟩ := ends.unique delimiter otherEnds later
      exact ⟨rfl, rest⟩
    | comment => exact absurd (List.cons_eq_cons.1 same).1 (ne_of_isDelimiter delimiter rfl)
    | single other => exact absurd (List.cons_eq_cons.1 same).1 (ne_of_isDelimiter delimiter other)
  | comment ends =>
    cases right with
    | quotation delimiter =>
      exact absurd (List.cons_eq_cons.1 same).1.symm (ne_of_isDelimiter delimiter rfl)
    | comment otherEnds =>
      obtain ⟨-, later⟩ := List.cons_eq_cons.1 same
      obtain ⟨rfl, rest⟩ := ends.unique otherEnds (List.cons_eq_cons.1 later).2
      exact ⟨rfl, rest⟩
    | single delimiter dash =>
      obtain ⟨rfl, rfl⟩ := List.cons_eq_cons.1 same
      exact absurd rfl (dash rfl)
  | single delimiter dash =>
    cases right with
    | quotation other =>
      exact absurd (List.cons_eq_cons.1 same).1.symm (ne_of_isDelimiter other delimiter)
    | comment =>
      obtain ⟨rfl, rfl⟩ := List.cons_eq_cons.1 same
      exact absurd rfl (dash rfl)
    | single =>
      obtain ⟨rfl, rest⟩ := List.cons_eq_cons.1 same
      exact ⟨rfl, rest⟩

theorem exists_leads (c : Char) (cs : List Char)
    : ∃ (l : Lexeme) (rest : List Char), l.chars ++ rest = c :: cs ∧ l.Leads rest := by
  by_cases delimiter : isDelimiter c
  · obtain ⟨body, rest, rfl, ends⟩ := exists_endsQuotation c cs
    exact ⟨quotation (c :: body), rest, rfl, .quotation delimiter ends⟩
  by_cases dashes : c = '-' ∧ cs.head? = some '-'
  · obtain ⟨rfl, second⟩ := dashes
    obtain ⟨more, rfl⟩ := List.head?_eq_some_iff.1 second
    obtain ⟨body, rest, rfl, ends⟩ := exists_endsComment more
    exact ⟨comment ('-' :: '-' :: body), rest, rfl, .comment ends⟩
  · exact ⟨single c, cs, rfl, .single (by simpa using delimiter) fun dash next => dashes ⟨dash, next⟩⟩

end Lexeme

/-- The lexemes of a text, one after the other. -/
inductive Lexed : List Char → List Lexeme → Prop where
  | nil : Lexed [] []
  | cons {cs rest : List Char} {l : Lexeme} {ls : List Lexeme} (whole : l.chars ++ rest = cs)
      (first : l.Leads rest) (others : Lexed rest ls)
    : Lexed cs (l :: ls)

theorem Lexed.unique {cs : List Char} {ls ms : List Lexeme} (left : Lexed cs ls) (right : Lexed cs ms)
    : ls = ms := by
  induction left generalizing ms with
  | nil =>
    cases right with
    | nil => rfl
    | cons whole first => exact absurd (List.append_eq_nil_iff.1 whole).1 first.chars_ne_nil
  | cons whole first _ ih =>
    cases right with
    | nil => exact absurd (List.append_eq_nil_iff.1 whole).1 first.chars_ne_nil
    | cons otherWhole otherFirst others =>
      obtain ⟨rfl, rfl⟩ := first.unique otherFirst (whole.trans otherWhole.symm)
      rw [ih others]

/-- Every text has lexemes, by induction on its length. -/
theorem exists_lexed (cs : List Char)
    : ∃ ls, Lexed cs ls := by
  induction length : cs.length using Nat.strongRecOn generalizing cs with
  | ind n ih =>
    cases cs with
    | nil => exact ⟨[], .nil⟩
    | cons c cs =>
      obtain ⟨l, rest, whole, first⟩ := Lexeme.exists_leads c cs
      have shorter : rest.length < n := by
        have present := List.length_pos_iff.2 first.chars_ne_nil
        rw [← length, ← whole, List.length_append]
        omega
      obtain ⟨ls, others⟩ := ih rest.length shorter rest rfl
      exact ⟨l :: ls, .cons whole first others⟩

/-- A text is one sequence of lexemes. -/
theorem exists_lexed_iff (cs : List Char)
    : ∃ ls, ∀ ms, Lexed cs ms ↔ ms = ls := by
  obtain ⟨ls, lexed⟩ := exists_lexed cs
  exact ⟨ls, fun ms => ⟨fun other => other.unique lexed, fun same => same ▸ lexed⟩⟩

-----------------------------------------------------------------------------------------
-- Pieces
-----------------------------------------------------------------------------------------

/-- What is passed belongs to the first piece, by list induction. -/
theorem pieces_append {s t : State} {a : List Char}
    (passed : (a.map Symbol.char).foldlM State.pass s = some t) (b : List Char)
    : pieces s (a ++ b) = (a ++ (pieces t b).1, (pieces t b).2) := by
  induction a generalizing s with
  | nil =>
    cases passed
    rfl
  | cons c rest ih =>
    rw [List.map_cons, List.foldlM_cons, Option.bind_eq_bind, Option.bind_eq_some_iff] at passed
    obtain ⟨m, first, later⟩ := passed
    simp only [State.pass, Option.ite_none_left_eq_some, Option.some.injEq] at first
    obtain ⟨text, rfl⟩ := first
    simp [pieces, text, ih later]

/-- Where the next character has settled that the scanner is in code, it goes on as in code. -/
theorem pieces_of_settle {s : State} {cs : List Char} (settled : s.settle cs.head? = .code)
    : pieces s cs = pieces .code cs := by
  cases cs with
  | nil => rfl
  | cons c rest =>
    have clear : s.inCode ∧ s.step c = State.code.step c := by
      cases s <;> simp_all [State.settle, State.inCode, State.step]
    have inCode : State.code.inCode := rfl
    simp [pieces, clear.1, clear.2, inCode]

/-- The scanner stays between the delimiters of a quotation. By induction on what is there. -/
theorem Inside.pass {d : Char} (delimiter : isDelimiter d) {cs : List Char} (inside : Inside d cs)
    : (cs.map Symbol.char).foldlM State.pass (.quoted d) = some (.quoted d) := by
  have mark : d ≠ '?' := ne_of_isDelimiter delimiter rfl
  have backslash : d ≠ '\\' := ne_of_isDelimiter delimiter rfl
  induction inside with
  | nil => rfl
  | plain escape other _ ih => simpa [State.pass, State.inCode, State.step, escape, other] using ih
  | escaped c _ ih => simpa [State.pass, State.inCode, State.step] using ih
  | doubled _ ih => simpa [State.pass, State.inCode, State.step, mark, backslash] using ih

/-- A quotation is part of one piece, and after it the scanner is in code. -/
theorem EndsQuotation.pieces {d : Char} (delimiter : isDelimiter d) {body rest : List Char}
    (ends : EndsQuotation d body rest)
    : Lexical.pieces (.quoted d) (body ++ rest)
      = (body ++ (Lexical.pieces .code rest).1, (Lexical.pieces .code rest).2) := by
  have backslash : d ≠ '\\' := ne_of_isDelimiter delimiter rfl
  cases ends with
  | @closed cs _ inside alone =>
    have passed : ((cs ++ [d]).map Symbol.char).foldlM State.pass (.quoted d) = some (.closing d) := by
      simp [inside.pass delimiter, State.pass, State.inCode, State.step, backslash]
    rw [pieces_append passed, pieces_of_settle (State.settle_closing alone)]
  | unclosed inside => exact pieces_append (inside.pass delimiter) []
  | @escaping cs inside =>
    have passed : ((cs ++ ['\\']).map Symbol.char).foldlM State.pass (.quoted d) = some (.escaped d) := by
      simp [inside.pass delimiter, State.pass, State.inCode, State.step]
    exact pieces_append passed []

/-- A comment is part of one piece, and after it the scanner is in code. -/
theorem EndsComment.pieces {body rest : List Char} (ends : EndsComment body rest)
    : Lexical.pieces .comment (body ++ rest)
      = (body ++ (Lexical.pieces .code rest).1, (Lexical.pieces .code rest).2) := by
  have line {cs : List Char} (within : '\n' ∉ cs)
      : (cs.map Symbol.char).foldlM State.pass .comment = some .comment := by
    induction cs with
    | nil => rfl
    | cons c rest ih =>
      rw [List.mem_cons, not_or] at within
      simpa [State.pass, State.inCode, State.step, Ne.symm within.1] using ih within.2
  cases ends with
  | @line cs _ within =>
    have passed : ((cs ++ ['\n']).map Symbol.char).foldlM State.pass .comment = some .code := by
      simp [line within, State.pass, State.inCode, State.step]
    exact pieces_append passed rest
  | last within => exact pieces_append (line within) []

/-- The first lexeme of a text is where the text is cut, or it belongs to the first piece. -/
theorem Lexeme.Leads.pieces {l : Lexeme} {rest : List Char} (h : l.Leads rest)
    : Lexical.pieces .code (l.chars ++ rest)
      = if l = placeholder then
          ([], (Lexical.pieces .code rest).1 :: (Lexical.pieces .code rest).2)
        else (l.chars ++ (Lexical.pieces .code rest).1, (Lexical.pieces .code rest).2) := by
  cases h with
  | @quotation d body _ delimiter ends =>
    have mark : d ≠ '?' := ne_of_isDelimiter delimiter rfl
    have opened : State.code.step d = .quoted d := by simp [State.step, State.afterCode, delimiter]
    have other : Lexeme.quotation (d :: body) ≠ placeholder := by simp [placeholder]
    rw [if_neg other, chars, List.cons_append, Lexical.pieces, if_neg (fun same => mark same.1), opened,
      ends.pieces delimiter]
    rfl
  | @comment body _ ends =>
    have other : Lexeme.comment ('-' :: '-' :: body) ≠ placeholder := by simp [placeholder]
    rw [if_neg other, chars]
    simp [Lexical.pieces, State.step, State.afterCode, isDelimiter, ends.pieces]
  | @single c _ delimiter dash =>
    by_cases mark : c = '?'
    · subst mark
      rfl
    · have other : Lexeme.single c ≠ placeholder := by simpa [placeholder] using mark
      have settled : (State.code.step c).settle rest.head? = .code := by
        by_cases minus : c = '-'
        · simp [minus, State.step, State.afterCode, isDelimiter, State.settle, dash minus]
        · simp [State.step, State.afterCode, delimiter, minus]
      rw [if_neg other]
      simp [chars, Lexical.pieces, mark, pieces_of_settle settled]

/-- The pieces of a text are what stands between its placeholders, lexeme by lexeme. -/
theorem Lexed.pieces {cs : List Char} {ls : List Lexeme} (h : Lexed cs ls)
    : (Lexical.pieces .code cs).1 :: (Lexical.pieces .code cs).2
      = (ls.splitOn .placeholder).map fun between => between.flatMap Lexeme.chars := by
  induction h with
  | nil => rfl
  | @cons _ rest l ls whole first _ ih =>
    rw [← whole, first.pieces, List.splitOn_cons_eq_if_modifyHead]
    by_cases mark : l = .placeholder
    · simp [mark, ih]
    · obtain ⟨between, more, shape⟩ := List.exists_cons_of_ne_nil (List.splitOn_ne_nil Lexeme.placeholder ls)
      rw [shape, List.map_cons] at ih
      obtain ⟨here, others⟩ := List.cons_eq_cons.1 ih
      simp [mark, shape, here, others]

/-- A text has as many placeholders as it has pieces behind the first one, lexeme by lexeme. -/
theorem Lexed.length_pieces {cs : List Char} {ls : List Lexeme} (h : Lexed cs ls)
    : (Lexical.pieces .code cs).2.length = ls.count .placeholder := by
  induction h with
  | nil => rfl
  | @cons _ rest l ls whole first _ ih =>
    rw [← whole, first.pieces]
    by_cases mark : l = .placeholder
    · simp [mark, ih]
    · simp [mark, ih]

/-- The pieces of a text, the one before its first placeholder included. -/
def splitAll (sql : String) : List String :=
  (split sql).1 :: (split sql).2

theorem map_toList_splitAll (sql : String)
    : (splitAll sql).map String.toList
      = (pieces .code sql.toList).1 :: (pieces .code sql.toList).2 := by
  simp [splitAll, split]

/-- Every text is one sequence of lexemes, and its pieces are the texts between those that are a question
mark: there is one piece more than these, and the pieces with question marks between them are the text.
-/
theorem splitAll_eq (sql : String)
    : ∃ ls,
        (∀ ms, Lexed sql.toList ms ↔ ms = ls)
        ∧ (splitAll sql).map String.toList
          = (ls.splitOn .placeholder).map (fun between => between.flatMap Lexeme.chars)
        ∧ (splitAll sql).length = ls.count .placeholder + 1
        ∧ "?".intercalate (splitAll sql) = sql := by
  obtain ⟨ls, only⟩ := exists_lexed_iff sql.toList
  have lexed : Lexed sql.toList ls := (only ls).2 rfl
  refine ⟨ls, only, ?_, ?_, ?_⟩
  · rw [map_toList_splitAll, lexed.pieces]
  · have lengths := congrArg List.length (map_toList_splitAll sql)
    rwa [List.length_map, List.length_cons, lexed.length_pieces] at lengths
  · rw [← String.toList_inj, String.toList_intercalate, map_toList_splitAll, Text.intercalate_cons]
    exact Statement.pieces_joined .code sql.toList

/-- Question marks in names, in a comment and in a literal, and one that is a placeholder. -/
example : splitAll "select \"a?\"\"\" -- b?'\n where c = ? and d <> '\\'?'"
    = ["select \"a?\"\"\" -- b?'\n where c = ", " and d <> '\\'?'"] := by
  decide

end ColumnStore.Lexical
