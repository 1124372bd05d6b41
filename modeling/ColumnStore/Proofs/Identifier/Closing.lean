import ColumnStore.Proofs.Identifier.Spelling
import ColumnStore.Proofs.Sql.Lexemes

/-! Where the quotes of a written name close. A backslash is not doubled as a quote is, so a segment with an
active one in front of a quote or at its end runs on into what follows; every other segment is read from
code to code.
-/

namespace ColumnStore

namespace Lexical

/-- The state in which the scanner stands between two texts. -/
def stateBetween (front back : List Char) : State :=
  stateAt (front ++ back) front.length

theorem stateBetween_eq (front back : List Char)
    : stateBetween front back = (State.code.run front).settle back.head? :=
  stateAt_append front back

/-- Between the quotes of a delimiter, where one that follows is doubled. -/
def State.IsWithin (d : Char) (s : State) : Prop :=
  s = quoted d ∨ s = escaped d

/-- What is inside a quotation leaves the scanner there. By induction on it. -/
theorem Inside.run {d : Char} (backslash : d ≠ '\\') {cs : List Char} (inside : Inside d cs)
    : (State.quoted d).run cs = .quoted d := by
  induction inside with
  | nil => rfl
  | plain escape other _ ih => simpa [State.step, escape, other] using ih
  | escaped c _ ih => simpa [State.step] using ih
  | doubled _ ih => simpa [State.step, backslash] using ih

/-- The scanner is within the quotes at every place up to the closing delimiter. By induction on what is
inside, which tells how the first characters are read.
-/
theorem Inside.isWithin {d : Char} (backslash : d ≠ '\\') {body : List Char} (inside : Inside d body)
    {front back : List Char} (split : front ++ back = body) (after : List Char)
    : ((State.quoted d).run front |>.settle (back ++ d :: after).head?).IsWithin d := by
  induction inside generalizing front with
  | nil =>
    obtain ⟨rfl, rfl⟩ := List.append_eq_nil_iff.1 split
    exact .inl rfl
  | plain escape other _ ih =>
    cases front with
    | nil => exact .inl rfl
    | cons c front =>
      obtain ⟨rfl, later⟩ := List.cons_eq_cons.1 split
      simpa [State.step, escape, other] using ih later
  | escaped c _ ih =>
    rcases front with - | ⟨b, - | ⟨e, front⟩⟩
    · exact .inl rfl
    · obtain ⟨rfl, -⟩ := List.cons_eq_cons.1 split
      exact .inr rfl
    · obtain ⟨rfl, later⟩ := List.cons_eq_cons.1 split
      simpa [State.step] using ih (List.cons_eq_cons.1 later).2
  | doubled _ ih =>
    rcases front with - | ⟨b, - | ⟨e, front⟩⟩
    · exact .inl rfl
    · obtain ⟨rfl, second⟩ := List.cons_eq_cons.1 split
      obtain rfl : back = _ := second
      exact .inl (by simp [State.step, backslash, State.settle])
    · obtain ⟨rfl, later⟩ := List.cons_eq_cons.1 split
      obtain ⟨rfl, last⟩ := List.cons_eq_cons.1 later
      simpa [State.step, backslash] using ih last

/-- Where the scanner is in code at a dot, it is in code behind it. -/
theorem run_dot {cs : List Char} (settled : (State.code.run cs).settle (some '.') = .code)
    : State.code.run (cs ++ ['.']) = .code := by
  have clear (s : State) (settled : s.settle (some '.') = .code) : s.step '.' = .code := by
    cases s <;> simp_all [State.settle, State.step, State.afterCode, isDelimiter]
  rw [State.run_append]
  exact clear _ settled

/-- The scanner reads a part of a text from code to code, and between the first character of the part and
the last it is within double quotes.
-/
structure IsEnclosed (before part after : List Char) : Prop where
  opened : stateBetween before (part ++ after) = .code
  within
    : ∀ front back, front ≠ [] → back ≠ [] → front ++ back = part →
        (stateBetween (before ++ front) (back ++ after)).IsWithin '"'
  closed : stateBetween (before ++ part) after = .code

end Lexical

namespace Identifier

open Lexical State

-----------------------------------------------------------------------------------------
-- One segment
-----------------------------------------------------------------------------------------

/-- No backslash of a name takes a quote with it, nor the quote that closes the name: read from the left, a
backslash has a character behind it, which is no quote.
-/
def keepsQuotes : List Char → Bool
  | [] => true
  | ['\\'] => false
  | '\\' :: c :: rest => c ≠ '"' && keepsQuotes rest
  | _ :: rest => keepsQuotes rest

theorem inside_doubleQuotes {cs : List Char} (keeps : keepsQuotes cs)
    : Inside '"' (doubleQuotes cs) := by
  fun_induction keepsQuotes cs with
  | case1 => exact .nil
  | case2 => cases keeps
  | case3 c rest ih =>
    simp only [Bool.and_eq_true, decide_eq_true_eq] at keeps
    rw [doubleQuotes_cons, doubleQuotes_cons, if_neg keeps.1]
    exact .escaped c (ih keeps.2)
  | case4 c rest _ other ih =>
    rw [doubleQuotes_cons]
    by_cases quote : c = '"'
    · subst quote
      exact .doubled (ih keeps)
    · rw [if_neg quote]
      refine .plain ?_ quote (ih keeps)
      rintro rfl
      cases rest <;> simp_all

/-- The scanner is not where the quotes of a name can close. -/
def IsAstray (s : State) : Prop :=
  s ≠ .quoted '"' ∧ s ≠ .escaped '"'

theorem isAstray_afterCode {c : Char} (other : c ≠ '"')
    : IsAstray (afterCode c) := by
  unfold afterCode
  split
  · simpa [IsAstray] using other
  · split <;> simp [IsAstray]

theorem IsAstray.step {s : State} (astray : IsAstray s) {c : Char} (other : c ≠ '"')
    : IsAstray (s.step c) := by
  obtain ⟨notQuoted, notEscaped⟩ := astray
  cases s with
  | code => exact isAstray_afterCode other
  | dash =>
    rw [State.step]
    split
    · simp [IsAstray]
    · exact isAstray_afterCode other
  | quoted d =>
    have apart : d ≠ '"' := by simpa using notQuoted
    rw [State.step]
    split
    · simpa [IsAstray] using apart
    · split <;> simp [IsAstray, apart]
  | escaped d => simpa [IsAstray, State.step] using notEscaped
  | closing d =>
    rw [State.step]
    split
    · rename_i same
      simpa [IsAstray, ← same] using other
    · exact isAstray_afterCode other
  | comment =>
    rw [State.step]
    split <;> simp [IsAstray]

/-- From astray, a quote opens a quotation, or it is part of another one or of a comment. -/
theorem IsAstray.step_quote {s : State} (astray : IsAstray s)
    : s.step '"' = .quoted '"' ∨ (∃ d, d ≠ '"' ∧ s.step '"' = .quoted d)
      ∨ s.step '"' = .comment := by
  obtain ⟨notQuoted, notEscaped⟩ := astray
  cases s with
  | code => exact .inl rfl
  | dash => exact .inl rfl
  | quoted d =>
    have apart : d ≠ '"' := by simpa using notQuoted
    exact .inr (.inl ⟨d, apart, by simp [State.step, Ne.symm apart]⟩)
  | escaped d =>
    have apart : d ≠ '"' := by simpa using notEscaped
    exact .inr (.inl ⟨d, apart, rfl⟩)
  | closing d =>
    left
    rw [State.step]
    split
    · rename_i same
      rw [same]
    · rfl
  | comment => exact .inr (.inr rfl)

/-- The quotes of a name come in pairs, so from astray its characters lead astray. By list induction. -/
theorem IsAstray.run_doubleQuotes {s : State} (astray : IsAstray s) (cs : List Char)
    : IsAstray (s.run (doubleQuotes cs)) := by
  induction cs generalizing s with
  | nil => exact astray
  | cons c rest ih =>
    rw [doubleQuotes_cons, State.run_append]
    apply ih
    by_cases quote : c = '"'
    · rw [if_pos quote, State.run_cons, State.run_cons, State.run_nil]
      rcases astray.step_quote with opened | ⟨d, apart, other⟩ | comment
      · rw [opened]
        exact ⟨by decide, by decide⟩
      · rw [other]
        simp [State.step, Ne.symm apart, apart, IsAstray]
      · rw [comment]
        exact ⟨by decide, by decide⟩
    · rw [if_neg quote]
      exact astray.step quote

/-- From astray, a quote is not one that closes the name. -/
theorem IsAstray.settle_step {s : State} (astray : IsAstray s) (next : Option Char)
    : (s.step '"').settle next ≠ .code := by
  rcases astray.step_quote with opened | ⟨d, -, other⟩ | comment
  · simp [opened, State.settle]
  · simp [other, State.settle]
  · simp [comment, State.settle]

/-- A name that does not keep its quotes has the quote behind it escaped, or it leads out of its quotes
before that. By the cases of its backslashes.
-/
theorem settle_run_ne_code {cs : List Char} (leaks : keepsQuotes cs = false) (next : Option Char)
    : (((State.quoted '"').run (doubleQuotes cs)).step '"').settle next ≠ .code := by
  fun_induction keepsQuotes cs with
  | case1 => cases leaks
  | case2 => simp [doubleQuotes, State.step, State.settle]
  | case3 c rest ih =>
    rw [doubleQuotes_cons, doubleQuotes_cons, State.run_append, State.run_append]
    by_cases quote : c = '"'
    · rw [if_pos quote]
      have astray : IsAstray (((State.quoted '"').run ['\\']).run ['"', '"']) := ⟨by decide, by decide⟩
      exact (astray.run_doubleQuotes rest).settle_step next
    · rw [if_neg quote]
      exact ih (by simpa [quote] using leaks)
  | case4 c rest last other ih =>
    rw [doubleQuotes_cons, State.run_append]
    by_cases quote : c = '"'
    · rw [if_pos quote]
      exact ih leaks
    · rw [if_neg quote]
      have backslash : c ≠ '\\' := by
        rintro rfl
        cases rest <;> simp_all
      have stays : (State.quoted '"').run [c] = .quoted '"' := by simp [State.step, backslash, quote]
      rw [stays]
      exact ih leaks

/-- A segment that starts in code, with no quote behind it, is enclosed exactly if it keeps its quotes. -/
theorem isEnclosed_segment_iff {before : List Char} (clear : State.code.run before = .code)
    {after : List Char} (apart : after.head? ≠ some '"') (cs : List Char)
    : IsEnclosed before (segment cs) after ↔ keepsQuotes cs := by
  have opened : stateBetween before (segment cs ++ after) = .code := by
    rw [stateBetween_eq, clear, State.settle_code]
  rcases segment_cases cs with ⟨rfl, shape⟩ | ⟨star, shape⟩
  · refine iff_of_true ⟨opened, ?_, ?_⟩ rfl
    · intro front back left right split
      have lengths := congrArg List.length split
      have first := List.length_pos_iff.2 left
      have last := List.length_pos_iff.2 right
      simp only [shape, List.length_append, List.length_singleton] at lengths
      omega
    · rw [stateBetween_eq, State.run_append, clear, shape]
      rfl
  have body (cs : List Char) : State.code.run (before ++ '"' :: cs) = (State.quoted '"').run cs := by
    rw [State.run_append, clear]
    rfl
  rw [shape] at opened ⊢
  constructor
  · intro enclosed
    by_contra leaks
    have closed := enclosed.closed
    rw [stateBetween_eq, quoted, List.cons_append, body, State.run_append] at closed
    exact settle_run_ne_code (by simpa using leaks) _ closed
  · intro keeps
    have inside := inside_doubleQuotes keeps
    refine ⟨opened, ?_, ?_⟩
    · intro front back left right split
      obtain ⟨first, front, rfl⟩ := List.exists_cons_of_ne_nil left
      obtain ⟨rfl, later⟩ := List.cons_eq_cons.1 split
      -- The last character is the closing quote, and those before it are inside.
      obtain ⟨back, last, rfl⟩ := (List.eq_nil_or_concat back).resolve_left right
      have parts : (front ++ back) ++ [last] = doubleQuotes cs ++ ['"'] := by simpa using later
      obtain ⟨between, ends⟩ := List.append_inj' parts rfl
      obtain rfl := List.singleton_inj.1 ends
      have settled := inside.isWithin (by decide) between after
      rwa [stateBetween_eq, body, List.concat_append]
    · rw [stateBetween_eq, quoted, List.cons_append, body, State.run_append,
        inside.run (by decide)]
      exact State.settle_closing apart

-----------------------------------------------------------------------------------------
-- Names in segments
-----------------------------------------------------------------------------------------

/-- Each of the segments behind a text is enclosed, where the rest of them and a further text follow. -/
def EnclosesEach (rest : List Char) : List Char → List (List Char) → Prop
  | _, [] => True
  | before, [part] => IsEnclosed before (segment part) rest
  | before, part :: next :: more =>
    IsEnclosed before (segment part) ('.' :: dots (next :: more) ++ rest)
      ∧ EnclosesEach rest (before ++ segment part ++ ['.']) (next :: more)

/-- Segments are enclosed one after the other if each of them keeps its quotes: the first that does not
leaves the scanner out of code. By induction on the segments.
-/
theorem enclosesEach_iff {rest : List Char} (apart : rest.head? ≠ some '"')
    : ∀ {before : List Char} {parts : List (List Char)}, State.code.run before = .code →
        (EnclosesEach rest before parts ↔ ∀ part ∈ parts, keepsQuotes part)
  | _, [], _ => by simp [EnclosesEach]
  | _, [part], clear => by simp [EnclosesEach, isEnclosed_segment_iff clear apart]
  | before, part :: next :: more, clear => by
    have dot : ('.' :: dots (next :: more) ++ rest).head? ≠ some '"' := by simp
    rw [EnclosesEach, isEnclosed_segment_iff clear dot, List.forall_mem_cons]
    refine and_congr_right fun keeps => enclosesEach_iff apart (run_dot ?_)
    have closed := ((isEnclosed_segment_iff clear dot part).2 keeps).closed
    rwa [stateBetween_eq] at closed

namespace Spelling

/-- A written name closes its quotes where it should, in front of a further text: the scanner is in code at
the dot behind a function call, and it reads each of the segments from code to code.
-/
structure Closes (s : Spelling) (rest : List Char) : Prop where
  call : ∀ call ∈ s.call, stateBetween call ('.' :: dots s.segments ++ rest) = .code
  segments : EnclosesEach rest s.lead s.segments

/-- A function call leaves the scanner in code, and every segment keeps its quotes. -/
structure Keeps (s : Spelling) : Prop where
  call : ∀ call ∈ s.call, (State.code.run call).settle (some '.') = .code
  segments : ∀ part ∈ s.segments, keepsQuotes part

theorem closes_iff {s : Spelling} {rest : List Char} (apart : rest.head? ≠ some '"')
    : s.Closes rest ↔ s.Keeps := by
  have clear (ends : ∀ call ∈ s.call, (State.code.run call).settle (some '.') = .code)
      : State.code.run s.lead = .code := by
    rw [lead]
    split
    · rfl
    · rename_i call found
      exact run_dot (ends call found)
  have dot (call : List Char) : stateBetween call ('.' :: dots s.segments ++ rest)
      = (State.code.run call).settle (some '.') := stateBetween_eq _ _
  constructor
  · intro closes
    have ends call member := (dot call).symm.trans (closes.call call member)
    exact ⟨ends, (enclosesEach_iff apart (clear ends)).1 closes.segments⟩
  · intro keeps
    exact ⟨fun call member => (dot call).trans (keeps.call call member),
      (enclosesEach_iff apart (clear keeps.call)).2 keeps.segments⟩

end Spelling

end Identifier

open Identifier Lexical

/-- The quotes of a column and of a table close where they should, whatever follows them but a quote,
exactly if every segment keeps them. The prefix belongs to the last segment of a table, and a function call
that stands for its database has to end in code by itself.
-/
theorem closes_iff_keeps {name : String} (segmented : IsSegmented name.toList) {rest : List Char}
    (apart : rest.head? ≠ some '"') (d : Dialect)
    : ((columnSql name).toList = (Spelling.ofColumn name.toList).text
        ∧ ((Spelling.ofColumn name.toList).Closes rest
          ↔ ∀ part ∈ name.toList.splitOn '.', keepsQuotes part))
      ∧ (d.tableSql name).toList = (Spelling.ofTable d.tablePrefix.toList name.toList).text
      ∧ ((Spelling.ofTable d.tablePrefix.toList name.toList).Closes rest
        ↔ (Spelling.ofTable d.tablePrefix.toList name.toList).Keeps) := by
  refine ⟨⟨?_, ?_⟩, ?_, Spelling.closes_iff apart⟩
  · rw [columnSql_of_isSegmented segmented, String.toList_ofList]
  · rw [Spelling.closes_iff apart]
    exact ⟨fun keeps => keeps.segments, fun keeps => ⟨by simp [Spelling.ofColumn], keeps⟩⟩
  · rw [d.tableSql_of_isSegmented segmented, String.toList_ofList]

/-- A name with a quote and with a backslash that takes no quote with it closes its quotes. -/
theorem closes_iff_keeps_shop
    : IsSegmented "sh\\op.we\"ird".toList
      ∧ (Spelling.ofColumn "sh\\op.we\"ird".toList).Closes " = 1".toList
      ∧ (Spelling.ofTable "app_".toList "sh\\op.we\"ird".toList).Closes " = 1".toList := by
  have segmented : IsSegmented "sh\\op.we\"ird".toList := by decide
  have apart : (" = 1".toList).head? ≠ some '"' := by decide
  obtain ⟨⟨-, column⟩, -, table⟩ := closes_iff_keeps segmented apart { tablePrefix := "app_" }
  refine ⟨segmented, column.2 (by decide), table.2 ⟨?_, by decide⟩⟩
  intro call member
  cases member

/-- A name that ends in a backslash has its closing quote escaped, so whatever follows is read as part of
the name. Nor does a quotation that a function call leaves open end in front of the table.
-/
theorem not_closes_backslash
    : IsSegmented "a\\".toList
      ∧ columnSql "a\\" = "\"a\\\""
      ∧ (∀ rest, stateBetween (columnSql "a\\").toList rest = .quoted '"'
        ∧ ¬ (Spelling.ofColumn "a\\".toList).Closes rest)
      ∧ IsSegmented "f(\").t".toList
      ∧ ∀ rest, ¬ (Spelling.ofTable [] "f(\").t".toList).Closes rest := by
  have segmented : IsSegmented "a\\".toList := by decide
  have written : columnSql "a\\" = "\"a\\\"" := (columnSql_of_isSegmented segmented).trans (by decide)
  have astray (rest : List Char) : stateBetween "\"a\\\"".toList rest = .quoted '"' := by
    rw [stateBetween_eq]
    rfl
  refine ⟨segmented, written, ?_, by decide, ?_⟩
  · intro rest
    rw [written]
    refine ⟨astray rest, fun closes => ?_⟩
    have closed : stateBetween "\"a\\\"".toList rest = .code := closes.segments.closed
    rw [astray] at closed
    cases closed
  · intro rest closes
    have ended := closes.call "f(\")".toList rfl
    rw [stateBetween_eq] at ended
    cases ended

end ColumnStore
