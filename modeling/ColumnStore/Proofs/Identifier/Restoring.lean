import ColumnStore.Proofs.Identifier.Scanning

/-! A stored name is taken apart as a reference when it is written again. What is written names the stored
table exactly if there was nothing to take apart: no dot, no alias, no function call, and no star.
-/

namespace ColumnStore.Identifier

-----------------------------------------------------------------------------------------
-- Reading one quoted name
-----------------------------------------------------------------------------------------

/-- The name up to a closing quote, where the text has to end. A doubled quote stands for one. -/
def untilQuote? : List Char → Option (List Char)
  | [] => none
  | ['"'] => some []
  | '"' :: '"' :: rest => (untilQuote? rest).map ('"' :: ·)
  | c :: rest => if c = '"' then none else (untilQuote? rest).map (c :: ·)

/-- The name that a text quotes, if it is one quoted name and nothing else. -/
def unquoted? : List Char → Option (List Char)
  | '"' :: rest => untilQuote? rest
  | _ => none

theorem untilQuote?_doubleQuotes (cs : List Char)
    : untilQuote? (doubleQuotes cs ++ ['"']) = some cs := by
  induction cs with
  | nil => rfl
  | cons c rest ih =>
    by_cases quote : c = '"'
    · subst quote
      change untilQuote? ('"' :: '"' :: (doubleQuotes rest ++ ['"'])) = _
      rw [untilQuote?, ih]
      rfl
    · have split : doubleQuotes (c :: rest) ++ ['"'] = c :: (doubleQuotes rest ++ ['"']) := by
        simp [doubleQuotes, quote]
      rw [split, untilQuote?, if_neg quote, ih]
      · rfl
      all_goals simp_all

/-- What is read up to a closing quote is written with its quotes doubled, by the reader's cases. -/
theorem eq_of_untilQuote? {cs name : List Char} (h : untilQuote? cs = some name)
    : cs = doubleQuotes name ++ ['"'] := by
  fun_induction untilQuote? cs generalizing name with
  | case1 => cases h
  | case2 =>
    cases h
    rfl
  | case3 rest ih =>
    obtain ⟨inner, read, rfl⟩ := Option.map_eq_some_iff.1 h
    simpa [doubleQuotes] using ih read
  | case4 => cases h
  | case5 c rest _ _ other ih =>
    obtain ⟨inner, read, rfl⟩ := Option.map_eq_some_iff.1 h
    simpa [doubleQuotes, other] using ih read

/-- A text quotes a name if it is the name in its quotes. -/
theorem unquoted?_eq_some {cs name : List Char}
    : unquoted? cs = some name ↔ cs = quoted name := by
  constructor
  · intro h
    unfold unquoted? at h
    split at h
    · rw [eq_of_untilQuote? h]
      rfl
    · cases h
  · rintro rfl
    exact untilQuote?_doubleQuotes name

/-- A quote is written twice, and any other character once. -/
theorem doubleQuotes_cons (c : Char) (cs : List Char)
    : doubleQuotes (c :: cs) = (if c = '"' then ['"', '"'] else [c]) ++ doubleQuotes cs :=
  List.flatMap_cons

/-- A name in its quotes is read off a text by what it holds alone, where no quote follows. By list
induction on both names, in lockstep.
-/
theorem quoted_unique {a b r s : List Char} (rApart : r.head? ≠ some '"') (sApart : s.head? ≠ some '"')
    (same : quoted a ++ r = quoted b ++ s)
    : a = b ∧ r = s := by
  have inside (a b : List Char) (same : doubleQuotes a ++ '"' :: r = doubleQuotes b ++ '"' :: s)
      : a = b ∧ r = s := by
    have start (c : Char) (cs : List Char)
        : ((if c = '"' then ['"', '"'] else [c]) ++ cs).head? = some c := by
      split
      · rename_i quote
        rw [quote]
        rfl
      · rfl
    have closed {c : Char} {cs t u : List Char} (apart : t.head? ≠ some '"')
        (same : '"' :: t = doubleQuotes (c :: cs) ++ '"' :: u) : False := by
      rw [doubleQuotes_cons] at same
      split at same
      · exact apart (by rw [(List.cons_eq_cons.1 same).2]; rfl)
      · rename_i other
        exact other (List.cons_eq_cons.1 same).1.symm
    induction a generalizing b with
    | nil =>
      cases b with
      | nil => exact ⟨rfl, (List.cons_eq_cons.1 same).2⟩
      | cons d b => exact (closed rApart same).elim
    | cons c a ih =>
      cases b with
      | nil => exact (closed sApart same.symm).elim
      | cons d b =>
        rw [doubleQuotes_cons, doubleQuotes_cons] at same
        rw [List.append_assoc, List.append_assoc] at same
        obtain rfl : c = d := by simpa [start] using congrArg List.head? same
        obtain ⟨rfl, rest⟩ := ih b (List.append_cancel_left same)
        exact ⟨rfl, rest⟩
  refine inside a b ?_
  simpa [quoted] using same

-----------------------------------------------------------------------------------------
-- What stays of a name
-----------------------------------------------------------------------------------------

/-- A part of a name that is put together with its prefix again as it was. -/
structure IsRestored (tablePrefix own : List Char) : Prop where
  call : isExpression own = false
  single : splitAlias? own = none
  dot : '.' ∉ own
  star : tablePrefix ++ own ≠ ['*']

instance (tablePrefix own : List Char) : Decidable (IsRestored tablePrefix own) :=
  decidable_of_iff
    (isExpression own = false ∧ splitAlias? own = none ∧ '.' ∉ own ∧ tablePrefix ++ own ≠ ['*'])
    ⟨fun ⟨call, single, dot, star⟩ => ⟨call, single, dot, star⟩, fun h => ⟨h.1, h.2, h.3, h.4⟩⟩

theorem doubleQuotes_append (a b : List Char)
    : doubleQuotes (a ++ b) = doubleQuotes a ++ doubleQuotes b :=
  List.flatMap_append

theorem length_le_doubleQuotes (cs : List Char)
    : cs.length ≤ (doubleQuotes cs).length := by
  induction cs with
  | nil => exact Nat.le_refl 0
  | cons c rest ih =>
    by_cases quote : c = '"' <;> simp [doubleQuotes, quote] at ih ⊢ <;> omega

/-- A segment is quoted, unless it is the star. -/
theorem segment_cases (cs : List Char)
    : cs = ['*'] ∧ segment cs = ['*'] ∨ cs ≠ ['*'] ∧ segment cs = quoted cs := by
  by_cases star : cs = ['*']
  · exact .inl ⟨star, by rw [segment, if_pos star, star]⟩
  · exact .inr ⟨star, if_neg star⟩

theorem getLast?_quoted (cs : List Char)
    : (quoted cs).getLast? = some '"' :=
  List.getLast?_concat

/-- A separator is the word between blanks, one at least on either side. -/
theorem afterSeparator?_eq_some_iff {cs given : List Char}
    : afterSeparator? cs = some given
      ↔ ∃ c blanks a s b more, cs = c :: blanks ++ a :: s :: b :: more
        ∧ (Text.isBlank c ∧ (∀ x ∈ blanks, Text.isBlank x) ∧ isLetterA a ∧ isLetterS s
          ∧ Text.isBlank b)
        ∧ given = more.dropWhile Text.isBlank := by
  constructor
  · intro h
    unfold afterSeparator? at h
    split at h
    · cases h
    · rename_i c rest
      split at h
      · rename_i first
        split at h
        · rename_i a s b more shape
          split at h
          · rename_i separates
            have ends : rest = rest.takeWhile Text.isBlank ++ a :: s :: b :: more := by
              rw [← shape, List.takeWhile_append_dropWhile]
            exact ⟨c, _, a, s, b, more, congrArg (c :: ·) ends,
              ⟨first, fun x member => List.mem_takeWhile_imp member, separates⟩,
              (Option.some.inj h).symm⟩
          · cases h
        · cases h
      · cases h
  · rintro ⟨c, blanks, a, s, b, more, rfl, ⟨first, blank, word⟩, rfl⟩
    have solid : Text.isBlank a = false := by
      have letter : a = 'a' ∨ a = 'A' := by simpa [isLetterA] using word.1
      rcases letter with rfl | rfl <;> decide
    have left : (blanks ++ a :: s :: b :: more).dropWhile Text.isBlank = a :: s :: b :: more := by
      rw [List.dropWhile_append_of_pos blank, List.dropWhile_cons_of_neg (by simp [solid])]
    simp [afterSeparator?, first, left, word]

/-- Right before an alias there is a blank, by list induction. -/
theorem splitAlias?_eq_some {cs base given : List Char} (h : splitAlias? cs = some (base, given))
    : ∃ front blank, cs = front ++ blank :: given ∧ Text.isBlank blank := by
  induction cs generalizing base with
  | nil => cases h
  | cons c rest ih =>
    simp only [splitAlias?] at h
    split at h
    · rename_i found
      cases h
      obtain ⟨d, blanks, a, s, b, more, shape, ⟨-, -, -, -, blank⟩, rfl⟩ :=
        afterSeparator?_eq_some_iff.1 found
      have ends (more : List Char) (b : Char) (blank : Text.isBlank b)
          : ∃ front last, b :: more = front ++ last :: more.dropWhile Text.isBlank
            ∧ Text.isBlank last := by
        induction more generalizing b with
        | nil => exact ⟨[], b, rfl, blank⟩
        | cons next others ih =>
          cases solid : Text.isBlank next with
          | false => exact ⟨[], b, by rw [List.dropWhile_cons_of_neg (by simp [solid])]; rfl, blank⟩
          | true =>
            obtain ⟨front, last, tail, ends⟩ := ih next solid
            exact ⟨b :: front, last, by rw [List.dropWhile_cons_of_pos solid, tail]; rfl, ends⟩
      obtain ⟨front, last, tail, final⟩ := ends more b blank
      refine ⟨d :: blanks ++ a :: s :: front, last, ?_, final⟩
      rw [shape, tail]
      simp
    · obtain ⟨⟨b, g⟩, split, same⟩ := Option.map_eq_some_iff.1 h
      cases same
      obtain ⟨front, blank, rfl, separates⟩ := ih split
      exact ⟨c :: front, blank, rfl, separates⟩

/-- A name without an alias has none in its front either, by list induction. -/
theorem splitAlias?_of_append {a b : List Char} (h : splitAlias? (a ++ b) = none)
    : splitAlias? a = none := by
  induction a with
  | nil => rfl
  | cons c rest ih =>
    rw [List.cons_append, splitAlias?] at h
    cases later : afterSeparator? (c :: (rest ++ b)) with
    | some given => simp [later] at h
    | none =>
      rw [later, Option.map_eq_none_iff] at h
      have here : afterSeparator? (c :: rest) = none := by
        rw [Option.eq_none_iff_forall_ne_some]
        intro given found
        obtain ⟨d, blanks, a, s, e, more, shape, word, -⟩ := afterSeparator?_eq_some_iff.1 found
        have longer : afterSeparator? (c :: (rest ++ b)) = some ((more ++ b).dropWhile Text.isBlank) :=
          afterSeparator?_eq_some_iff.2 ⟨d, blanks, a, s, e, more ++ b, by
            rw [← List.cons_append, shape]; simp, word, rfl⟩
        simp [later] at longer
      rw [splitAlias?, here, ih h]
      rfl

/-- Parts between dots, the first of them apart. -/
theorem intercalate_dot_cons (first : List Char) (rest : List (List Char))
    : ['.'].intercalate (first :: rest) = first ++ rest.flatMap fun part => '.' :: part :=
  Text.intercalate_cons ['.'] first rest

/-- A name in segments is not quoted as one: its text is longer, or starts with a star. -/
theorem dotted_cases (cs : List Char)
    : (dotted cs).head? = some '*' ∨ (doubleQuotes cs).length < (dotted cs).length := by
  have shorter (rest : List (List Char))
      : (doubleQuotes (rest.flatMap fun part => '.' :: part)).length
        ≤ ((rest.map segment).flatMap fun part => '.' :: part).length := by
    induction rest with
    | nil => exact Nat.le_refl 0
    | cons part more ih =>
      have here : (doubleQuotes ('.' :: part)).length ≤ ('.' :: segment part).length := by
        rcases segment_cases part with ⟨rfl, shape⟩ | ⟨-, shape⟩ <;> rw [shape]
        · exact Nat.le_refl _
        · simp [doubleQuotes, quoted]
      rw [List.flatMap_cons, List.map_cons, List.flatMap_cons, doubleQuotes_append,
        List.length_append, List.length_append]
      exact Nat.add_le_add here ih
  obtain ⟨first, rest, parts⟩ := List.exists_cons_of_ne_nil (List.splitOn_ne_nil '.' cs)
  have name : first ++ rest.flatMap (fun part => '.' :: part) = cs := by
    rw [← intercalate_dot_cons, ← parts, List.intercalate_splitOn]
  have written : dotted cs = segment first ++ (rest.map segment).flatMap fun part => '.' :: part := by
    rw [dotted, parts, List.map_cons, intercalate_dot_cons]
  rw [written]
  rcases segment_cases first with ⟨-, shape⟩ | ⟨-, shape⟩ <;> rw [shape]
  · exact .inl rfl
  · refine .inr ?_
    have others := shorter rest
    rw [← name, doubleQuotes_append]
    simp only [quoted, List.length_append, List.length_cons]
    omega

/-- Only a text without quotes has as many characters when they are doubled. -/
theorem length_lt_doubleQuotes {cs : List Char} (h : '"' ∈ cs)
    : cs.length < (doubleQuotes cs).length := by
  obtain ⟨front, back, rfl⟩ := List.append_of_mem h
  have before := length_le_doubleQuotes front
  have after := length_le_doubleQuotes back
  have split : doubleQuotes (front ++ '"' :: back)
      = doubleQuotes front ++ '"' :: '"' :: doubleQuotes back := by
    rw [doubleQuotes_append]
    rfl
  rw [split]
  simp only [List.length_append, List.length_cons]
  omega

-----------------------------------------------------------------------------------------
-- What is written for a stored name
-----------------------------------------------------------------------------------------

variable {tablePrefix own : List Char}

/-- A function call still ends in its parenthesis behind a prefix. -/
theorem getLast?_trimEnd_call (tablePrefix : List Char) (call : isExpression own)
    : (Text.trimEnd (tablePrefix ++ own)).getLast? = some ')' := by
  have last : (Text.trimEnd own).getLast? = some ')' := by simpa [isExpression] using call
  have present : Text.trimEnd own ≠ [] := by
    intro none
    simp [none] at last
  rw [Text.trimEnd_append present, List.getLast?_append, last]
  rfl

theorem trimEnd_call_ne_quoted (call : isExpression own) (name : List Char)
    : Text.trimEnd (tablePrefix ++ own) ≠ quoted name := by
  intro same
  have ends := getLast?_trimEnd_call tablePrefix call
  rw [same, getLast?_quoted] at ends
  simp at ends

/-- An alias stands apart from what is before it by a word, and in a quoted name by a blank. -/
theorem withAlias_ne_quoted {base given : List Char} (split : splitAlias? own = some (base, given))
    (written : List Char)
    : withAlias written given ≠ quoted (tablePrefix ++ own) := by
  intro same
  rcases segment_cases given with ⟨-, shape⟩ | ⟨-, shape⟩
  · have ends := getLast?_quoted (tablePrefix ++ own)
    rw [← same, withAlias, shape, List.getLast?_append] at ends
    simp at ends
  · obtain ⟨front, blank, rfl, separates⟩ := splitAlias?_eq_some split
    have solid : blank ≠ '"' := by
      rintro rfl
      exact absurd separates (by decide)
    have inner : doubleQuotes (tablePrefix ++ (front ++ blank :: given))
        = doubleQuotes (tablePrefix ++ front) ++ blank :: doubleQuotes given := by
      rw [← List.append_assoc, doubleQuotes_append (tablePrefix ++ front)]
      simp [doubleQuotes, solid]
    rw [withAlias, shape, quoted, quoted, inner] at same
    have before : written ++ " as ".toList ++ ['"'] ++ (doubleQuotes given ++ ['"'])
        = '"' :: doubleQuotes (tablePrefix ++ front) ++ [blank] ++ (doubleQuotes given ++ ['"']) := by
      simpa using same
    have ends := congrArg List.getLast? (List.append_cancel_right before)
    simp only [List.getLast?_concat, Option.some.injEq] at ends
    exact solid ends.symm

/-- A qualified name is longer than a quoted one, or starts otherwise. -/
theorem qualified_ne_quoted {database name : List Char} (single : splitAlias? database = none)
    : column database ++ '.' :: segment (tablePrefix ++ name)
      ≠ quoted (tablePrefix ++ (database ++ '.' :: name)) := by
  intro same
  rcases segment_cases (tablePrefix ++ name) with ⟨-, shape⟩ | ⟨-, shape⟩
  · have ends := getLast?_quoted (tablePrefix ++ (database ++ '.' :: name))
    rw [← same, shape, List.getLast?_append] at ends
    simp at ends
  · rw [shape] at same
    have first : (column database ++ ['.']).head? = some '"' := by
      have start := congrArg List.head? same
      rw [List.append_cons, List.head?_append] at start
      simpa [quoted] using start
    have lengths : (column database).length = (doubleQuotes database).length := by
      have count := congrArg List.length same
      have dot : doubleQuotes ('.' :: name) = '.' :: doubleQuotes name := rfl
      simp only [quoted, doubleQuotes_append, dot, List.length_append, List.length_cons] at count
      omega
    revert first lengths
    fun_cases column database with
    | case1 call =>
      intro first lengths
      cases database with
      | nil => cases call
      | cons c rest =>
        obtain rfl : c = '"' := by simpa using first
        exact absurd lengths (Nat.ne_of_lt (length_lt_doubleQuotes (by simp)))
    | case2 _ base given found => simp [found] at single
    | case3 =>
      intro first lengths
      rcases dotted_cases database with star | longer
      · rw [List.head?_append, star] at first
        simp at first
      · omega

/-- A reference that is no function call ends in a quote or in a star. -/
theorem getLast?_table (tablePrefix : List Char) (call : isExpression own = false)
    : (table tablePrefix own).getLast? = some '"' ∨ (table tablePrefix own).getLast? = some '*' := by
  have ends (written part : List Char)
      : (written ++ segment part).getLast? = some '"'
        ∨ (written ++ segment part).getLast? = some '*' := by
    rcases segment_cases part with ⟨-, shape⟩ | ⟨-, shape⟩ <;> rw [shape]
    · exact .inr (by simp)
    · exact .inl (by simp [List.getLast?_append, getLast?_quoted])
  fun_cases table tablePrefix own with
  | case1 expression => simp [call] at expression
  | case2 _ base given => exact ends _ given
  | case3 _ _ database name =>
    rw [List.append_cons]
    exact ends _ (tablePrefix ++ name)
  | case4 => exact ends [] (tablePrefix ++ own)

theorem trimEnd_table (call : isExpression own = false)
    : Text.trimEnd (table tablePrefix own) = table tablePrefix own := by
  rcases getLast?_table tablePrefix call with last | last
  · exact Text.trimEnd_of_getLast? last (by decide)
  · exact Text.trimEnd_of_getLast? last (by decide)

/-- No reference is blank. -/
theorem trimEnd_table_ne_nil (tablePrefix own : List Char)
    : Text.trimEnd (table tablePrefix own) ≠ [] := by
  intro none
  cases call : isExpression own with
  | true =>
    rw [table, if_pos call] at none
    have last := getLast?_trimEnd_call tablePrefix call
    simp [none] at last
  | false =>
    rw [trimEnd_table call] at none
    rcases getLast?_table tablePrefix call with last | last <;> simp [none] at last

/-- What is written for the rest of a stored name, blanks at its end apart, is the stored name in quotes
exactly if it was one part.
-/
theorem trimEnd_table_eq_quoted
    : Text.trimEnd (table tablePrefix own) = quoted (tablePrefix ++ own)
      ↔ IsRestored tablePrefix own := by
  cases call : isExpression own with
  | true =>
    rw [table, if_pos call]
    exact iff_of_false (trimEnd_call_ne_quoted call _) fun h => by simp [h.call] at call
  | false =>
    rw [trimEnd_table call]
    fun_cases table tablePrefix own with
    | case1 expression => simp [call] at expression
    | case2 _ base given found =>
      exact iff_of_false (withAlias_ne_quoted found _) fun h => by simp [h.single] at found
    | case3 _ single database name found =>
      have whole := (Text.cutLast?_eq_some_iff.1 found).1
      refine iff_of_false ?_ fun h => h.dot (by simp [whole])
      rw [whole]
      exact qualified_ne_quoted (splitAlias?_of_append (whole ▸ single))
    | case4 _ single found =>
      rcases segment_cases (tablePrefix ++ own) with ⟨star, shape⟩ | ⟨star, shape⟩
      · refine iff_of_false ?_ fun h => h.star star
        rw [shape, star]
        decide
      · exact iff_of_true shape ⟨call, single, Text.cutLast?_eq_none_iff.1 found, star⟩

end ColumnStore.Identifier
