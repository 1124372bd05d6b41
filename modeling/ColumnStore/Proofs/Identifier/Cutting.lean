import ColumnStore.Proofs.Identifier.Restoring

/-! A name is cut at the first separator in it, and nowhere else. What stands before the cut has no separator
any more, so a reference is taken apart at most once.
-/

namespace ColumnStore.Identifier

-----------------------------------------------------------------------------------------
-- Separators in a text
-----------------------------------------------------------------------------------------

/-- Blanks, one at least. -/
structure IsBlanks (cs : List Char) : Prop where
  present : cs ≠ []
  blank : ∀ c ∈ cs, Text.isBlank c

/-- The word `as` in either case between blanks. -/
inductive IsSeparator : List Char → Prop
  | of {before after : List Char} {a s : Char} (leads : IsBlanks before) (first : isLetterA a)
      (second : isLetterS s) (trails : IsBlanks after)
    : IsSeparator (before ++ a :: s :: after)

/-- A place of a text where a separator stands. -/
def SeparatedAt (cs front back : List Char) : Prop :=
  ∃ separator, IsSeparator separator ∧ cs = front ++ separator ++ back

/-- A text without a blank at its start, whether it has any characters or not. -/
def StartsSolid (cs : List Char) : Prop :=
  ∀ c ∈ cs.head?, Text.isBlank c = false

/-- A text without a blank at its end. -/
def EndsSolid (cs : List Char) : Prop :=
  ∀ c ∈ cs.getLast?, Text.isBlank c = false

theorem IsSeparator.cons {blank : Char} (h : Text.isBlank blank) {separator : List Char}
    (separates : IsSeparator separator)
    : IsSeparator (blank :: separator) := by
  obtain ⟨leads, first, second, trails⟩ := separates
  rename_i before after a s
  have longer : IsBlanks (blank :: before) :=
    ⟨List.cons_ne_nil _ _, List.forall_mem_cons.2 ⟨h, leads.blank⟩⟩
  exact .of longer first second trails

theorem IsSeparator.ne_nil {separator : List Char} (h : IsSeparator separator)
    : separator ≠ [] := by
  obtain ⟨leads, first, second, trails⟩ := h
  simp

theorem startsSolid_dropWhile (cs : List Char)
    : StartsSolid (cs.dropWhile Text.isBlank) := by
  intro c first
  cases shape : cs.dropWhile Text.isBlank with
  | nil => simp [shape] at first
  | cons d rest =>
    obtain rfl : d = c := by simpa [shape] using first
    have solid := List.head_dropWhile_not Text.isBlank (l := cs) (by simp [shape])
    simpa [shape] using solid

theorem StartsSolid.dropWhile_eq {cs : List Char} (h : StartsSolid cs)
    : cs.dropWhile Text.isBlank = cs := by
  cases cs with
  | nil => rfl
  | cons c rest => exact List.dropWhile_cons_of_neg (by simp [h c (by simp)])

/-- What is read after a separator is what follows it, without the blanks that belong to it. -/
theorem afterSeparator?_separated {separator : List Char} (h : IsSeparator separator)
    (back : List Char)
    : afterSeparator? (separator ++ back) = some (back.dropWhile Text.isBlank) := by
  obtain ⟨leads, first, second, trails⟩ := h
  rename_i before after a s
  obtain ⟨c, blanks, rfl⟩ := List.exists_cons_of_ne_nil leads.present
  obtain ⟨b, more, rfl⟩ := List.exists_cons_of_ne_nil trails.present
  have blank := List.forall_mem_cons.1 leads.blank
  have after := List.forall_mem_cons.1 trails.blank
  refine afterSeparator?_eq_some_iff.2 ⟨c, blanks, a, s, b, more ++ back, by simp, ?_, ?_⟩
  · exact ⟨blank.1, blank.2, first, second, after.1⟩
  · rw [List.dropWhile_append_of_pos after.2]

theorem afterSeparator?_eq_none_iff {cs : List Char}
    : afterSeparator? cs = none ↔ ∀ back, ¬ SeparatedAt cs [] back := by
  constructor
  · rintro unread back ⟨separator, separates, rfl⟩
    simp [afterSeparator?_separated separates] at unread
  · intro unseparated
    rw [Option.eq_none_iff_forall_ne_some]
    intro given found
    obtain ⟨c, blanks, a, s, b, more, shape, ⟨first, blank, letterA, letterS, last⟩, -⟩ :=
      afterSeparator?_eq_some_iff.1 found
    have leads : IsBlanks (c :: blanks) := ⟨List.cons_ne_nil _ _, List.forall_mem_cons.2 ⟨first, blank⟩⟩
    have trails : IsBlanks [b] := ⟨List.cons_ne_nil _ _, List.forall_mem_singleton.2 last⟩
    exact unseparated more ⟨_, .of leads letterA letterS trails, by simpa using shape⟩

/-- At a separator the text goes on with what has no blank at its start. -/
theorem afterSeparator?_eq_some_iff_separated {cs given : List Char}
    : afterSeparator? cs = some given ↔ SeparatedAt cs [] given ∧ StartsSolid given := by
  constructor
  · intro found
    obtain ⟨c, blanks, a, s, b, more, shape, ⟨first, blank, letterA, letterS, last⟩, rfl⟩ :=
      afterSeparator?_eq_some_iff.1 found
    have leads : IsBlanks (c :: blanks) := ⟨List.cons_ne_nil _ _, List.forall_mem_cons.2 ⟨first, blank⟩⟩
    have trails : IsBlanks (b :: more.takeWhile Text.isBlank) :=
      ⟨List.cons_ne_nil _ _, List.forall_mem_cons.2 ⟨last, fun x member => List.mem_takeWhile_imp member⟩⟩
    refine ⟨⟨_, .of leads letterA letterS trails, ?_⟩, startsSolid_dropWhile more⟩
    rw [shape, ← List.takeWhile_append_dropWhile (p := Text.isBlank) (l := more)]
    simp
  · rintro ⟨⟨separator, separates, rfl⟩, solid⟩
    rw [List.nil_append, afterSeparator?_separated separates, solid.dropWhile_eq]

-----------------------------------------------------------------------------------------
-- The first of them
-----------------------------------------------------------------------------------------

/-- A cut of a text at its first separator, which takes in all blanks around its word. -/
structure Cuts (cs base given : List Char) : Prop where
  separated : SeparatedAt cs base given
  solid : StartsSolid given
  first : ∀ front back, SeparatedAt cs front back → base.length ≤ front.length

/-- A separator later in a text stands there too without the first character, unless it is the start. -/
theorem separatedAt_cons_iff {c d : Char} {rest front back : List Char}
    : SeparatedAt (c :: rest) (d :: front) back ↔ c = d ∧ SeparatedAt rest front back := by
  simp only [SeparatedAt, List.cons_append, List.cons.injEq]
  constructor
  · rintro ⟨separator, separates, same, shape⟩
    exact ⟨same, separator, separates, shape⟩
  · rintro ⟨same, separator, separates, shape⟩
    exact ⟨separator, separates, same, shape⟩

/-- Where no separator starts a text, its cuts are those of the text after the first character. -/
theorem cuts_cons_iff {c : Char} {rest base given : List Char}
    (here : ∀ back, ¬ SeparatedAt (c :: rest) [] back)
    : Cuts (c :: rest) base given ↔ ∃ later, base = c :: later ∧ Cuts rest later given := by
  constructor
  · rintro ⟨separated, solid, first⟩
    cases base with
    | nil => exact absurd separated (here given)
    | cons d later =>
      obtain ⟨rfl, behind⟩ := separatedAt_cons_iff.1 separated
      refine ⟨later, rfl, behind, solid, fun front back place => ?_⟩
      simpa using first (c :: front) back (separatedAt_cons_iff.2 ⟨rfl, place⟩)
  · rintro ⟨later, rfl, separated, solid, first⟩
    refine ⟨separatedAt_cons_iff.2 ⟨rfl, separated⟩, solid, fun front back place => ?_⟩
    cases front with
    | nil => exact absurd place (here back)
    | cons d front =>
      simpa using first front back (separatedAt_cons_iff.1 place).2

/-- A name is split at its first separator, by list induction: a separator at the start ends the search,
and without one the first character belongs to the base.
-/
theorem splitAlias?_eq_some_iff {cs base given : List Char}
    : splitAlias? cs = some (base, given) ↔ Cuts cs base given := by
  induction cs generalizing base with
  | nil =>
    constructor
    · intro split
      cases split
    · rintro ⟨⟨separator, separates, shape⟩, -, -⟩
      simp [separates.ne_nil] at shape
  | cons c rest ih =>
    rw [splitAlias?]
    cases found : afterSeparator? (c :: rest) with
    | some behind =>
      obtain ⟨separated, solid⟩ := afterSeparator?_eq_some_iff_separated.1 found
      constructor
      · intro split
        cases split
        exact ⟨separated, solid, fun front back _ => Nat.zero_le _⟩
      · intro cuts
        obtain rfl : base = [] := List.length_eq_zero_iff.1 (Nat.le_zero.1 (cuts.first [] _ separated))
        have again := afterSeparator?_eq_some_iff_separated.2 ⟨cuts.separated, cuts.solid⟩
        rw [found] at again
        rw [Option.some.inj again]
    | none =>
      rw [cuts_cons_iff (afterSeparator?_eq_none_iff.1 found)]
      simp only [Option.map_eq_some_iff, Prod.exists, Prod.mk.injEq]
      constructor
      · rintro ⟨later, behind, split, rfl, rfl⟩
        exact ⟨later, rfl, ih.1 split⟩
      · rintro ⟨later, rfl, cuts⟩
        exact ⟨later, given, ih.2 cuts, rfl, rfl⟩

/-- Only a text without a separator has no cut, by list induction. -/
theorem splitAlias?_eq_none_iff {cs : List Char}
    : splitAlias? cs = none ↔ ∀ front back, ¬ SeparatedAt cs front back := by
  induction cs with
  | nil =>
    refine iff_of_true rfl ?_
    rintro front back ⟨separator, separates, shape⟩
    simp [separates.ne_nil] at shape
  | cons c rest ih =>
    rw [splitAlias?]
    cases found : afterSeparator? (c :: rest) with
    | some behind =>
      refine iff_of_false (by simp) fun none => ?_
      exact none [] behind (afterSeparator?_eq_some_iff_separated.1 found).1
    | none =>
      have here := afterSeparator?_eq_none_iff.1 found
      rw [Option.map_eq_none_iff, ih]
      constructor
      · intro later front back place
        cases front with
        | nil => exact here back place
        | cons d front => exact later front back (separatedAt_cons_iff.1 place).2
      · exact fun none front back place => none (c :: front) back (separatedAt_cons_iff.2 ⟨rfl, place⟩)

/-- A blank before the cut would belong to the separator. -/
theorem Cuts.endsSolid {cs base given : List Char} (h : Cuts cs base given)
    : EndsSolid base := by
  intro c last
  obtain ⟨front, rfl⟩ := List.getLast?_eq_some_iff.1 last
  obtain ⟨separator, separates, shape⟩ := h.separated
  by_contra blank
  have earlier : SeparatedAt cs front given :=
    ⟨c :: separator, separates.cons (by simpa using blank), by simpa using shape⟩
  have := h.first front given earlier
  rw [List.length_append, List.length_singleton] at this
  omega

/-- A separator before the cut would have been the first. -/
theorem Cuts.single {cs base given : List Char} (h : Cuts cs base given)
    : splitAlias? base = none := by
  refine splitAlias?_eq_none_iff.2 ?_
  rintro front back ⟨other, separates, rfl⟩
  obtain ⟨separator, -, shape⟩ := h.separated
  have earlier : SeparatedAt cs front (back ++ separator ++ given) :=
    ⟨other, separates, by rw [shape]; simp⟩
  have := h.first front _ earlier
  have := List.length_pos_iff.2 separates.ne_nil
  simp only [List.length_append] at *
  omega

-----------------------------------------------------------------------------------------
-- References written with a budget
-----------------------------------------------------------------------------------------

section Budget

variable (call : List Char → List Char) (own : List Char → Option (List Char))

/-- A reference that is written with so many calls of the writer on a base. Function calls and names
without an alias need none.
-/
def writtenWithin : Nat → List Char → Option (List Char)
  | calls, cs =>
    if isExpression cs then some (call cs)
    else match splitAlias? cs, calls with
      | none, _ => own cs
      | some _, 0 => none
      | some (base, given), calls + 1 => (writtenWithin calls base).map (withAlias · given)

/-- A writer of references, by what it makes of the three kinds. -/
structure Writes (write : List Char → List Char) : Prop where
  called : ∀ cs, isExpression cs = true → write cs = call cs
  aliased
    : ∀ cs base given, isExpression cs = false → splitAlias? cs = some (base, given) →
        write cs = withAlias (write base) given
  single
    : ∀ cs, isExpression cs = false → splitAlias? cs = none → own cs = some (write cs)

variable {call own} {write : List Char → List Char}

/-- Without an alias the writer does not call itself. -/
theorem Writes.within_zero (h : Writes call own write) {cs : List Char}
    (single : splitAlias? cs = none)
    : writtenWithin call own 0 cs = some (write cs) := by
  unfold writtenWithin
  rw [single]
  cases called : isExpression cs with
  | true => rw [if_pos rfl, h.called cs called]
  | false => exact h.single cs called single

/-- The base of an alias has none itself, so one call is enough for any reference. -/
theorem Writes.within_one (h : Writes call own write) (cs : List Char)
    : writtenWithin call own 1 cs = some (write cs) := by
  unfold writtenWithin
  cases called : isExpression cs with
  | true => rw [if_pos rfl, h.called cs called]
  | false =>
    rw [if_neg Bool.false_ne_true]
    cases split : splitAlias? cs with
    | none => exact h.single cs called split
    | some parts =>
      obtain ⟨base, given⟩ := parts
      have bare := (splitAlias?_eq_some_iff.1 split).single
      change (writtenWithin call own 0 base).map (withAlias · given) = _
      rw [h.within_zero bare, h.aliased cs base given called split]
      rfl

end Budget

/-- A column reference with a budget of calls. -/
def columnWithin : Nat → List Char → Option (List Char) :=
  writtenWithin id fun cs => some (dotted cs)

/-- A table name, whose database is a column reference that is written without a call on a base. -/
def tableNameWithin (tablePrefix cs : List Char) : Option (List Char) :=
  match Text.cutLast? '.' cs with
  | some (database, name) =>
    (columnWithin 0 database).map (· ++ '.' :: segment (tablePrefix ++ name))
  | none => some (segment (tablePrefix ++ cs))

/-- A table reference with a budget of calls. -/
def tableWithin (tablePrefix : List Char) : Nat → List Char → Option (List Char) :=
  writtenWithin (tablePrefix ++ ·) (tableNameWithin tablePrefix)

theorem writes_column
    : Writes id (fun cs => some (dotted cs)) column where
  called := by
    intro cs called
    rw [column, if_pos called]
    rfl
  aliased := by
    intro cs base given called split
    rw [column, if_neg (by simp [called])]
    split
    · rename_i found
      obtain ⟨rfl, rfl⟩ := Prod.mk.inj (Option.some.inj (split.symm.trans found))
      rfl
    · rename_i found
      cases split.symm.trans found
  single := fun cs called single => by rw [IsSegmented.column_eq ⟨called, single⟩]

theorem writes_table (tablePrefix : List Char)
    : Writes (tablePrefix ++ ·) (tableNameWithin tablePrefix) (table tablePrefix) where
  called := by
    intro cs called
    rw [table, if_pos called]
  aliased := by
    intro cs base given called split
    rw [table, if_neg (by simp [called])]
    split
    · rename_i found
      obtain ⟨rfl, rfl⟩ := Prod.mk.inj (Option.some.inj (split.symm.trans found))
      rfl
    · rename_i found
      cases split.symm.trans found
  single := by
    intro cs called single
    rw [table, if_neg (by simp [called])]
    split
    · rename_i found
      cases single.symm.trans found
    · rw [tableNameWithin]
      cases parted : Text.cutLast? '.' cs with
      | none => rfl
      | some parts =>
        obtain ⟨database, name⟩ := parts
        have whole := (Text.cutLast?_eq_some_iff.1 parted).1
        have bare : splitAlias? database = none := splitAlias?_of_append (whole ▸ single)
        change (columnWithin 0 database).map _ = _
        rw [columnWithin, writes_column.within_zero bare]
        rfl

/-- A name is cut at its first separator with all the blanks around the word, and only a name without a
separator is not cut. The base ends in no blank and is not cut again, so a column or table reference
calls its writer at most once on a base, and for a database not at all.
-/
theorem splitAlias?_cuts_once (cs : List Char)
    : (splitAlias? cs = none ↔ ¬ ∃ front back, SeparatedAt cs front back)
      ∧ (∀ base given, splitAlias? cs = some (base, given)
          ↔ Cuts cs base given ∧ EndsSolid base ∧ splitAlias? base = none)
      ∧ columnWithin 1 cs = some (column cs)
      ∧ ∀ tablePrefix, tableWithin tablePrefix 1 cs = some (table tablePrefix cs) := by
  refine ⟨?_, ?_, writes_column.within_one cs, fun tablePrefix => (writes_table tablePrefix).within_one cs⟩
  · rw [splitAlias?_eq_none_iff]
    simp only [not_exists]
  · intro base given
    rw [splitAlias?_eq_some_iff]
    exact ⟨fun cuts => ⟨cuts, cuts.endsSolid, cuts.single⟩, fun parts => parts.1⟩

/-- Of separators that overlap the first one counts, and the long s ends a word as well. -/
example
    : splitAlias? "as as as  a\u017f\tas".toList = some ("as".toList, "as  a\u017f\tas".toList) := by
  decide

end ColumnStore.Identifier
