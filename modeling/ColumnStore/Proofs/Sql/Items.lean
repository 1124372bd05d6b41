import ColumnStore.Proofs.Identifier.Restoring
import ColumnStore.Proofs.Sql.Nesting

/-! A list in parentheses is cut at its commas, and the name at the start of an item is read. Commas,
parentheses and blanks in quotes or in brackets do not count, so words between blanks stay in one item.
-/

namespace ColumnStore.Lexical

open State
open Identifier (segment segment_cases doubleQuotes dotted)

/-- A list up to the parenthesis that closes it: its first item, the others, and what follows. -/
structure ListCut where
  first : List Char
  others : List (List Char)
  rest : List Char
deriving DecidableEq

namespace ListCut

def items (cut : ListCut) : List (List Char) :=
  cut.first :: cut.others

/-- Puts characters in front of the first item. -/
def prepend (front : List Char) (cut : ListCut) : ListCut :=
  { cut with first := front ++ cut.first }

theorem prepend_prepend (a b : List Char) (cut : ListCut)
    : (cut.prepend b).prepend a = cut.prepend (a ++ b) := by
  simp [prepend]

end ListCut

/-- Cuts a list at the commas that count, up to the parenthesis that closes it. -/
def cutList? : Nesting → List Char → Option ListCut
  | _, [] => none
  | n, c :: rest =>
    if n.isTop ∧ c = ')' then some ⟨[], [], rest⟩
    else if n.isTop ∧ c = ',' then
      (cutList? ⟨code, 0⟩ rest).map fun cut => ⟨[], cut.items, cut.rest⟩
    else (cutList? ⟨n.state.step c, n.depthAfter c⟩ rest).map (·.prepend [c])

/-- The name at the start of a text, up to a separator in code. A quote starts or ends a quotation, unless
it is doubled in one, and every other character stands for itself.
-/
def readName : State → List Char → List Char
  | _, [] => []
  | s, c :: rest =>
    if s.inCode ∧ isSeparator c then []
    else if c = '"' ∧ s ≠ closing '"' then readName (s.step c) rest
    else c :: readName (s.step c) rest

-----------------------------------------------------------------------------------------
-- Words and items
-----------------------------------------------------------------------------------------

/-- A text can stand between blanks: read from code, it ends where a blank leads back to code, and no
separator in it counts.
-/
def IsWord (cs : List Char) : Prop :=
  ∃ s : State, s.inCode ∧ s.step ' ' = code ∧ Nesting.followAll? ⟨code, 0⟩ cs = some ⟨s, 0⟩

/-- Words with blanks between them. -/
inductive IsItem : List Char → Prop where
  | word {cs : List Char} (word : IsWord cs) : IsItem cs
  | words {cs rest : List Char} (word : IsWord cs) (more : IsItem rest) : IsItem (cs ++ ' ' :: rest)

theorem IsPart.isWord {cs : List Char} (part : IsPart 0 cs)
    : IsWord cs := by
  obtain ⟨s, ended, read⟩ := part
  exact ⟨s, ended.inCode, ended.step (by decide), read⟩

/-- What is passed over is part of the first item, by list induction. -/
theorem cutList?_of_followAll? {n m : Nesting} {cs : List Char} (read : n.followAll? cs = some m)
    (rest : List Char)
    : cutList? n (cs ++ rest) = (cutList? m rest).map (·.prepend cs) := by
  induction cs generalizing n with
  | nil =>
    cases read
    rw [List.nil_append]
    cases cutList? m rest <;> rfl
  | cons c cs ih =>
    obtain ⟨next, here, later⟩ := Option.bind_eq_some_iff.1 read
    rw [Nesting.follow?] at here
    split at here
    · cases here
    · rename_i within
      cases here
      have close : ¬ (n.isTop ∧ c = ')') := by
        rintro ⟨top, rfl⟩
        exact within ⟨top, rfl⟩
      have comma : ¬ (n.isTop ∧ c = ',') := by
        rintro ⟨top, rfl⟩
        exact within ⟨top, rfl⟩
      rw [List.cons_append, cutList?, if_neg close, if_neg comma, ih later, Option.map_map]
      simp [Function.comp_def, ListCut.prepend_prepend]

theorem cutList?_blank {s : State} (inCode : s.inCode) (back : s.step ' ' = code) (rest : List Char)
    : cutList? ⟨s, 0⟩ (' ' :: rest) = (cutList? ⟨code, 0⟩ rest).map (·.prepend [' ']) := by
  simp [cutList?, back, Nesting.depthAfter, inCode, isOpening, isClosing]

/-- An item is passed over as a whole, by induction on its words. -/
theorem IsItem.exists_cut {item : List Char} (h : IsItem item)
    : ∃ s : State, s.inCode
        ∧ ∀ rest, cutList? ⟨code, 0⟩ (item ++ rest) = (cutList? ⟨s, 0⟩ rest).map (·.prepend item) := by
  induction h with
  | word word =>
    obtain ⟨s, inCode, -, read⟩ := word
    exact ⟨s, inCode, cutList?_of_followAll? read⟩
  | @words cs rest word _ ih =>
    obtain ⟨s, inCode, back, read⟩ := word
    obtain ⟨t, tInCode, cut⟩ := ih
    refine ⟨t, tInCode, ?_⟩
    intro more
    rw [List.append_assoc, cutList?_of_followAll? read, List.cons_append, cutList?_blank inCode back,
      cut more, Option.map_map, Option.map_map]
    simp [Function.comp_def, ListCut.prepend_prepend]

/-- Items with a comma before each but the first are cut as they are, each behind its blank. By list
induction.
-/
theorem cutList?_items {first : List Char} {others : List (List Char)} (item : IsItem first)
    (items : ∀ cs ∈ others, IsItem cs) (rest : List Char)
    : cutList? ⟨code, 0⟩ (first ++ (others.flatMap fun cs => [',', ' '] ++ cs) ++ ')' :: rest)
      = some ⟨first, others.map (' ' :: ·), rest⟩ := by
  induction others generalizing first with
  | nil =>
    obtain ⟨s, inCode, cut⟩ := item.exists_cut
    rw [List.flatMap_nil, List.append_nil, cut]
    simp [cutList?, Nesting.isTop, inCode, ListCut.prepend]
  | cons next more ih =>
    obtain ⟨s, inCode, cut⟩ := item.exists_cut
    obtain ⟨here, others⟩ := List.forall_mem_cons.1 items
    have later := ih here others
    have comma (cs : List Char) : cutList? ⟨s, 0⟩ (',' :: cs)
        = (cutList? ⟨code, 0⟩ cs).map fun cut => ⟨[], cut.items, cut.rest⟩ := by
      simp [cutList?, Nesting.isTop, inCode]
    rw [List.flatMap_cons, List.append_assoc, cut]
    simp only [List.cons_append, List.nil_append, List.append_assoc] at later ⊢
    rw [comma, cutList?_blank rfl rfl, later]
    simp [ListCut.prepend, ListCut.items]

-----------------------------------------------------------------------------------------
-- Names
-----------------------------------------------------------------------------------------

/-- Between the quotes every character is read as itself, by list induction: a quote is doubled. -/
theorem readName_doubleQuotes {cs : List Char} (backslash : '\\' ∉ cs) (rest : List Char)
    : readName (quoted '"') (doubleQuotes cs ++ '"' :: rest) = cs ++ readName (closing '"') rest := by
  induction cs with
  | nil => rfl
  | cons c cs ih =>
    simp only [List.mem_cons, not_or] at backslash
    have inside := ih backslash.2
    by_cases quote : c = '"'
    · subst quote
      change '"' :: readName (quoted '"') (doubleQuotes cs ++ '"' :: rest) = _
      rw [inside]
      rfl
    · have split : doubleQuotes (c :: cs) ++ '"' :: rest = c :: (doubleQuotes cs ++ '"' :: rest) := by
        simp [doubleQuotes, quote]
      have stays : (quoted '"').step c = quoted '"' := by
        simp [State.step, Ne.symm backslash.1, quote]
      rw [split, readName, stays, inside]
      simp [inCode, quote]

/-- Behind a quotation, only another quote would be read otherwise than in code. -/
theorem readName_closing {rest : List Char} (apart : rest.head? ≠ some '"')
    : readName (closing '"') rest = readName code rest := by
  cases rest with
  | nil => rfl
  | cons c rest =>
    have other : c ≠ '"' := by simpa using apart
    simp [readName, inCode, other, step_closing other]

theorem readName_segment {cs : List Char} (backslash : '\\' ∉ cs) {rest : List Char}
    (apart : rest.head? ≠ some '"')
    : readName code (segment cs ++ rest) = cs ++ readName code rest := by
  rcases segment_cases cs with ⟨rfl, shape⟩ | ⟨-, shape⟩
  · rw [shape]
    rfl
  · rw [shape, Identifier.quoted, List.cons_append, List.cons_append, List.append_assoc]
    change readName (quoted '"') (doubleQuotes cs ++ '"' :: rest) = _
    rw [readName_doubleQuotes backslash, readName_closing apart]

/-- Segments with dots between them are read as they are, by list induction. -/
theorem readName_segments {rest : List Char} (apart : rest.head? ≠ some '"')
    : ∀ parts : List (List Char),
        (∀ cs ∈ parts, '\\' ∉ cs)
        → readName code (['.'].intercalate (parts.map segment) ++ rest)
          = ['.'].intercalate parts ++ readName code rest
  | [], _ => rfl
  | [cs], each => by simpa using readName_segment (each cs (by simp)) apart
  | cs :: next :: more, each => by
    obtain ⟨here, others⟩ := List.forall_mem_cons.1 each
    have later := readName_segments apart (next :: more) others
    have dot (cs : List Char) : readName code ('.' :: cs) = '.' :: readName code cs := rfl
    simp only [List.map_cons, List.intercalate_cons_cons, List.append_assoc, List.cons_append,
      List.nil_append] at later ⊢
    rw [readName_segment here (by simp), dot, later]

/-- A name without a backslash is read off its text. -/
theorem readName_dotted {cs : List Char} (backslash : '\\' ∉ cs) {rest : List Char}
    (apart : StartsApart rest)
    : readName code (dotted cs ++ rest) = cs := by
  obtain ⟨c, rest, rfl, separates⟩ := apart
  have other : c ≠ '"' := by
    rintro rfl
    cases separates
  have inside (part : List Char) (member : part ∈ cs.splitOn '.') : '\\' ∉ part :=
    fun found => backslash (Text.subset_of_mem_splitOn member found)
  rw [dotted, readName_segments (by simpa using other) _ inside, List.intercalate_splitOn, readName,
    if_pos ⟨rfl, separates⟩, List.append_nil]

/-- Between the quotes nothing counts, by list induction. -/
theorem followAll?_doubleQuotes {cs : List Char} (backslash : '\\' ∉ cs)
    : Nesting.followAll? ⟨quoted '"', 0⟩ (doubleQuotes cs) = some ⟨quoted '"', 0⟩ := by
  induction cs with
  | nil => rfl
  | cons c cs ih =>
    simp only [List.mem_cons, not_or] at backslash
    have here : Nesting.followAll? ⟨quoted '"', 0⟩ (if c = '"' then ['"', '"'] else [c])
        = some ⟨quoted '"', 0⟩ := by
      split
      · rfl
      · rename_i other
        rw [Nesting.followAll?_cons, follow?_outside rfl, Option.bind_some, State.step,
          if_neg (Ne.symm backslash.1), if_neg other]
        rfl
    rw [doubleQuotes, List.flatMap_cons, Nesting.followAll?_append, here]
    exact ih backslash.2

/-- Where the text of a segment can end. -/
def State.EndsSegment (s : State) : Prop :=
  s = code ∨ s = closing '"'

theorem followAll?_segment {cs : List Char} (backslash : '\\' ∉ cs)
    : ∃ s : State, s.EndsSegment ∧ Nesting.followAll? ⟨code, 0⟩ (segment cs) = some ⟨s, 0⟩ := by
  rcases segment_cases cs with ⟨rfl, shape⟩ | ⟨-, shape⟩
  · exact ⟨code, .inl rfl, shape ▸ rfl⟩
  · refine ⟨closing '"', .inr rfl, ?_⟩
    rw [shape, Identifier.quoted, List.cons_append]
    change Nesting.followAll? ⟨quoted '"', 0⟩ (doubleQuotes cs ++ ['"']) = _
    rw [Nesting.followAll?_append, followAll?_doubleQuotes backslash]
    rfl

/-- Segments with dots between them end as one does, by list induction. -/
theorem followAll?_segments
    : ∀ parts : List (List Char),
        (∀ cs ∈ parts, '\\' ∉ cs)
        → ∃ s : State, s.EndsSegment
            ∧ Nesting.followAll? ⟨code, 0⟩ (['.'].intercalate (parts.map segment)) = some ⟨s, 0⟩
  | [], _ => ⟨code, .inl rfl, rfl⟩
  | [cs], each => by simpa using followAll?_segment (each cs (by simp))
  | cs :: next :: more, each => by
    obtain ⟨here, others⟩ := List.forall_mem_cons.1 each
    obtain ⟨s, ends, read⟩ := followAll?_segment here
    obtain ⟨t, tEnds, later⟩ := followAll?_segments (next :: more) others
    have dot : Nesting.followAll? ⟨s, 0⟩ ['.'] = some ⟨code, 0⟩ := by
      rcases ends with rfl | rfl <;> rfl
    refine ⟨t, tEnds, ?_⟩
    rw [List.map_cons, List.map_cons, List.intercalate_cons_cons, Nesting.followAll?_append,
      Nesting.followAll?_append, read, Option.bind_some, dot, Option.bind_some]
    exact later

/-- The text of a name is one word. -/
theorem isWord_dotted {cs : List Char} (backslash : '\\' ∉ cs)
    : IsWord (dotted cs) := by
  have inside (part : List Char) (member : part ∈ cs.splitOn '.') : '\\' ∉ part :=
    fun found => backslash (Text.subset_of_mem_splitOn member found)
  obtain ⟨s, ends, read⟩ := followAll?_segments (cs.splitOn '.') inside
  refine ⟨s, ?_, ?_, read⟩
  · rcases ends with rfl | rfl <;> rfl
  · rcases ends with rfl | rfl <;> rfl

end ColumnStore.Lexical
