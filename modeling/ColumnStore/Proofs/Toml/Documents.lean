import ColumnStore.Proofs.Json.Compact
import ColumnStore.Proofs.Toml.Strings
import ColumnStore.Toml.Document

/-! A document that is written a line at a time, with bare keys and plain values, is read as these lines.
Where they list tables under one name, the document holds just these tables.
-/

namespace ColumnStore.Toml

-----------------------------------------------------------------------------------------
-- Values
-----------------------------------------------------------------------------------------

/-- The texts of values as settings have them: quoted, in digits, a truth word, or no items. -/
inductive ValueText : Toml → List Char → Prop
  | string (s : String) : ValueText (.string s) (quoteChars s.toList)
  | integer {n : Nat} (fits : n < 2 ^ 63) : ValueText (.integer n) (Nat.toDigits 10 n)
  | bool (b : Bool) : ValueText (.bool b) (toString b).toList
  | empty : ValueText (.array []) "[]".toList

theorem groupedDigits?_of_isDigit {cs : List Char} (present : cs ≠ [])
    (digits : ∀ c ∈ cs, c.isDigit)
    : groupedDigits? Char.isDigit cs = some cs := by
  induction cs with
  | nil => exact absurd rfl present
  | cons c cs ih =>
    obtain ⟨first, others⟩ := List.forall_mem_cons.1 digits
    match cs with
    | [] => rw [groupedDigits?, if_pos first]
    | d :: cs =>
      rw [groupedDigits?, if_pos first, ih (by simp) others]
      · rfl
      · simp
      · intro rest opening
        injection opening with underscore
        subst underscore
        exact absurd (others '_' (by simp)) (by decide)

/-- The digits of a number are read as the integer, if it fits 63 bits. -/
theorem integer?_toDigits {n : Nat} (fits : n < 2 ^ 63)
    : integer? (Nat.toDigits 10 n) = some (.integer n) := by
  obtain ⟨present, digits⟩ := Json.isDigits_toDigits n
  have absent (c : Char) (other : c.isDigit = false) : c ∉ Nat.toDigits 10 n := by
    intro member
    rw [digits c member] at other
    cases other
  have decimal : decimalDigits? (Nat.toDigits 10 n) = some (Nat.toDigits 10 n) := by
    rw [decimalDigits?, groupedDigits?_of_isDigit present digits]
    refine if_neg fun leading => leading.2 ?_
    rw [eq_zero_of_head?_toDigits leading.1]
    rfl
  have unsigned : splitSign (Nat.toDigits 10 n) = (false, Nat.toDigits 10 n) := by
    unfold splitSign
    split
    · rename_i shape
      exact (absent '-' rfl (by simp [shape])).elim
    · rename_i shape
      exact (absent '+' rfl (by simp [shape])).elim
    · rfl
  have least : Int64.minValue.toInt = -9223372036854775808 := by decide
  have most : Int64.maxValue.toInt = 9223372036854775807 := by decide
  unfold integer?
  split
  · rename_i shape
    exact (absent 'x' rfl (by simp [shape])).elim
  · rename_i shape
    exact (absent 'o' rfl (by simp [shape])).elim
  · rename_i shape
    exact (absent 'b' rfl (by simp [shape])).elim
  · simp only [unsigned, decimal, Option.bind_some, digitsValue_toDigits, signed, bounded?,
      Bool.false_eq_true, if_false]
    exact if_pos ⟨by omega, by omega⟩

theorem takeScalar_append {cs : List Char} (scalar : ∀ c ∈ cs, isScalarChar c) (rest : List Char)
    : takeScalar (cs ++ '\n' :: rest) = (cs, '\n' :: rest) := by
  have ended : isScalarChar '\n' = false := by decide
  obtain ⟨front, back⟩ := Text.cut_append_cons scalar ended rest
  simp [takeScalar, front, back]

/-- A scalar is read as a whole up to the line end after it. -/
theorem readValue_scalar {v : Toml} {cs : List Char} (value : scalar? cs = some v)
    (present : cs ≠ []) (scalar : ∀ c ∈ cs, isScalarChar c) (depth : Nat) (rest : List Char)
    : readValue depth (cs ++ '\n' :: rest) = some (v, '\n' :: rest) := by
  obtain ⟨c, tail, rfl⟩ := List.exists_cons_of_ne_nil present
  have first := scalar c (by simp)
  have taken := takeScalar_append scalar rest
  rw [List.cons_append] at taken ⊢
  rw [readValue]
  · rw [List.head?_cons]
    split
    · rename_i quote
      cases quote
      cases first
    · rename_i quote
      cases quote
      cases first
    · simp only [taken, value, Option.map_some]
  · intro more opening
    injection opening with bracket
    subst bracket
    cases first
  · intro more opening
    injection opening with brace
    subst brace
    cases first

theorem readValue_quoteChars (cs : List Char) (depth : Nat) (rest : List Char)
    : readValue depth (quoteChars cs ++ '\n' :: rest)
      = some (.string (String.ofList cs), '\n' :: rest) := by
  have text := readString?_quoteChars cs ('\n' :: rest) (by simp) (by simp)
  obtain ⟨quote, tail, opening, either⟩ := quoteChars_eq_cons cs
  rw [opening, List.cons_append] at text ⊢
  obtain rfl | rfl := either
  all_goals
    rw [readValue]
    · simp only [List.head?_cons, text, Option.map_some]
    · simp
    · simp

/-- A value is read from its text on a line, which ends right after it. -/
theorem readValue_valueText {v : Toml} {w : List Char} (text : ValueText v w) (rest : List Char)
    : readValue maxDepth (w ++ '\n' :: rest) = some (v, '\n' :: rest) := by
  cases text with
  | string s => rw [readValue_quoteChars, String.ofList_toList]
  | @integer n fits =>
    obtain ⟨present, digits⟩ := Json.isDigits_toDigits n
    have noTruth : Nat.toDigits 10 n ≠ "true".toList := fun e =>
      absurd (digits 't' (by simp [e])) (by decide)
    have noLie : Nat.toDigits 10 n ≠ "false".toList := fun e =>
      absurd (digits 'f' (by simp [e])) (by decide)
    refine readValue_scalar ?_ present ?_ maxDepth rest
    · rw [scalar?, if_neg noTruth, if_neg noLie, integer?_toDigits fits]
    · intro c member
      simp [isScalarChar, Char.isAlphanum, digits c member]
  | bool b =>
    refine readValue_scalar ?_ ?_ ?_ maxDepth rest
    · cases b <;> rfl
    · cases b <;> simp [toString]
    · cases b <;> simp [toString, isScalarChar]
  | empty => rfl

theorem isSpace_of_ne {c : Char} (blank : c ≠ ' ') (tab : c ≠ '\t')
    : isSpace c = false := by
  simp [isSpace, blank, tab]

theorem ValueText.eq_cons {v : Toml} {w : List Char} (text : ValueText v w)
    : ∃ c tail, w = c :: tail ∧ isSpace c = false := by
  cases text with
  | string s =>
    obtain ⟨quote, tail, opening, rfl | rfl⟩ := quoteChars_eq_cons s.toList
    · exact ⟨_, tail, opening, rfl⟩
    · exact ⟨_, tail, opening, rfl⟩
  | @integer n fits =>
    obtain ⟨present, digits⟩ := Json.isDigits_toDigits n
    obtain ⟨c, tail, opening⟩ := List.exists_cons_of_ne_nil present
    have digit : c.isDigit := digits c (by simp [opening])
    refine ⟨c, tail, opening, isSpace_of_ne ?_ ?_⟩
    all_goals
      rintro rfl
      cases digit
  | bool b => cases b <;> exact ⟨_, _, rfl, rfl⟩
  | empty => exact ⟨_, _, rfl, rfl⟩

-----------------------------------------------------------------------------------------
-- Lines
-----------------------------------------------------------------------------------------

/-- A name that needs no quotes as a key. -/
structure IsBare (key : String) : Prop where
  present : key.toList ≠ []
  bare : ∀ c ∈ key.toList, isKeyChar c

/-- The texts of lines as they are saved: settings and headers of list elements, both with one name, and
either after an empty line.
-/
inductive LineText : Line → List Char → Prop
  | setting {key : String} {v : Toml} {w : List Char} (bare : IsBare key) (value : ValueText v w)
    : LineText (.entry [] key v) (key.toList ++ ' ' :: '=' :: ' ' :: (w ++ ['\n']))
  | element {key : String} (bare : IsBare key)
    : LineText (.element [key]) ('[' :: '[' :: (key.toList ++ [']', ']', '\n']))
  | apart {line : Line} {w : List Char} (text : LineText line w) : LineText line ('\n' :: w)

/-- A bare name starts with none of the characters that mean something at the start of a key or line. -/
theorem IsBare.eq_cons {key : String} (bare : IsBare key)
    : ∃ c tail, key.toList = c :: tail ∧ isSpace c = false ∧ c ≠ '"' ∧ c ≠ '\'' ∧ c ≠ '['
      ∧ c ≠ '#' ∧ c ≠ '\n' ∧ c ≠ '\r' := by
  obtain ⟨c, tail, opening⟩ := List.exists_cons_of_ne_nil bare.present
  have first : isKeyChar c := bare.bare c (by simp [opening])
  refine ⟨c, tail, opening, isSpace_of_ne ?_ ?_, ?_, ?_, ?_, ?_, ?_, ?_⟩
  all_goals
    rintro rfl
    cases first

/-- A key of one bare name is read up to the first character that cannot belong to it. -/
theorem readKey?_bare {key : String} (bare : IsBare key) {c : Char} (ended : isKeyChar c = false)
    (rest : List Char) (single : ((c :: rest).dropWhile isSpace).head? ≠ some '.') (parts : Nat)
    : readKey? (parts + 1) (key.toList ++ c :: rest) = some (([], key), (c :: rest).dropWhile isSpace) := by
  obtain ⟨front, back⟩ := Text.cut_append_cons bare.bare ended rest
  have part : readKeyPart? ((key.toList ++ c :: rest).dropWhile isSpace) = some (key, c :: rest) := by
    obtain ⟨d, tail, opening, visible, double, single, -⟩ := bare.eq_cons
    have same : (key.toList ++ c :: rest).dropWhile isSpace = key.toList ++ c :: rest := by
      rw [opening, List.cons_append, List.dropWhile_cons_of_neg (ne_true_of_eq_false visible)]
    rw [same, readKeyPart?]
    · simp only [front, back, List.isEmpty_eq_false_iff.2 bare.present, String.ofList_toList]
      rfl
    · simp [opening, double]
    · simp [opening, single]
  rw [readKey?, part]
  simp only [Option.bind_eq_bind, Option.bind_some]
  split
  · rename_i dot
    exact absurd (by rw [dot]; rfl) single
  · rfl

/-- Nothing is passed over at the start of a line that says something. -/
theorem skipTrivia_cons {c : Char} (visible : isSpace c = false)
    (said : c ≠ '#' ∧ c ≠ '\n' ∧ c ≠ '\r') (fuel : Nat) (cs : List Char)
    : skipTrivia fuel (c :: cs) = c :: cs := by
  obtain ⟨comment, newline, return'⟩ := said
  cases fuel with
  | zero => rfl
  | succ fuel =>
    have plain : skipComment ((c :: cs).dropWhile isSpace) = c :: cs := by
      rw [List.dropWhile_cons_of_neg (ne_true_of_eq_false visible), skipComment]
      simpa using comment
    have noEnd : afterNewline? (c :: cs) = none := by
      rw [afterNewline?]
      · simpa using newline
      · simp [return']
    simp only [skipTrivia, plain, noEnd]

theorem readEntry_setting {key : String} (bare : IsBare key) {v : Toml} {w : List Char}
    (value : ValueText v w) (rest : List Char)
    : readEntry (readValue maxDepth) (key.toList ++ ' ' :: '=' :: ' ' :: (w ++ '\n' :: rest))
      = some (([], key, v), '\n' :: rest) := by
  have name := readKey?_bare bare (c := ' ') rfl ('=' :: ' ' :: (w ++ '\n' :: rest))
    (by simp [isSpace]) 78
  have spaced : (' ' :: (w ++ '\n' :: rest)).dropWhile isSpace = w ++ '\n' :: rest := by
    obtain ⟨c, tail, rfl, visible⟩ := value.eq_cons
    exact List.dropWhile_cons_of_neg (ne_true_of_eq_false visible)
  change readKey? maxDepth _ = some (([], key), '=' :: ' ' :: (w ++ '\n' :: rest)) at name
  rw [readEntry, name]
  simp only [Option.bind_eq_bind, Option.bind_some, spaced, readValue_valueText value]
  rfl

theorem readHeader_element {key : String} (bare : IsBare key) (rest : List Char)
    : readHeader ('[' :: (key.toList ++ ']' :: ']' :: rest)) = some (.element [key], rest) := by
  have name := readKey?_bare bare (c := ']') rfl (']' :: rest) (by simp [isSpace]) 78
  change readKey? maxDepth _ = some (([], key), ']' :: ']' :: rest) at name
  simp only [readHeader, name, Option.bind_eq_bind, Option.bind_some]
  rfl

/-- A line is read from its text, up to the line end that its text ends with. By induction on the text:
an empty line before it is passed over.
-/
theorem LineText.readLine {line : Line} {w : List Char} (text : LineText line w) (rest : List Char)
    (fuel : Nat) (room : w.length ≤ fuel)
    : ∃ cs, skipTrivia fuel (w ++ rest) = cs ∧ cs ≠ []
      ∧ Toml.readLine cs = some (line, '\n' :: rest) := by
  induction text generalizing fuel with
  | @setting key v w bare value =>
    obtain ⟨c, tail, opening, visible, -, -, bracket, said⟩ := bare.eq_cons
    have joined : key.toList ++ ' ' :: '=' :: ' ' :: (w ++ ['\n']) ++ rest
        = key.toList ++ ' ' :: '=' :: ' ' :: (w ++ '\n' :: rest) := by
      simp
    refine ⟨_, rfl, ?_⟩
    rw [joined, opening, List.cons_append, skipTrivia_cons visible said]
    refine ⟨by simp, ?_⟩
    have entry := readEntry_setting bare value rest
    rw [opening, List.cons_append] at entry
    rw [Toml.readLine, entry]
    · rfl
    · simpa using bracket
  | @element key bare =>
    refine ⟨'[' :: '[' :: (key.toList ++ [']', ']', '\n']) ++ rest, ?_, by simp, ?_⟩
    · rw [List.cons_append, skipTrivia_cons rfl (by decide)]
    · simpa [Toml.readLine] using readHeader_element bare ('\n' :: rest)
  | @apart line w text ih =>
    obtain ⟨fuel, rfl⟩ : ∃ n, fuel = n + 1 :=
      ⟨fuel - 1, by rw [List.length_cons] at room; omega⟩
    have skipped : skipTrivia (fuel + 1) ('\n' :: w ++ rest) = skipTrivia fuel (w ++ rest) := rfl
    rw [skipped]
    exact ih fuel (by simpa using room)

/-- The texts of lines one after another. -/
inductive LinesText : List Line → List Char → Prop
  | nil : LinesText [] []
  | cons {line : Line} {lines : List Line} {w cs : List Char} (first : LineText line w)
      (others : LinesText lines cs)
    : LinesText (line :: lines) (w ++ cs)

/-- All lines are read from their texts, by induction on them. -/
theorem readLines_linesText {lines : List Line} {cs : List Char} (text : LinesText lines cs)
    {fuel : Nat} (room : lines.length < fuel)
    : readLines fuel cs = some lines := by
  induction text generalizing fuel with
  | nil =>
    obtain ⟨fuel, rfl⟩ : ∃ n, fuel = n + 1 := ⟨fuel - 1, by omega⟩
    rfl
  | @cons line lines w cs first others ih =>
    obtain ⟨fuel, rfl⟩ : ∃ n, fuel = n + 1 := ⟨fuel - 1, by omega⟩
    obtain ⟨said, start, present, read⟩ := first.readLine cs (w ++ cs).length (by simp)
    obtain ⟨d, ds, rfl⟩ := List.exists_cons_of_ne_nil present
    have ended : endLine? ('\n' :: cs) = some cs := rfl
    rw [readLines, start]
    simp only [read, ended, Option.bind_eq_bind, Option.bind_some, ih (Nat.lt_of_succ_lt_succ room)]
    rfl

theorem LinesText.append {front back : List Line} {v w : List Char} (first : LinesText front v)
    (second : LinesText back w)
    : LinesText (front ++ back) (v ++ w) := by
  induction first with
  | nil => exact second
  | cons line _ ih =>
    rw [List.append_assoc]
    exact .cons line ih

/-- An empty line may stand before the lines of a text. -/
theorem LinesText.apart {line : Line} {lines : List Line} {cs : List Char}
    (text : LinesText (line :: lines) cs)
    : LinesText (line :: lines) ('\n' :: cs) := by
  cases text with
  | cons first others => exact .cons (.apart first) others

theorem LineText.eq_cons {line : Line} {w : List Char} (text : LineText line w)
    : ∃ c tail, w = c :: tail ∧ c ≠ '\uFEFF' := by
  cases text with
  | setting bare _ =>
    obtain ⟨c, tail, opening⟩ := List.exists_cons_of_ne_nil bare.present
    refine ⟨c, _, by rw [opening, List.cons_append], ?_⟩
    rintro rfl
    cases bare.bare '\uFEFF' (by simp [opening])
  | element _ | apart _ => exact ⟨_, _, rfl, by decide⟩

theorem LinesText.length_le {lines : List Line} {cs : List Char} (text : LinesText lines cs)
    : lines.length ≤ cs.length := by
  induction text with
  | nil => exact Nat.le_refl _
  | cons first _ ih =>
    obtain ⟨c, tail, rfl, -⟩ := first.eq_cons
    simp only [List.length_cons, List.length_append]
    omega

/-- A document is what its lines amount to. -/
theorem parse?_linesText {lines : List Line} {cs : List Char} (text : LinesText lines cs)
    : parse? (String.ofList cs) = (lines.foldlM Filling.add {}).map (·.root.entries) := by
  have unmarked : dropMark cs = cs := by
    cases text with
    | nil => rfl
    | cons first _ =>
      obtain ⟨c, tail, rfl, mark⟩ := first.eq_cons
      rw [List.cons_append, dropMark]
      simpa using mark
  have read := readLines_linesText text (Nat.lt_succ_of_le text.length_le)
  simp only [parse?, String.toList_ofList, unmarked, read, Option.bind_eq_bind, Option.bind_some]
  cases lines.foldlM Filling.add {} <;> rfl

-----------------------------------------------------------------------------------------
-- Lists of tables
-----------------------------------------------------------------------------------------

/-- The lines of a list of tables under one name. -/
def elementLines (key : String) (elements : List (List (String × Toml))) : List Line :=
  elements.flatMap fun entries => .element [key] :: entries.map fun (k, v) => .entry [] k v

theorem elementLines_cons (key : String) (entries : List (String × Toml))
    (elements : List (List (String × Toml)))
    : elementLines key (entries :: elements)
      = (.element [key] :: entries.map fun (k, v) => .entry [] k v) ++ elementLines key elements :=
  List.flatMap_cons ..

/-- A document that holds a list of tables under one name and nothing else, with the last one open. -/
def listing (key : String) (elements : List (List (String × Toml))) : Filling where
  root := ⟨.header, [(key, .tables (elements.map (.table .header)))]⟩
  openPath := [key]

namespace Filling

variable {key : String} {elements : List (List (String × Toml))} {entries : List (String × Toml)}

theorem add_element_empty (key : String)
    : add {} (.element [key]) = some (listing key [[]]) :=
  rfl

/-- A header adds a table at the end of the list. -/
theorem add_element (key : String) (elements : List (List (String × Toml)))
    : (listing key elements).add (.element [key]) = some (listing key (elements ++ [[]])) := by
  simp [add, listing, Building.openAt, Building.changeAt, Building.openElement, Building.put,
    Keyed.set]

/-- A setting goes to the end of the last table, unless its name is there. -/
theorem add_entry (v : Toml) {k : String} (absent : k ∉ entries.map (·.1))
    : (listing key (elements ++ [entries])).add (.entry [] k v)
      = some (listing key (elements ++ [entries ++ [(k, v)]])) := by
  have missing : entries.lookup k = none := by
    refine List.lookup_eq_none_iff.2 fun entry member => ?_
    simpa using fun same => absent (List.mem_map.2 ⟨entry, member, same.symm⟩)
  simp [add, listing, Building.changeAt, Building.addEntry, Building.put,
    Keyed.set, missing, Keyed.set_of_notMem v absent, Building.toToml]

/-- Settings with distinct names all go to the last table, by list induction. -/
theorem add_entries {after : List (String × Toml)} (distinct : ((entries ++ after).map (·.1)).Nodup)
    : (after.map fun (k, v) => Line.entry [] k v).foldlM add (listing key (elements ++ [entries]))
      = some (listing key (elements ++ [entries ++ after])) := by
  induction after generalizing entries with
  | nil => simp
  | cons entry after ih =>
    obtain ⟨k, v⟩ := entry
    have absent : k ∉ entries.map (·.1) := by
      rw [List.map_append, List.map_cons] at distinct
      exact fun member => (List.nodup_append.1 distinct).2.2 k member k (by simp) rfl
    rw [List.map_cons, List.foldlM_cons, add_entry v absent]
    simp only [Option.bind_eq_bind, Option.bind_some]
    rw [ih (by simpa using distinct), List.append_assoc]
    rfl

/-- The lines of tables add them to the list, by list induction. -/
theorem add_elements {before after : List (List (String × Toml))}
    (distinct : ∀ entries ∈ after, (entries.map (·.1)).Nodup)
    : (elementLines key after).foldlM add (listing key before)
      = some (listing key (before ++ after)) := by
  induction after generalizing before with
  | nil => simp [elementLines]
  | cons entries after ih =>
    obtain ⟨here, others⟩ := List.forall_mem_cons.1 distinct
    have filled : (entries.map fun (k, v) => Line.entry [] k v).foldlM add (listing key (before ++ [[]]))
        = some (listing key (before ++ [entries])) :=
      add_entries here
    rw [elementLines_cons, List.cons_append, List.foldlM_cons, add_element]
    simp only [Option.bind_eq_bind, Option.bind_some]
    rw [List.foldlM_append, filled]
    simp only [Option.bind_eq_bind, Option.bind_some]
    rw [ih others]
    simp

end Filling

/-- A document of the lines of some tables holds just these tables. -/
theorem parse?_elementLines {key : String} {elements : List (List (String × Toml))}
    (present : elements ≠ []) (distinct : ∀ entries ∈ elements, (entries.map (·.1)).Nodup)
    {cs : List Char} (text : LinesText (elementLines key elements) cs)
    : parse? (String.ofList cs) = some [(key, .tables (elements.map (.table .header)))] := by
  obtain ⟨first, others, rfl⟩ := List.exists_cons_of_ne_nil present
  have filled : (elementLines key (first :: others)).foldlM Filling.add {}
      = some (listing key (first :: others)) := by
    have same : (elementLines key (first :: others)).foldlM Filling.add {}
        = (elementLines key (first :: others)).foldlM Filling.add (listing key []) := by
      rw [elementLines_cons, List.cons_append, List.foldlM_cons, List.foldlM_cons,
        Filling.add_element_empty, Filling.add_element key []]
      rfl
    rw [same, Filling.add_elements distinct, List.nil_append]
  rw [parse?_linesText text, filled]
  rfl

end ColumnStore.Toml
