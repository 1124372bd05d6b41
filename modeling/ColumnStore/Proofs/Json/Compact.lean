import ColumnStore.Json.Writer
import ColumnStore.Proofs.Json.Decimal
import ColumnStore.Proofs.Json.Texts
import ColumnStore.Proofs.Text.Trimming

/-! The compact text of a value is one of its texts, so it is read back as the value, unless a double or
a repeated name is in it. It is one line, whatever the strings in the value hold.
-/

namespace ColumnStore

/-- A name that is not present is written at the end, by list induction. -/
theorem Keyed.set_of_notMem {α : Type} {key : String} (value : α) {pairs : List (String × α)}
    (absent : key ∉ pairs.map (·.1))
    : set key value pairs = pairs ++ [(key, value)] := by
  induction pairs with
  | nil => rfl
  | cons pair rest ih =>
    obtain ⟨different, later⟩ : key ≠ pair.1 ∧ key ∉ rest.map (·.1) := by simpa using absent
    simp [set, Ne.symm different, ih later]

namespace Json

/-- Values that their texts keep as they are, nested at most so deep: integers have 64 bits, no object
has a name twice, and there are no doubles.
-/
inductive IsExact : Nat → Json → Prop
  | null {depth : Nat} : IsExact depth .null
  | bool {depth : Nat} (b : Bool) : IsExact depth (.bool b)
  | integer {depth : Nat} {n : Int} (above : Int64.minValue.toInt ≤ n) (below : n < UInt64.size)
    : IsExact depth (.integer n)
  | string {depth : Nat} (s : String) : IsExact depth (.string s)
  | array {depth : Nat} {items : List Json} (each : ∀ v ∈ items, IsExact depth v)
    : IsExact (depth + 1) (.array items)
  | object {depth : Nat} {members : List (String × Json)} (distinct : (members.map (·.1)).Nodup)
      (each : ∀ m ∈ members, IsExact depth m.2)
    : IsExact (depth + 1) (.object members)

/-- Members with names of their own are collected behind those that came before, by list induction. -/
theorem foldl_set_of_nodup (before after : List (String × Json))
    (distinct : ((before ++ after).map (·.1)).Nodup)
    : after.foldl (fun object (name, v) => Keyed.set name v object) before = before ++ after := by
  induction after generalizing before with
  | nil => simp
  | cons m rest ih =>
    have absent : m.1 ∉ before.map (·.1) := by
      rw [List.map_append, List.map_cons] at distinct
      exact fun member => (List.nodup_append.1 distinct).2.2 m.1 member m.1 (by simp) rfl
    rw [List.foldl_cons]
    change rest.foldl _ (Keyed.set m.1 m.2 before) = _
    rw [Keyed.set_of_notMem m.2 absent, ih _ (by simpa using distinct)]
    simp

/-- Members with distinct names are collected as they are. -/
theorem collect_of_nodup {members : List (String × Json)} (distinct : (members.map (·.1)).Nodup)
    : collect members = members :=
  foldl_set_of_nodup [] members distinct

-----------------------------------------------------------------------------------------
-- Strings
-----------------------------------------------------------------------------------------

/-- A control character is written with its number, in two digits after two zeros. -/
theorem controlEscape_eq {c : Char} (control : c.toNat < 0x20)
    : ∃ a b, controlEscape c = ['\\', 'u', '0', '0', a, b] ∧ hex4? '0' '0' a b = some c.toNat
      ∧ a ≠ '\n' ∧ b ≠ '\n' := by
  have each : ∀ n < 0x20,
      List.replicate (2 - (Nat.toDigits 16 n).length) '0' ++ Nat.toDigits 16 n
          = [Nat.digitChar (n / 16), Nat.digitChar (n % 16)]
        ∧ hex4? '0' '0' (Nat.digitChar (n / 16)) (Nat.digitChar (n % 16)) = some n
        ∧ Nat.digitChar (n / 16) ≠ '\n' ∧ Nat.digitChar (n % 16) ≠ '\n' := by
    decide
  obtain ⟨digits, rest⟩ := each c.toNat control
  exact ⟨_, _, by simp [controlEscape, digits], rest⟩

/-- What stands for a character in a string is read as the character. -/
theorem StringText.cons_escapeChar {s cs : List Char} (rest : StringText s cs) (c : Char)
    : StringText (c :: s) (escapeChar c ++ cs) := by
  unfold escapeChar
  split
  case h_8 =>
    split
    · rename_i control
      obtain ⟨a, b, written, number, -⟩ := controlEscape_eq control
      have text : StringText (Char.ofNat c.toNat :: s) _ :=
        .unit number (by simp [isHighSurrogate]; omega) (by simp [isLowSurrogate]; omega) rest
      rw [written]
      rwa [Char.ofNat_toNat] at text
    · rename_i visible
      refine .plain ⟨by omega, ?_, ?_⟩ rest <;> assumption
  -- The others have an escape of one letter.
  all_goals exact .escape rfl rest

/-- What is written for a text in a string is read as the text, by list induction. -/
theorem stringText_escaped (cs : List Char)
    : StringText cs (cs.flatMap escapeChar) := by
  induction cs with
  | nil => exact .nil
  | cons c rest ih => exact .cons_escapeChar ih c

theorem newline_notMem_escapeChar (c : Char)
    : '\n' ∉ escapeChar c := by
  unfold escapeChar
  split
  case h_8 newline _ _ =>
    split
    · rename_i control
      obtain ⟨a, b, written, -, first, second⟩ := controlEscape_eq control
      simp [written, first.symm, second.symm]
    · simpa using Ne.symm newline
  all_goals simp

theorem toList_quoted (s : String)
    : (quoted s).toList = '"' :: s.toList.flatMap escapeChar ++ ['"'] := by
  rw [quoted, String.toList_ofList]

theorem newline_notMem_quoted (s : String)
    : '\n' ∉ (quoted s).toList := by
  simp [toList_quoted, newline_notMem_escapeChar]

-----------------------------------------------------------------------------------------
-- Integers
-----------------------------------------------------------------------------------------

/-- What is written for an integer of 64 bits is a text of it. -/
theorem scalarText_toString {n : Int} (above : Int64.minValue.toInt ≤ n) (below : n < UInt64.size)
    : ScalarText (.integer n) (toString n).toList := by
  cases n with
  | ofNat n =>
    rw [toList_toString_ofNat]
    exact scalarText_toDigits (Int.ofNat_lt.1 below)
  | negSucc n =>
    rw [toList_toString_negSucc]
    exact scalarText_negSucc above

theorem newline_notMem_toString (n : Int)
    : '\n' ∉ (toString n).toList := by
  have digits (n : Nat) : '\n' ∉ Nat.toDigits 10 n :=
    fun member => absurd ((isDigits_toDigits n).digits '\n' member) (by decide)
  cases n with
  | ofNat n =>
    rw [toList_toString_ofNat]
    exact digits n
  | negSucc n =>
    rw [toList_toString_negSucc]
    simp [digits]

-----------------------------------------------------------------------------------------
-- Values
-----------------------------------------------------------------------------------------

theorem compactItems_eq (items : List Json)
    : compactItems items = items.map compact := by
  induction items with
  | nil => rfl
  | cons v rest ih => rw [compactItems, ih, List.map_cons]

theorem compactMembers_eq (members : List (String × Json))
    : compactMembers members = members.map fun m => member ":" m.1 m.2.compact := by
  induction members with
  | nil => rfl
  | cons m rest ih => rw [compactMembers, ih, List.map_cons]

/-- The text of an array has the texts of its items between brackets. -/
theorem toList_compact_array (items : List Json)
    : (array items).compact.toList
      = '[' :: [','].intercalate (items.map fun v => v.compact.toList) ++ [']'] := by
  simp [compact, compactItems_eq, String.toList_intercalate, Function.comp_def]

/-- The text of an object has the texts of its members between braces. -/
theorem toList_compact_object (members : List (String × Json))
    : (object members).compact.toList
      = '{' :: [','].intercalate (members.map fun m => (member ":" m.1 m.2.compact).toList)
        ++ ['}'] := by
  simp [compact, compactMembers_eq, String.toList_intercalate, Function.comp_def]

/-- Texts with commas between them are a text of the list, by induction on its elements. -/
theorem listText_intercalate {α : Type} {Element : α → List Char → Prop} {items : List α}
    {text : α → List Char} (each : ∀ a ∈ items, Element a (text a))
    : ListText Element items ([','].intercalate (items.map text)) := by
  have filled (first : α) (rest : List α) (each : ∀ a ∈ first :: rest, Element a (text a))
      : ElementsText Element (first :: rest) ([','].intercalate ((first :: rest).map text)) := by
    induction rest generalizing first with
    | nil => simpa using ElementsText.one (each first (by simp))
    | cons next more ih =>
      have later := ih next fun a member => each a (List.mem_cons_of_mem first member)
      simpa [List.intercalate_cons_cons] using later.cons (each first (by simp))
  cases items with
  | nil => exact .empty nofun
  | cons first rest => exact .filled (filled first rest each)

/-- A value that is nested less deep is one of those that may be nested deeper. -/
theorem IsExact.mono {depth deeper : Nat} {v : Json} (h : IsExact depth v) (le : depth ≤ deeper)
    : IsExact deeper v := by
  induction h generalizing deeper with
  | null => exact .null
  | bool b => exact .bool b
  | integer above below => exact .integer above below
  | string s => exact .string s
  | array _ ih =>
    obtain ⟨deeper, rfl⟩ : ∃ less, deeper = less + 1 := ⟨deeper - 1, by omega⟩
    exact .array fun v member => ih v member (by omega)
  | object distinct _ ih =>
    obtain ⟨deeper, rfl⟩ : ∃ less, deeper = less + 1 := ⟨deeper - 1, by omega⟩
    exact .object distinct fun m member => ih m member (by omega)

/-- The compact text of a value is one of its texts, by induction on the value. -/
theorem IsExact.valueText {depth : Nat} {v : Json} (h : IsExact depth v)
    : ValueText depth v v.compact.toList := by
  induction h with
  | null => exact ScalarText.null.value _
  | bool b =>
    cases b with
    | false => exact ScalarText.no.value _
    | true => exact ScalarText.yes.value _
  | integer above below => exact (scalarText_toString above below).value _
  | string s =>
    have text := ScalarText.string (stringText_escaped s.toList)
    rw [String.ofList_toList] at text
    rw [compact, toList_quoted]
    exact text.value _
  | @array depth items _ ih =>
    exact .inr (.inl ⟨items, _, listText_intercalate ih, rfl, toList_compact_array items⟩)
  | @object depth members distinct _ ih =>
    have each (m : String × Json) (member : m ∈ members)
        : MemberText (ValueText depth) m (Json.member ":" m.1 m.2.compact).toList := by
      have text : MemberText (ValueText depth) (String.ofList m.1.toList, m.2)
          ('"' :: m.1.toList.flatMap escapeChar ++ '"' :: [] ++ ':' :: [] ++ m.2.compact.toList) :=
        .of (stringText_escaped m.1.toList) nofun nofun (ih m member)
      simpa [Json.member, toList_quoted] using text
    refine .inr (.inr ⟨members, _, listText_intercalate each, ?_, toList_compact_object members⟩)
    rw [collect_of_nodup distinct]

/-- The compact text of a value is one line, by induction on the value. -/
theorem IsExact.newline_notMem {depth : Nat} {v : Json} (h : IsExact depth v)
    : '\n' ∉ v.compact.toList := by
  have separated {α : Type} {items : List α} {text : α → List Char}
      (each : ∀ a ∈ items, '\n' ∉ text a)
      : '\n' ∉ [','].intercalate (items.map text) := by
    intro member
    rcases Text.mem_intercalate member with comma | ⟨part, known, inside⟩
    · exact absurd comma (by decide)
    · obtain ⟨a, listed, rfl⟩ := List.mem_map.1 known
      exact each a listed inside
  induction h with
  | null => decide
  | bool b => cases b <;> decide
  | integer => exact newline_notMem_toString _
  | string s => exact newline_notMem_quoted s
  | array _ ih =>
    rw [toList_compact_array]
    simpa using separated ih
  | @object _ members _ _ ih =>
    have each (m : String × Json) (listed : m ∈ members)
        : '\n' ∉ (member ":" m.1 m.2.compact).toList := by
      simpa [member, newline_notMem_quoted] using ih m listed
    rw [toList_compact_object]
    simpa using separated each

end Json

end ColumnStore
