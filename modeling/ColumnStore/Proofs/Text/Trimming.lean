import Mathlib.Data.List.TakeWhile
import ColumnStore.Text.Trimming

/-! Texts are cut at separators and trimmed at their ends. Neither puts a character where there was
none, and trimming leaves nothing of a text of blanks alone.
-/

namespace ColumnStore.Text

section Pieces

variable {α : Type}

/-- What is put together has all that its parts have, by list induction. -/
theorem subset_intercalate {separator part : List α} {parts : List (List α)} (h : part ∈ parts)
    : part ⊆ separator.intercalate parts := by
  induction parts with
  | nil => simp at h
  | cons first rest ih =>
    cases rest with
    | nil => simp_all
    | cons next more =>
      rw [List.intercalate_cons_cons]
      rcases List.mem_cons.1 h with rfl | later
      · exact List.Subset.trans (List.subset_append_left _ _) (List.subset_append_left _ _)
      · exact List.Subset.trans (ih later) (List.subset_append_right _ _)

/-- What is put together has nothing but what its parts and the separator have, by list induction. -/
theorem mem_intercalate {separator : List α} {parts : List (List α)} {a : α}
    (h : a ∈ separator.intercalate parts)
    : a ∈ separator ∨ ∃ part ∈ parts, a ∈ part := by
  induction parts with
  | nil => simp at h
  | cons first rest ih =>
    cases rest with
    | nil => exact .inr ⟨first, by simp, by simpa using h⟩
    | cons next more =>
      rw [List.intercalate_cons_cons, List.mem_append, List.mem_append] at h
      rcases h with (here | between) | later
      · exact .inr ⟨first, by simp, here⟩
      · exact .inl between
      · exact (ih later).imp id fun ⟨part, known, inside⟩ =>
          ⟨part, List.mem_cons_of_mem first known, inside⟩

/-- What is put together starts with the first part; a separator stands before each other one. -/
theorem intercalate_cons (separator first : List α) (rest : List (List α))
    : separator.intercalate (first :: rest) = first ++ rest.flatMap fun part => separator ++ part := by
  induction rest generalizing first with
  | nil => simp
  | cons next more ih =>
    rw [List.intercalate_cons_cons, ih, List.flatMap_cons, List.append_assoc, List.append_assoc]

/-- A place in two lists, one after the other, is in the first of them or in the second. -/
theorem append_eq_append_cons {one two before after : List α} {a : α}
    (h : one ++ two = before ++ a :: after)
    : (∃ more, one = before ++ a :: more ∧ after = more ++ two)
      ∨ ∃ front, before = one ++ front ∧ two = front ++ a :: after := by
  rcases List.append_eq_append_iff.1 h with ⟨front, rfl, rest⟩ | ⟨back, rfl, rest⟩
  · exact .inr ⟨front, rfl, rest⟩
  · cases back with
    | nil => exact .inr ⟨[], by simp, rest.symm⟩
    | cons b more =>
      obtain ⟨rfl, rfl⟩ := List.cons.inj rest
      exact .inl ⟨more, rfl, rfl⟩

/-- A text is cut at the first character that fails a test. -/
theorem cut_append_cons {p : α → Bool} {front : List α} (each : ∀ a ∈ front, p a) {a : α}
    (ended : p a = false) (back : List α)
    : (front ++ a :: back).takeWhile p = front ∧ (front ++ a :: back).dropWhile p = a :: back := by
  have stops : ¬ p a := by simp [ended]
  rw [List.takeWhile_append_of_pos each, List.takeWhile_cons_of_neg stops, List.append_nil,
    List.dropWhile_append_of_pos each, List.dropWhile_cons_of_neg stops]
  exact ⟨rfl, rfl⟩

/-- The pieces between separators are parts of the text. -/
theorem subset_of_mem_splitOn [BEq α] [LawfulBEq α] {separator : α} {text part : List α}
    (h : part ∈ text.splitOn separator)
    : part ⊆ text := by
  have inside : part ⊆ [separator].intercalate (text.splitOn separator) := subset_intercalate h
  rwa [List.intercalate_splitOn] at inside

end Pieces

-----------------------------------------------------------------------------------------
-- Signs
-----------------------------------------------------------------------------------------

/-- Only a text without a character that meets the test is not cut. -/
theorem cutFirst?_eq_none_iff {test : Char → Bool} {cs : List Char}
    : cutFirst? test cs = none ↔ ∀ c ∈ cs, test c = false := by
  unfold cutFirst?
  split
  · rename_i none_left
    simpa using List.dropWhile_eq_nil_iff.1 none_left
  · rename_i c rest found
    have left : cs.dropWhile (fun c => !test c) ≠ [] := by simp [found]
    simpa [List.dropWhile_eq_nil_iff] using left

/-- Only a text without the sign is not cut at it, by list induction. -/
theorem cutLast?_eq_none_iff {sign : Char} {cs : List Char}
    : cutLast? sign cs = none ↔ sign ∉ cs := by
  induction cs with
  | nil => simp [cutLast?]
  | cons c rest ih =>
    rw [cutLast?]
    cases later : cutLast? sign rest with
    | some parts =>
      have present : sign ∈ rest := by simpa [later] using ih
      simp [present]
    | none =>
      have absent : sign ∉ rest := ih.1 later
      by_cases here : c = sign <;> simp [here, absent, Ne.symm]

/-- A text is cut at its last sign, by list induction. -/
theorem cutLast?_eq_some_iff {sign : Char} {cs before after : List Char}
    : cutLast? sign cs = some (before, after) ↔ cs = before ++ sign :: after ∧ sign ∉ after := by
  constructor
  · intro h
    induction cs generalizing before with
    | nil => cases h
    | cons c rest ih =>
      simp only [cutLast?] at h
      split at h
      · rename_i found
        cases h
        obtain ⟨parted, absent⟩ := ih found
        exact ⟨by rw [parted, List.cons_append], absent⟩
      · rename_i single
        split at h
        · rename_i here
          cases h
          exact ⟨by rw [here, List.nil_append], cutLast?_eq_none_iff.1 single⟩
        · cases h
  · rintro ⟨rfl, absent⟩
    induction before with
    | nil => simp [cutLast?, cutLast?_eq_none_iff.2 absent]
    | cons c rest ih => rw [List.cons_append, cutLast?, ih]

/-- The two sides of the last sign are parts of the text. -/
theorem cutLast?_subset {sign : Char} {cs before after : List Char}
    (h : cutLast? sign cs = some (before, after))
    : before ⊆ cs ∧ after ⊆ cs := by
  obtain ⟨rfl, -⟩ := cutLast?_eq_some_iff.1 h
  exact ⟨List.subset_append_left _ _,
    List.subset_append_of_subset_right _ (List.subset_cons_self _ _)⟩

/-- Trimming leaves nothing of a text of blanks, and something of any other. -/
theorem trim_eq_nil_iff {cs : List Char}
    : trim cs = [] ↔ ∀ c ∈ cs, isBlank c := by
  rw [trim, trimEnd, List.reverse_eq_nil_iff, List.dropWhile_eq_nil_iff]
  constructor
  · intro blank c member
    rw [← List.takeWhile_append_dropWhile (p := isBlank) (l := cs)] at member
    rcases List.mem_append.1 member with front | back
    · exact List.mem_takeWhile_imp front
    · exact blank c (List.mem_reverse.2 back)
  · intro blank c member
    rw [List.dropWhile_eq_nil_iff.2 blank] at member
    nomatch member

/-- Only the end of a text is trimmed at its end, if something is left of that. -/
theorem trimEnd_append {a b : List Char} (left : trimEnd b ≠ [])
    : trimEnd (a ++ b) = a ++ trimEnd b := by
  have some_left : (b.reverse.dropWhile isBlank).isEmpty = false := by
    simpa [trimEnd] using left
  rw [trimEnd, List.reverse_append, List.dropWhile_append, some_left]
  simp [trimEnd]

/-- A text that ends with no blank is not trimmed at its end. -/
theorem trimEnd_of_getLast? {cs : List Char} {b : Char} (last : cs.getLast? = some b)
    (solid : isBlank b = false)
    : trimEnd cs = cs := by
  obtain ⟨init, rfl⟩ := List.getLast?_eq_some_iff.1 last
  simp [trimEnd, solid]

theorem trimBytes_eq_nil {bytes : List UInt8} (blank : ∀ b ∈ bytes, isBlankByte b)
    : trimBytes bytes = [] := by
  rw [trimBytes, List.dropWhile_eq_nil_iff.2 blank]
  rfl

/-- A text that is not all blanks has something left when it is trimmed. -/
theorem isEmpty_trimmed {s : String} {c : Char} (member : c ∈ s.toList) (solid : isBlank c = false)
    : (trimmed s).isEmpty = false := by
  have left : trim s.toList ≠ [] := by
    rw [Ne, trim_eq_nil_iff]
    exact fun blank => absurd (blank c member) (by simp [solid])
  rw [trimmed, ← Bool.not_eq_true, String.isEmpty_iff]
  exact fun none => left (by simpa using congrArg String.toList none)

theorem toList_trimmed (s : String)
    : (trimmed s).toList = trim s.toList :=
  String.toList_ofList

/-- A text that starts with no blank is only trimmed at its end. -/
theorem trim_of_head? {cs : List Char} {a : Char} (first : cs.head? = some a)
    (solid : isBlank a = false)
    : trim cs = trimEnd cs := by
  obtain ⟨rest, rfl⟩ := List.head?_eq_some_iff.1 first
  rw [trim, List.dropWhile_cons_of_neg (by simp [solid])]

/-- A text that starts with no blank starts the same when it is trimmed. -/
theorem head?_trimmed {s : String} {a : Char} (first : s.toList.head? = some a)
    (solid : isBlank a = false)
    : (trimmed s).toList.head? = some a := by
  rw [toList_trimmed, trim_of_head? first solid]
  obtain ⟨rest, shape⟩ := List.head?_eq_some_iff.1 first
  have kept : ((a :: rest).reverse.dropWhile isBlank).getLast? = some a := by
    rw [List.reverse_cons, List.dropWhile_append]
    split <;> simp [solid]
  rw [shape, trimEnd, List.head?_reverse, kept]

/-- Nothing is dropped where both ends stay. -/
theorem dropWhile_ends {α : Type} {p : α → Bool} {xs : List α} {a b : α} (first : xs.head? = some a)
    (last : xs.getLast? = some b) (start : p a = false) (stop : p b = false)
    : ((xs.dropWhile p).reverse.dropWhile p).reverse = xs := by
  have kept {xs : List α} {a : α} (first : xs.head? = some a) (start : p a = false)
      : xs.dropWhile p = xs := by
    cases xs with
    | nil => rfl
    | cons c rest =>
      obtain rfl : c = a := by simpa using first
      exact List.dropWhile_cons_of_neg (by simp [start])
  rw [kept first start, kept (List.head?_reverse.trans last) stop, List.reverse_reverse]

/-- A text without blanks at its ends is its own trimmed text. -/
theorem trimmed_of_ends {s : String} {a b : Char} (first : s.toList.head? = some a)
    (last : s.toList.getLast? = some b) (start : isBlank a = false) (stop : isBlank b = false)
    : trimmed s = s := by
  rw [trimmed, trim, trimEnd, dropWhile_ends first last start stop, String.ofList_toList]

end ColumnStore.Text
