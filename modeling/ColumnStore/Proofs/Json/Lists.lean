import Mathlib.Data.List.Forall2
import ColumnStore.Json.Reader
import ColumnStore.Proofs.Text.Trimming

/-! A list is read element by element, whatever its elements are: blanks may stand around each, commas
between them, and a bracket closes the list. A reader of elements becomes one of lists.
-/

namespace ColumnStore.Json

-----------------------------------------------------------------------------------------
-- Blanks and what follows a value
-----------------------------------------------------------------------------------------

/-- Blanks between the parts of a text. -/
def IsSpaces (cs : List Char) : Prop :=
  ∀ c ∈ cs, isSpace c

/-- A blank is one of four characters. -/
theorem eq_of_isSpace {c : Char} (h : isSpace c)
    : c = ' ' ∨ c = '\n' ∨ c = '\t' ∨ c = '\r' := by
  simpa only [isSpace, decide_eq_true_eq] using h

/-- A value is followed by a blank, a comma or a closing bracket, or by nothing. -/
def Stops (rest : List Char) : Prop :=
  ∀ c, rest.head? = some c → isSpace c ∨ c = ',' ∨ c = ']' ∨ c = '}'

theorem Stops.append {blanks rest : List Char} (h : Stops rest) (spaces : IsSpaces blanks)
    : Stops (blanks ++ rest) := by
  cases blanks with
  | nil => exact h
  | cons c more =>
    intro d same
    obtain rfl : c = d := by simpa using same
    exact .inl (spaces c (by simp))

theorem stops_cons {c : Char} (h : c = ',' ∨ c = ']' ∨ c = '}') (rest : List Char)
    : Stops (c :: rest) := by
  intro d same
  obtain rfl : c = d := by simpa using same
  exact .inr h

-----------------------------------------------------------------------------------------
-- Lists
-----------------------------------------------------------------------------------------

section Lists

variable {α β : Type} {Element : α → List Char → Prop}

/-- The texts of elements with commas between them, one at least. -/
inductive ElementsText (Element : α → List Char → Prop) : List α → List Char → Prop
  | last {a : α} {before cs after : List Char} (leads : IsSpaces before) (text : Element a cs)
      (trails : IsSpaces after)
    : ElementsText Element [a] (before ++ cs ++ after)
  | more {a : α} {others : List α} {before cs after more : List Char} (leads : IsSpaces before)
      (text : Element a cs) (trails : IsSpaces after) (rest : ElementsText Element others more)
    : ElementsText Element (a :: others) (before ++ cs ++ after ++ ',' :: more)

/-- The texts between two brackets: blanks, or elements. -/
inductive ListText (Element : α → List Char → Prop) : List α → List Char → Prop
  | empty {blanks : List Char} (spaces : IsSpaces blanks) : ListText Element [] blanks
  | filled {items : List α} {cs : List Char} (elements : ElementsText Element items cs)
    : ListText Element items cs

variable {Other : α → List Char → Prop}

/-- Elements of one grammar are elements of another in which no part of their text is missing. -/
theorem ElementsText.imp {items : List α} {cs : List Char} (h : ElementsText Element items cs)
    (weaken : ∀ a text, text.length ≤ cs.length → Element a text → Other a text)
    : ElementsText Other items cs := by
  induction h with
  | last leads text trails =>
    exact .last leads (weaken _ _ (by simp; omega) text) trails
  | more leads text trails _ ih =>
    refine .more leads (weaken _ _ (by simp; omega) text) trails (ih fun a inner shorter => ?_)
    exact weaken a inner (by simp; omega)

theorem ListText.imp {items : List α} {cs : List Char} (h : ListText Element items cs)
    (weaken : ∀ a text, text.length ≤ cs.length → Element a text → Other a text)
    : ListText Other items cs := by
  cases h with
  | empty spaces => exact .empty spaces
  | filled elements => exact .filled (elements.imp weaken)

/-- Every element has its text in the list. -/
theorem ElementsText.exists_text {items : List α} {cs : List Char}
    (h : ElementsText Element items cs) {a : α} (member : a ∈ items)
    : ∃ text, Element a text := by
  induction h with
  | last _ text _ =>
    obtain rfl := List.mem_singleton.1 member
    exact ⟨_, text⟩
  | more _ text _ _ ih =>
    rcases List.mem_cons.1 member with rfl | later
    · exact ⟨_, text⟩
    · exact ih later

theorem ListText.exists_text {items : List α} {cs : List Char} (h : ListText Element items cs)
    {a : α} (member : a ∈ items)
    : ∃ text, Element a text := by
  cases h with
  | empty _ => nomatch member
  | filled elements => exact elements.exists_text member

theorem ElementsText.one {a : α} {cs : List Char} (text : Element a cs)
    : ElementsText Element [a] cs := by
  have padded : ElementsText Element [a] ([] ++ cs ++ []) := .last nofun text nofun
  simpa using padded

theorem ElementsText.cons {a : α} {others : List α} {cs more : List Char} (text : Element a cs)
    (rest : ElementsText Element others more)
    : ElementsText Element (a :: others) (cs ++ ',' :: more) := by
  have padded : ElementsText Element (a :: others) ([] ++ cs ++ [] ++ ',' :: more) :=
    .more nofun text nofun rest
  simpa using padded

/-- A reader that reads the texts of elements: what it gives fits the element, and what follows is
left. The texts start with no blank and with no closing bracket.
-/
structure Reads (Element : α → List Char → Prop) (read : List Char → Option (β × List Char))
    (Fits : α → β → Prop) : Prop where
  starts
    : ∀ a cs, Element a cs →
        ∃ c rest, cs = c :: rest ∧ isSpace c = false ∧ c ≠ ']' ∧ c ≠ '}'
  reads
    : ∀ a cs rest, Element a cs → Stops rest → ∃ b, read (cs ++ rest) = some (b, rest) ∧ Fits a b

variable {read : List Char → Option (β × List Char)} {Fits : α → β → Prop}

theorem readSeparator_close {close : Char} (solid : isSpace close = false) (other : close ≠ ',')
    {blanks : List Char} (spaces : IsSpaces blanks) (rest : List Char)
    : readSeparator close (blanks ++ close :: rest) = some (false, rest) := by
  rw [readSeparator, (Text.cut_append_cons spaces solid rest).2]
  split
  · rename_i shape
    exact absurd (List.cons.inj shape).1 other
  · rename_i c more _ shape
    obtain ⟨rfl, rfl⟩ := List.cons.inj shape
    simp
  · rename_i shape
    cases shape

theorem readSeparator_comma {close : Char} {blanks : List Char} (spaces : IsSpaces blanks)
    (rest : List Char)
    : readSeparator close (blanks ++ ',' :: rest) = some (true, rest) := by
  have comma : isSpace ',' = false := rfl
  rw [readSeparator, (Text.cut_append_cons spaces comma rest).2]
  rfl

/-- The elements up to a closing bracket are read, by induction over them. Each takes a character at
least, so as much fuel as there are characters is enough.
-/
theorem Reads.readElements (reader : Reads Element read Fits) {close : Char}
    (bracket : close = ']' ∨ close = '}') {items : List α} {cs : List Char}
    (h : ElementsText Element items cs) (rest : List Char) (fuel : Nat) (enough : cs.length ≤ fuel)
    : ∃ found, Json.readElements close read fuel (cs ++ close :: rest) = some (found, rest)
      ∧ List.Forall₂ Fits items found := by
  have solid : isSpace close = false := by rcases bracket with rfl | rfl <;> rfl
  have other : close ≠ ',' := by rcases bracket with rfl | rfl <;> decide
  have stop (more : List Char) : Stops (close :: more) := stops_cons (.inr bracket) more
  induction h generalizing fuel with
  | @last a before cs after leads text trails =>
    obtain ⟨c, more, rfl, present, _⟩ := reader.starts a cs text
    obtain ⟨b, read_eq, fits⟩ := reader.reads a _ (after ++ close :: rest) text
      ((stop rest).append trails)
    cases fuel with
    | zero => simp at enough
    | succ fuel =>
      refine ⟨[b], ?_, .cons fits .nil⟩
      rw [Json.readElements, List.append_assoc, List.append_assoc, List.cons_append,
        (Text.cut_append_cons leads present _).2, ← List.cons_append, read_eq]
      simp [readSeparator_close solid other trails]
  | @more a others before cs after more leads text trails _ ih =>
    obtain ⟨c, inner, rfl, present, _⟩ := reader.starts a cs text
    obtain ⟨b, read_eq, fits⟩ := reader.reads a _ (after ++ ',' :: (more ++ close :: rest)) text
      ((stops_cons (.inl rfl) _).append trails)
    cases fuel with
    | zero => simp at enough
    | succ fuel =>
      obtain ⟨found, later, fits_later⟩ := ih fuel (by simp at enough; omega)
      refine ⟨b :: found, ?_, .cons fits fits_later⟩
      have split : before ++ c :: inner ++ after ++ ',' :: more ++ close :: rest
          = before ++ (c :: inner ++ (after ++ ',' :: (more ++ close :: rest))) := by simp
      rw [Json.readElements, split, List.cons_append, (Text.cut_append_cons leads present _).2,
        ← List.cons_append, read_eq]
      simp [readSeparator_comma trails, later]

/-- Elements start with a character that is no blank and no closing bracket. -/
theorem Reads.dropWhile_elements (reader : Reads Element read Fits) {items : List α}
    {cs : List Char} (h : ElementsText Element items cs) (rest : List Char)
    : ∃ c more, (cs ++ rest).dropWhile isSpace = c :: more ∧ c ≠ ']' ∧ c ≠ '}' := by
  have first {a : α} {before cs : List Char} (leads : IsSpaces before) (text : Element a cs)
      (after : List Char)
      : ∃ c more, (before ++ cs ++ after).dropWhile isSpace = c :: more ∧ c ≠ ']' ∧ c ≠ '}' := by
    obtain ⟨c, more, rfl, present, solid⟩ := reader.starts a cs text
    refine ⟨c, more ++ after, ?_, solid⟩
    rw [List.append_assoc, List.cons_append, (Text.cut_append_cons leads present _).2]
  cases h with
  | last leads text _ =>
    rw [List.append_assoc]
    exact first leads text _
  | more leads text _ _ =>
    rw [List.append_assoc, List.append_assoc]
    exact first leads text _

/-- A list is read up to its closing bracket, with elements or without. -/
theorem Reads.readList (reader : Reads Element read Fits) {close : Char}
    (bracket : close = ']' ∨ close = '}') {items : List α} {cs : List Char}
    (h : ListText Element items cs) (rest : List Char)
    : ∃ found, Json.readList close read (cs ++ close :: rest) = some (found, rest)
      ∧ List.Forall₂ Fits items found := by
  have solid : isSpace close = false := by rcases bracket with rfl | rfl <;> rfl
  cases h with
  | empty spaces =>
    refine ⟨[], ?_, .nil⟩
    rw [Json.readList, (Text.cut_append_cons spaces solid rest).2]
    simp
  | filled elements =>
    obtain ⟨c, more, first, other⟩ := reader.dropWhile_elements elements (close :: rest)
    have different : c ≠ close := by rcases bracket with rfl | rfl <;> simp [other]
    obtain ⟨found, read_eq, fits⟩ := reader.readElements bracket elements rest
      (cs ++ close :: rest).length (by simp)
    refine ⟨found, ?_, fits⟩
    rw [Json.readList, first]
    simp only [different, if_false, read_eq]

end Lists

end ColumnStore.Json
