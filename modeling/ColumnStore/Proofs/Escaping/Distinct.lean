import ColumnStore.Proofs.Sql.Nesting
import ColumnStore.Proofs.Text.Trimming

/-! Values of different kinds or contents have different literals, where the kinds share none. The first
character of a literal tells the kind, and an item of an array ends where no quotation and no bracket is
open, so the items are read off the array one by one.
-/

namespace ColumnStore

/-- A value of the kinds that share no literal with another: unsigned numbers and floats have literals of
integers among theirs, and a moment is quoted as a text is.
-/
inductive Value.IsBasic : Value → Prop where
  | null : IsBasic .null
  | bool (b : Bool) : IsBasic (.bool b)
  | int (n : Int64) : IsBasic (.int n)
  | string (s : String) : IsBasic (.string s)
  | array {items : List Value} (each : ∀ v ∈ items, IsBasic v) : IsBasic (.array items)

namespace Escaping

open Lexical

-----------------------------------------------------------------------------------------
-- Kinds
-----------------------------------------------------------------------------------------

/-- What a literal is seen to be by its first character. -/
inductive LiteralKind where
  | null
  | truth (b : Bool)
  | integer
  | text
  | list

def LiteralKind.ofFirst? (c : Char) : Option LiteralKind :=
  if c = '-' ∨ c.isDigit then some integer
  else if c = 'N' then some null
  else if c = 't' then some (truth true)
  else if c = 'f' then some (truth false)
  else if c = '\'' then some text
  else if c = '[' then some list
  else none

def kind? : Value → Option LiteralKind
  | .null => some .null
  | .bool b => some (.truth b)
  | .int _ => some .integer
  | .string _ => some .text
  | .array _ => some .list
  | .uint _ | .float _ | .moment _ => none

/-- An integer starts with its sign or with a digit. -/
theorem ofFirst?_int (n : Int)
    : (toString n).toList.head?.bind LiteralKind.ofFirst? = some .integer := by
  cases n with
  | ofNat n =>
    obtain ⟨c, rest, digits⟩ := List.exists_cons_of_ne_nil (Nat.toDigits_ne_nil (b := 10) (n := n))
    rw [toList_toString_ofNat, digits, List.head?_cons, Option.bind_some, LiteralKind.ofFirst?,
      if_pos (.inr (isDigit_of_toDigits_eq digits))]
  | negSucc n =>
    rw [toList_toString_negSucc]
    rfl

/-- The first character of a literal tells its kind. -/
theorem ofFirst?_quote (e : Escaping) {v : Value} (basic : v.IsBasic)
    : (e.quote v).toList.head?.bind LiteralKind.ofFirst? = kind? v := by
  cases basic with
  | null => simp [quote, LiteralKind.ofFirst?, kind?]
  | bool b => cases b <;> simp [quote, toString, LiteralKind.ofFirst?, kind?]
  | int n => exact ofFirst?_int n.toInt
  | string s =>
    rw [quote, toList_quoteText]
    rfl
  | array =>
    rw [quote, toList_bracketed]
    rfl

/-- Values with the same literal are of the same kind. -/
theorem kind?_eq_of_quote_eq {e : Escaping} {v w : Value} (left : v.IsBasic) (right : w.IsBasic)
    (same : e.quote v = e.quote w)
    : kind? v = kind? w := by
  rw [← ofFirst?_quote e left, ← ofFirst?_quote e right, same]

-----------------------------------------------------------------------------------------
-- Contents
-----------------------------------------------------------------------------------------

theorem quoteText_inj {e : Escaping} {s t : String}
    : e.quoteText s = e.quoteText t ↔ s = t := by
  refine ⟨fun same => ?_, fun same => same ▸ rfl⟩
  have read (s : String) : e.unquote? (e.quoteText s) = some s :=
    unquote?_eq_some_iff.2 ⟨_, toList_quoteText e s, spelled_escape e s.toList⟩
  exact Option.some.inj ((read s).symm.trans (same ▸ read t))

theorem quoteAll_eq_map (e : Escaping) (items : List Value)
    : e.quoteAll items = items.map e.quote := by
  induction items with
  | nil => rfl
  | cons v rest ih => rw [quoteAll, List.map_cons, ih]

theorem quote_ne_empty (e : Escaping) (v : Value)
    : e.quote v ≠ "" := by
  obtain ⟨c, rest, written, -, -⟩ := (isLiteral_quote e v).opens
  intro none
  rw [none] at written
  cases written

/-- Items are read off an array one by one, as each ends before a comma or where the array ends. -/
theorem items_unique {e : Escaping} {items others : List Value}
    (each : ∀ v ∈ items, ∀ w ∈ others, e.quote v = e.quote w → v = w)
    (same : e.quote (.array items) = e.quote (.array others))
    : items = others := by
  have inside : [',', ' '].intercalate ((items.map e.quote).map String.toList)
      = [',', ' '].intercalate ((others.map e.quote).map String.toList) := by
    have whole := congrArg String.toList same
    rw [quote, quote, toList_bracketed, toList_bracketed, quoteAll_eq_map, quoteAll_eq_map] at whole
    exact List.append_cancel_right (List.cons_eq_cons.1 whole).2
  cases items with
  | nil =>
    cases others with
    | nil => rfl
    | cons w ws => simp [Text.intercalate_cons, quote_ne_empty] at inside
  | cons v vs =>
    cases others with
    | nil => simp [Text.intercalate_cons, quote_ne_empty] at inside
    | cons w ws =>
      have comma (rest : List Char) : StartsApart (',' :: rest) := ⟨',', rest, rfl, rfl⟩
      have close (rest : List Char) : StartsApart (')' :: rest) := ⟨')', rest, rfl, rfl⟩
      have listed : ((v :: vs).flatMap fun v => [',', ' '] ++ (e.quote v).toList) ++ [')']
          = ((w :: ws).flatMap fun w => [',', ' '] ++ (e.quote w).toList) ++ [')'] := by
        simp only [List.map_cons, Text.intercalate_cons, List.flatMap_map] at inside
        simp only [List.flatMap_cons, List.append_assoc, List.append_cancel_left_eq]
        rw [← List.append_assoc, inside, List.append_assoc]
      have read : (v :: vs).map id = (w :: ws).map id := by
        refine map_unique_of_items comma close (fun v vMember w wMember r s rEnds sEnds same => ?_) listed
        obtain ⟨literal, rest⟩ := ((literalText_quote e v).isPart 0).unique
          ((literalText_quote e w).isPart 0) rEnds sEnds same
        exact ⟨each v vMember w wMember (String.toList_inj.1 literal), rest⟩
      rwa [List.map_id, List.map_id] at read

-----------------------------------------------------------------------------------------
-- Values
-----------------------------------------------------------------------------------------

/-- Values of the basic kinds have the same literal only if they are the same, by either escaping and
however arrays are nested. By induction on the one value, with the other of the same kind.
-/
theorem quote_eq_quote_iff {e : Escaping} {v w : Value} (left : v.IsBasic) (right : w.IsBasic)
    : e.quote v = e.quote w ↔ v = w := by
  refine ⟨fun same => ?_, fun same => same ▸ rfl⟩
  have kind := kind?_eq_of_quote_eq left right same
  induction left generalizing w with
  | null =>
    cases right with
    | null => rfl
    | _ => cases kind
  | bool b =>
    cases right with
    | bool c =>
      cases kind
      rfl
    | _ => cases kind
  | int m =>
    cases right with
    | int n =>
      rw [quote, quote] at same
      rw [Int64.toInt_inj.1 (toString_int_inj.1 same)]
    | _ => cases kind
  | string s =>
    cases right with
    | string t =>
      rw [quote, quote] at same
      rw [quoteText_inj.1 same]
    | _ => cases kind
  | array leftEach ih =>
    cases right with
    | array rightEach =>
      rw [items_unique (fun v vMember w wMember literal => ?_) same]
      exact ih v vMember (rightEach w wMember) literal
        (kind?_eq_of_quote_eq (leftEach v vMember) (rightEach w wMember) literal)
    | _ => cases kind

/-- A text that looks like two items of an array is one. -/
theorem quote_eq_quote_iff_nested
    : let one : Value := .array [.array [.string "a', 'b"], .null]
      let two : Value := .array [.array [.string "a", .string "b"], .null]
      one.IsBasic ∧ two.IsBasic
        ∧ native.quote one ≠ native.quote two ∧ doubling.quote one ≠ doubling.quote two := by
  intro one two
  have pair {v : Value} (basic : v.IsBasic) : Value.IsBasic (.array [v, .null]) :=
    .array (List.forall_mem_cons.2 ⟨basic, List.forall_mem_singleton.2 .null⟩)
  have first : one.IsBasic := pair (.array (List.forall_mem_singleton.2 (.string _)))
  have second : two.IsBasic :=
    pair (.array (List.forall_mem_cons.2 ⟨.string _, List.forall_mem_singleton.2 (.string _)⟩))
  have differ : one ≠ two := by simp [one, two]
  exact ⟨first, second, fun same => differ ((quote_eq_quote_iff first second).1 same),
    fun same => differ ((quote_eq_quote_iff first second).1 same)⟩

/-- Numbers of two kinds can share a literal. -/
example : native.quote (.int 1) = native.quote (.uint 1) := rfl

end Escaping

end ColumnStore
