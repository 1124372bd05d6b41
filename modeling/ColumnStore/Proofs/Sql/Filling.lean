import ColumnStore.Proofs.Sql.Lexemes

/-! Raw text is added to a statement whole or not at all. It is added where its placeholders are as many as
the values, each literal then stands for the placeholder of its place, and nothing else of the text is
touched.
-/

namespace ColumnStore

namespace Lexical.Lexeme

/-- The text of lexemes with each placeholder replaced by the next of some texts. -/
def fill : List Lexeme → List (List Char) → List Char
  | [], _ => []
  | l :: ls, texts =>
    if l = placeholder then
      match texts with
      | [] => l.chars ++ fill ls []
      | text :: more => text ++ fill ls more
    else l.chars ++ fill ls texts

theorem fill_placeholder (ls : List Lexeme) (text : List Char) (more : List (List Char))
    : fill (placeholder :: ls) (text :: more) = text ++ fill ls more :=
  if_pos rfl

theorem fill_other {l : Lexeme} (other : l ≠ placeholder) (ls : List Lexeme) (texts : List (List Char))
    : fill (l :: ls) texts = l.chars ++ fill ls texts :=
  if_neg other

end Lexical.Lexeme

open Lexical

namespace Statement

/-- Pieces with literals between them are the text with its placeholders replaced, lexeme by lexeme. -/
theorem spellAll_pieces {literal : Value → String} {cs : List Char} {ls : List Lexeme}
    (lexed : Lexed cs ls) {bindings : List Value} (count : ls.count .placeholder = bindings.length)
    : Symbol.spellAll literal (boundPieces (pieces .code cs) bindings)
      = Lexeme.fill ls (bindings.map fun v => (literal v).toList) := by
  induction lexed generalizing bindings with
  | nil => simp [pieces, boundPieces, Lexeme.fill]
  | @cons _ rest l ls whole first _ ih =>
    rw [← whole, first.pieces]
    by_cases mark : l = .placeholder
    · subst mark
      cases bindings with
      | nil => simp at count
      | cons v more =>
        have again : ls.count .placeholder = more.length := by simpa using count
        rw [if_pos rfl, List.map_cons, Lexeme.fill_placeholder, ← ih again]
        simp [boundPieces, boundPiece, Symbol.spell]
    · have again : ls.count .placeholder = bindings.length := by simpa [mark] using count
      rw [if_neg mark, Lexeme.fill_other mark, ← ih again]
      simp [boundPieces]

/-- What a statement is once a raw text was to be added: the statement as it was, where that failed. -/
def afterRaw (s : Statement) (sql : String) (bindings : List Value) : Statement :=
  match s.pushRaw sql bindings with
  | .ok t => t
  | .error _ => s

/-- A raw text is added exactly where it has as many placeholders as there are values: the template goes on
with the text and the values with those given, and what is rendered goes on with the text whose placeholders
are the literals of the values, each in its place. Elsewhere the failure tells the text and both numbers,
and the statement is as it was.
-/
theorem pushRaw_eq_fill (e : Escaping) (s : Statement) (sql : String) (bindings : List Value)
    : ∃ ls,
        (∀ ms, Lexed sql.toList ms ↔ ms = ls)
        ∧ if ls.count .placeholder = bindings.length then
            s.pushRaw sql bindings = .ok (s.afterRaw sql bindings)
            ∧ (s.afterRaw sql bindings).template = s.template ++ sql
            ∧ (s.afterRaw sql bindings).params = s.params ++ bindings
            ∧ (s.afterRaw sql bindings).render e
              = s.render e
                ++ String.ofList (Lexeme.fill ls (bindings.map fun v => (e.quote v).toList))
          else
            s.pushRaw sql bindings
              = .error (.placeholderMismatch sql (ls.count .placeholder) bindings.length)
            ∧ s.afterRaw sql bindings = s := by
  obtain ⟨ls, only⟩ := exists_lexed_iff sql.toList
  have lexed : Lexed sql.toList ls := (only ls).2 rfl
  refine ⟨ls, only, ?_⟩
  rw [← lexed.length_pieces]
  by_cases count : (pieces .code sql.toList).2.length = bindings.length
  · obtain ⟨t, added⟩ := s.exists_pushRaw count
    have after : s.afterRaw sql bindings = t := by rw [afterRaw, added]
    obtain ⟨template, params⟩ := template_of_pushRaw added
    rw [if_pos count, after]
    refine ⟨added, template, params, ?_⟩
    rw [lexed.length_pieces] at count
    rw [← String.toList_inj, String.toList_append, render, render, toList_write, toList_write,
      (pushRaw_eq_ok_iff.1 added).2, Symbol.spellAll_append, spellAll_pieces lexed count,
      String.toList_ofList]
  · have failed := s.pushRaw_eq_error count
    rw [if_neg count]
    exact ⟨failed, by rw [afterRaw, failed]⟩

/-- A question mark within a literal, of the raw text or of a value, stands for itself. -/
example : (empty.afterRaw "a = ? or b = '?'" [.string "?"]).render .native = "a = '?' or b = '?'" := rfl

end Statement

end ColumnStore
