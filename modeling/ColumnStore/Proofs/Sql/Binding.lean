import Mathlib.Data.List.Chain
import ColumnStore.Proofs.Sql.Containment
import ColumnStore.Proofs.Sql.Recovery

/-! Values are bound into raw text as literals, and a literal stays whole unless it makes a longer
token with a neighbour: two dashes start a comment, and two quotes are one character of a quotation.
Where no literal does so, and only there, the raw text is read as it was without the values.
-/

namespace ColumnStore

open Lexical

-----------------------------------------------------------------------------------------
-- The scanner between two characters
-----------------------------------------------------------------------------------------

namespace Lexical.State

/-- A dash that the scanner waits behind is the character before. -/
theorem eq_of_step_dash {s : State} {c : Char} (h : s.step c = dash)
    : c = '-' := by
  cases s <;> grind [step, afterCode]

/-- A delimiter that may have ended its quotation is the character before. -/
theorem eq_of_step_closing {s : State} {c d : Char} (h : s.step c = closing d)
    : c = d := by
  cases s <;> grind [step, afterCode]

/-- A dash that the scanner waits behind is the last character. -/
theorem getLast?_of_dash {cs : List Char} (h : code.run cs = dash)
    : cs.getLast? = some '-' := by
  cases cs using List.reverseRecOn with
  | nil => cases h
  | append_singleton front c =>
    rw [run_append] at h
    rw [List.getLast?_concat, eq_of_step_dash h]

/-- A delimiter that may have ended its quotation is the last character. -/
theorem getLast?_of_closing {cs : List Char} {d : Char} (h : code.run cs = closing d)
    : cs.getLast? = some d := by
  cases cs using List.reverseRecOn with
  | nil => cases h
  | append_singleton front c =>
    rw [run_append] at h
    rw [List.getLast?_concat, eq_of_step_closing h]

theorem isProper_run_code (cs : List Char)
    : (code.run cs).IsProper :=
  IsProper.run (s := code) trivial cs

/-- Where two dashes or two single quotes meet, the scanner is not in code between them. -/
theorem settle_step_ne_code (s : State) {c : Char} (h : c = '-' ∨ c = '\'')
    : (s.step c).settle (some c) ≠ code := by
  rcases h with rfl | rfl
  all_goals cases s <;> grind [step, afterCode, settle, isDelimiter]

/-- What is read in code, and makes no longer token with what is before, is read as after plain code. -/
theorem step_of_clear {s : State} {c : Char} (inCode : s.inCode) (dash : s = dash → c ≠ '-')
    (closing : ∀ d, s = closing d → c ≠ d)
    : s.step c = code.step c ∧ s.settle (some c) = code := by
  cases s with
  | code => exact ⟨rfl, rfl⟩
  | dash => simp [step, settle, dash rfl]
  | closing d => simp [step, settle, closing d rfl]
  | quoted d | escaped d | comment => cases inCode

end Lexical.State

-----------------------------------------------------------------------------------------
-- Neighbours
-----------------------------------------------------------------------------------------

namespace Symbol

variable (literal : Value → String)

def isLiteral : Symbol → Bool
  | char _ => false
  | .literal _ => true

/-- A literal and its neighbour make a longer token: two dashes or two single quotes meet. -/
def Merges (x y : Symbol) : Prop :=
  (x.isLiteral ∨ y.isLiteral)
    ∧ ∃ c ∈ ['-', '\''], (x.spell literal).getLast? = some c ∧ (y.spell literal).head? = some c

instance (x y : Symbol) : Decidable (Merges literal x y) :=
  @instDecidableAnd _ _ inferInstance (List.decidableBEx _ _)

/-- No literal of the symbols makes a longer token with a neighbour. -/
def Apart (symbols : List Symbol) : Prop :=
  symbols.IsChain fun x y => ¬ Merges literal x y

instance (symbols : List Symbol) : Decidable (Apart literal symbols) :=
  inferInstanceAs (Decidable (List.IsChain _ _))

end Symbol

-----------------------------------------------------------------------------------------
-- Two scanners abreast
-----------------------------------------------------------------------------------------

namespace Statement

open ColumnStore.Symbol

/-- After some symbols the scanner stands in the rendered text where it stands in the template, or
it waits for a second quote behind a literal.
-/
def Abreast (literal : Value → String) (front : List Symbol) : Prop :=
  State.code.run (spellAll literal front) = State.code.run (spellAll (fun _ => "?") front)
    ∨ State.code.run (spellAll literal front) = .closing '\''
      ∧ State.code.run (spellAll (fun _ => "?") front) = .code
      ∧ ∃ v, front.getLast? = some (.literal v)

/-- Where the template is in code, so is the rendered text. -/
theorem Abreast.inCode {literal : Value → String} {front : List Symbol}
    (h : Abreast literal front) (template : (State.code.run (spellAll (fun _ => "?") front)).inCode)
    : (State.code.run (spellAll literal front)).inCode := by
  rcases h with same | ⟨waits, -, -⟩
  · rw [same]
    exact template
  · rw [waits]
    rfl

/-- A question mark that stands for a value leads from code to plain code. -/
theorem run_placeholder {s : State} (proper : s.IsProper) (inCode : s.inCode) (v : Value)
    : s.run ((Symbol.literal v).spell fun _ => "?") = .code := by
  simpa [Symbol.spell] using proper.step_quiet inCode (c := '?') (by decide)

/-- The state in which the scanner passes a template is the one in which it reads it, by induction
over the symbols.
-/
theorem run_of_pass {symbols : List Symbol} {s t : State} (proper : s.IsProper)
    (h : symbols.foldlM State.pass s = some t)
    : s.run (spellAll (fun _ => "?") symbols) = t := by
  induction symbols generalizing s with
  | nil => exact Option.some.inj h
  | cons x rest ih =>
    rw [List.foldlM_cons, Option.bind_eq_bind, Option.bind_eq_some_iff] at h
    obtain ⟨m, passed, later⟩ := h
    have read : s.run (x.spell fun _ => "?") = m := by
      cases x with
      | char c =>
        simp only [State.pass, Option.ite_none_left_eq_some, Option.some.injEq] at passed
        exact passed.2
      | literal v =>
        simp only [State.pass, Option.ite_none_right_eq_some, Option.some.injEq] at passed
        exact passed.2 ▸ run_placeholder proper passed.1 v
    rw [spellAll_cons, State.run_append, read]
    exact ih (read ▸ proper.run _) later

/-- A value that is passed stands in code. -/
theorem inCode_of_pass {front back : List Symbol} {v : Value} {t : State}
    (passes : (front ++ .literal v :: back).foldlM State.pass .code = some t)
    : (State.code.run (spellAll (fun _ => "?") front)).inCode := by
  rw [List.foldlM_append, Option.bind_eq_bind, Option.bind_eq_some_iff] at passes
  obtain ⟨m, before, more⟩ := passes
  rw [List.foldlM_cons, Option.bind_eq_bind, Option.bind_eq_some_iff] at more
  obtain ⟨n, passed, -⟩ := more
  simp only [State.pass, Option.ite_none_right_eq_some] at passed
  exact run_of_pass (s := .code) trivial before ▸ passed.1

section Simulation

variable {literal : Value → String} (whole : ∀ v, IsLiteral (literal v).toList)

include whole

theorem spell_ne_nil (x : Symbol)
    : x.spell literal ≠ [] := by
  cases x with
  | char c => exact List.cons_ne_nil c []
  | literal v =>
    obtain ⟨c, rest, shape, -, -⟩ := (whole v).opens
    rw [Symbol.spell, shape]
    exact List.cons_ne_nil c rest

theorem head?_spellAll_cons (x : Symbol) (rest : List Symbol)
    : (spellAll literal (x :: rest)).head? = (x.spell literal).head? := by
  rw [spellAll_cons, List.head?_append_of_ne_nil _ (spell_ne_nil whole x)]

/-- What stands next to a literal does not go on with it where nothing merges. -/
theorem head?_ne_of_apart {front back : List Symbol} {y : Symbol} {c : Char}
    (apart : Apart literal (front ++ y :: back)) (sign : c ∈ ['-', '\''])
    (last : (spellAll literal front).getLast? = some c)
    (beside : y.isLiteral ∨ ∃ v, front.getLast? = some (.literal v))
    : (y.spell literal).head? ≠ some c := by
  intro first
  cases front using List.reverseRecOn with
  | nil => cases last
  | append_singleton front x =>
    have clear : ¬ Merges literal x y :=
      List.isChain_iff_forall_rel_of_append_cons_cons.1 apart (List.append_cons front x _).symm
    refine clear ⟨?_, c, sign, ?_, first⟩
    · refine (beside.imp id ?_).symm
      rintro ⟨v, same⟩
      obtain rfl : x = .literal v := by simpa using same
      rfl
    · rw [← last, spellAll_append, spellAll_cons, spellAll_nil, List.append_nil,
        List.getLast?_append_of_ne_nil _ (spell_ne_nil whole x)]

/-- What follows a literal does not double its quote where nothing merges. -/
theorem head?_ne_quote {front back : List Symbol} (apart : Apart literal (front ++ back))
    (waits : State.code.run (spellAll literal front) = .closing '\'')
    (behind : ∃ v, front.getLast? = some (.literal v))
    : (spellAll literal back).head? ≠ some '\'' := by
  cases back with
  | nil => exact nofun
  | cons y more =>
    rw [head?_spellAll_cons whole]
    exact head?_ne_of_apart whole apart (by simp) (State.getLast?_of_closing waits) (.inr behind)

/-- A literal is opened in code where nothing merges, and is read as from plain code. -/
theorem opens_of_apart {front back : List Symbol} {v : Value}
    (apart : Apart literal (front ++ .literal v :: back))
    (inCode : (State.code.run (spellAll literal front)).inCode)
    : (State.code.run (spellAll literal front)).run (literal v).toList
        = State.code.run (literal v).toList
      ∧ (State.code.run (spellAll literal front)).settle (literal v).toList.head? = .code := by
  obtain ⟨c, rest, shape, quote, backquote⟩ := (whole v).opens
  have first : (Symbol.spell literal (.literal v)).head? = some c := by rw [Symbol.spell, shape]; rfl
  have proper := State.isProper_run_code (spellAll literal front)
  have dashed : State.code.run (spellAll literal front) = .dash → c ≠ '-' := fun waits same =>
    head?_ne_of_apart whole apart (by simp) (State.getLast?_of_dash waits) (.inl rfl)
      (first.trans (congrArg some same))
  have closed : ∀ d, State.code.run (spellAll literal front) = .closing d → c ≠ d := by
    rintro d waits rfl
    -- Literals start with neither delimiter of identifiers, so the quotation was a single one.
    have single : c = '\'' := by
      rw [waits] at proper
      simpa [State.IsProper, isDelimiter, quote, backquote] using proper
    exact head?_ne_of_apart whole apart (by simp [single]) (State.getLast?_of_closing waits) (.inl rfl)
      first
  have clear := State.step_of_clear inCode dashed closed
  rw [shape]
  exact ⟨by rw [State.run_cons, clear.1, State.run_cons], clear.2⟩

/-- Where nothing merges, the scanner stays abreast of the template, by induction over the symbols
from the last one.
-/
theorem abreast_of_apart {front back : List Symbol} {t : State}
    (passes : (front ++ back).foldlM State.pass .code = some t)
    (apart : Apart literal (front ++ back))
    : Abreast literal front := by
  induction front using List.reverseRecOn generalizing back with
  | nil => exact .inl rfl
  | append_singleton front x ih =>
    rw [List.append_assoc, List.singleton_append] at passes apart
    have before := ih passes apart
    simp only [Abreast, spellAll_append, spellAll_cons, spellAll_nil, List.append_nil,
      State.run_append]
    cases x with
    | char c =>
      refine .inl ?_
      rcases before with same | ⟨waits, plain, behind⟩
      · rw [same]
        rfl
      · have other : some c ≠ some '\'' := by
          simpa [Symbol.spell] using head?_ne_quote whole apart waits behind
        rw [waits, plain]
        exact State.step_closing fun same => other (congrArg some same)
    | literal v =>
      have template := inCode_of_pass passes
      rw [run_placeholder (State.isProper_run_code _) template, Symbol.spell,
        (opens_of_apart whole apart (before.inCode template)).1]
      rcases (whole v).closes with plain | closed
      · exact .inl plain
      · exact .inr ⟨closed, rfl, v, by simp⟩

/-- Once the next character is known, both scanners stand in the same state. -/
theorem Abreast.settle {front back : List Symbol} (h : Abreast literal front)
    (apart : Apart literal (front ++ back))
    : (State.code.run (spellAll literal front)).settle (spellAll literal back).head?
      = (State.code.run (spellAll (fun _ => "?") front)).settle (spellAll literal back).head? := by
  rcases h with same | ⟨waits, plain, behind⟩
  · rw [same]
  · rw [waits, plain, State.settle_code, State.settle_closing (head?_ne_quote whole apart waits behind)]

end Simulation

-----------------------------------------------------------------------------------------
-- Raw texts with values in them
-----------------------------------------------------------------------------------------

/-- The pieces of a text with question marks between them are the text, by list induction. -/
theorem pieces_joined (s : State) (cs : List Char)
    : (pieces s cs).1 ++ (pieces s cs).2.flatMap ('?' :: ·) = cs := by
  induction cs generalizing s with
  | nil => rfl
  | cons c rest ih =>
    by_cases placeholder : c = '?' ∧ s.inCode
    · obtain ⟨rfl, inCode⟩ := placeholder
      simpa [pieces, inCode] using ih .code
    · simpa [pieces, placeholder] using ih (s.step c)

/-- The pieces of a text with values between them are the text, written with question marks. -/
theorem spellAll_boundPieces {s : State} {cs : List Char} {bindings : List Value}
    (count : (pieces s cs).2.length = bindings.length)
    : spellAll (fun _ => "?") (boundPieces (pieces s cs) bindings) = cs := by
  have behind (pairs : List (Value × List Char))
      : spellAll (fun _ => "?") (pairs.flatMap boundPiece) = (pairs.map (·.2)).flatMap ('?' :: ·) := by
    rw [spellAll, List.flatMap_assoc, List.flatMap_map]
    refine List.flatMap_congr fun pair _ => ?_
    change spellAll _ _ = _
    rw [boundPiece, spellAll_cons, spellAll_map_char]
    simp [Symbol.spell]
  rw [boundPieces, spellAll_append, spellAll_map_char, behind, List.map_snd_zip (Nat.le_of_eq count)]
  exact pieces_joined s cs

theorem filterMap_boundPieces {cut : List Char × List (List Char)} {bindings : List Value}
    (count : cut.2.length = bindings.length)
    : (boundPieces cut bindings).filterMap Symbol.value? = bindings := by
  have behind (pairs : List (Value × List Char))
      : (pairs.flatMap boundPiece).filterMap Symbol.value? = pairs.map (·.1) := by
    induction pairs with
    | nil => rfl
    | cons pair rest ih => simp [ih, boundPiece, Symbol.value?]
  rw [boundPieces, List.filterMap_append, Symbol.filterMap_map_char, List.nil_append, behind,
    List.map_fst_zip (Nat.le_of_eq count.symm)]

/-- A raw text follows in the template, and its values among the others. -/
theorem template_of_pushRaw {sql : String} {bindings : List Value} {s t : Statement}
    (ok : s.pushRaw sql bindings = .ok t)
    : t.template = s.template ++ sql ∧ t.params = s.params ++ bindings := by
  obtain ⟨count, symbols⟩ := pushRaw_eq_ok_iff.1 ok
  constructor
  · rw [← String.toList_inj, String.toList_append, template, template, toList_write, toList_write,
      symbols, spellAll_append, spellAll_boundPieces count]
  · rw [params_eq_filterMap, symbols, List.filterMap_append, filterMap_boundPieces count,
      ← params_eq_filterMap]

/-- A raw text is the template of the statement that it becomes, and its values are those given. -/
theorem template_pushRaw {sql : String} {bindings : List Value} {s : Statement}
    (ok : empty.pushRaw sql bindings = .ok s)
    : s.template = sql ∧ s.params = bindings := by
  have added := template_of_pushRaw ok
  have alone : empty.template = "" := rfl
  rw [alone, String.empty_append] at added
  exact added

/-- A statement contains its literals where none of them makes a longer token with a neighbour. -/
theorem contained_of_apart {s : Statement} {t : State} (e : Escaping)
    (passes : s.symbols.foldlM State.pass .code = some t) (apart : Apart e.quote s.symbols)
    : s.Contained e := by
  have whole := isLiteral_quote e
  refine ⟨?_, ?_⟩
  · intro front v back split
    rw [split] at passes apart
    have template := inCode_of_pass passes
    have before := abreast_of_apart whole passes apart
    constructor
    · rw [render, stateAt_write _ split, head?_spellAll_cons whole]
      exact (opens_of_apart whole apart (before.inCode template)).2
    · rw [List.append_cons] at passes apart
      have after := abreast_of_apart whole passes apart
      rw [render, stateAt_write _ (by rw [split, List.append_cons]), after.settle whole apart,
        spellAll_append, State.run_append, spellAll_cons, spellAll_nil, List.append_nil,
        run_placeholder (State.isProper_run_code _) template, State.settle_code]
  · intro front c back split
    rw [split] at passes apart
    have before := abreast_of_apart whole passes apart
    rw [render, template, stateAt_write _ split, stateAt_write _ split, before.settle whole apart]
    rfl

/-- A literal that makes a longer token with a neighbour is not opened in code or not left in it. -/
theorem apart_of_contained {s : Statement} {e : Escaping} (h : s.Contained e)
    : Apart e.quote s.symbols := by
  rw [Apart, List.isChain_iff_forall_rel_of_append_cons_cons]
  rintro x y front back split ⟨literal, c, sign, last, first⟩
  have split' : s.symbols = front ++ [x] ++ y :: back := by rw [split]; simp
  have between : stateAt (s.render e).toList (width e.quote (front ++ [x])) ≠ .code := by
    obtain ⟨init, shape⟩ := List.getLast?_eq_some_iff.1 last
    rw [render, stateAt_write _ split', spellAll_append, spellAll_cons, spellAll_nil, spellAll_cons,
      List.append_nil, List.head?_append, first, shape, State.run_append, State.run_append]
    exact State.settle_step_ne_code _ (by simpa using sign)
  rcases literal with left | right
  · cases x with
    | char c => cases left
    | literal v => exact between (h.literals front v (y :: back) split).2
  · cases y with
    | char c => cases right
    | literal v => exact between (h.literals (front ++ [x]) v back split').1

/-- A raw text with values in it is their template, and it contains their literals exactly where
none of them makes a longer token with a neighbour: then every literal starts and ends in code, and
every character of the raw text is read in the state that it has there.
-/
theorem contained_pushRaw_iff {sql : String} {bindings : List Value} {s : Statement}
    (ok : empty.pushRaw sql bindings = .ok s) (e : Escaping)
    : s.template = sql ∧ s.params = bindings ∧ (s.Contained e ↔ Apart e.quote s.symbols) := by
  obtain ⟨template, params⟩ := template_pushRaw ok
  exact ⟨template, params, apart_of_contained, contained_of_apart e (foldlM_pass_pushRaw ok)⟩

/-- Values that hold quotes and dashes, in a raw text whose quotations, comment and signs stand apart
from them.
-/
theorem contained_pushRaw_spaced
    : ∃ s,
        empty.pushRaw "a = ? -- 'why?'\n and b in (?, ?) and c <> '?'" [.string "--'", .int (-1), .null]
          = .ok s
        ∧ s.template = "a = ? -- 'why?'\n and b in (?, ?) and c <> '?'"
        ∧ s.Contained .doubling := by
  refine ⟨_, rfl, ?_⟩
  have accepted : empty.pushRaw "a = ? -- 'why?'\n and b in (?, ?) and c <> '?'"
      [.string "--'", .int (-1), .null] = .ok _ := rfl
  have whole := contained_pushRaw_iff accepted .doubling
  exact ⟨whole.1, whole.2.2.2 (by decide)⟩

/-- A negative number behind a dash starts a comment: what was subtracted is cut off with all that
follows it.
-/
theorem not_contained_pushRaw_dash
    : ∃ s,
        empty.pushRaw "a -? + b" [.int (-1)] = .ok s
        ∧ stateAt s.template.toList 5 = .code
        ∧ ∀ e, s.render e = "a --1 + b" ∧ stateAt (s.render e).toList 6 = .comment
          ∧ ¬ s.Contained e := by
  refine ⟨_, rfl, by decide, fun e => ⟨rfl, ?_, fun contained => ?_⟩⟩
  · cases e <;> decide
  · exact absurd (apart_of_contained contained) (by cases e <;> decide)

end Statement

end ColumnStore
