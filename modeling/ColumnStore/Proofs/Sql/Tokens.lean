import ColumnStore.Identifier.Quoting
import ColumnStore.Proofs.Sql.Symbols

/-! SQL text as tokens: words, quoted names, signs, and bound values, each a token of its own.
A token goes on as long as it can; what ends one is a blank, a value or the start of another.
-/

namespace ColumnStore.Lexical

/-- A token of SQL text in which values stand for themselves. -/
inductive Token where
  /-- A keyword or a numeral. -/
  | word (cs : List Char)
  /-- A name without its quotes; a doubled quote within them is one. -/
  | name (cs : List Char)
  /-- A bracket, a separator or an operator. -/
  | sign (cs : List Char)
  | value (v : Value)

def isWordChar (c : Char) : Bool :=
  c.isAlphanum || c = '_'

/-- The signs that an equals sign may follow to make one operator. -/
def isOperatorStart (c : Char) : Bool :=
  c ∈ ['<', '>', '!']

/-- The signs that are a token by themselves. -/
def isSign (c : Char) : Bool :=
  c ∈ ['(', ')', ',', '.', '*', '=']

/-- What has been read of a token that is not complete. -/
inductive Start where
  | none
  | word (cs : List Char)
  | operator (c : Char)
  /-- A name before its closing quote. -/
  | name (cs : List Char)
  /-- A name with its closing quote, unless a second quote follows. -/
  | closed (cs : List Char)

namespace Start

/-- How a character goes on with a token: what it completes, and what is still open. -/
def extend? : Start → Char → Option (List Token × Start)
  | none, _ => Option.none
  | word cs, c => if isWordChar c then some ([], word (cs ++ [c])) else Option.none
  | operator first, c => if c = '=' then some ([.sign [first, c]], none) else Option.none
  | name cs, c =>
    if c = '"' then some ([], closed cs)
    else if c = '\\' then Option.none
    else some ([], name (cs ++ [c]))
  | closed cs, c => if c = '"' then some ([], name (cs ++ [c])) else Option.none

/-- The token that was open when nothing goes on with it. A name without its closing quote is no
token.
-/
def finish : Start → Option (List Token)
  | none => some []
  | word cs => some [.word cs]
  | operator c => some [.sign [c]]
  | name _ => Option.none
  | closed cs => some [.name cs]

/-- What a character is at the start of a token. -/
def begin? (c : Char) : Option (List Token × Start) :=
  if Text.isBlank c then some ([], none)
  else if c = '"' then some ([], name [])
  else if isWordChar c then some ([], word [c])
  else if isOperatorStart c then some ([], operator c)
  else if isSign c then some ([.sign [c]], none)
  else Option.none

/-- What is read after complete tokens, with those tokens before it. -/
def after (ts : List Token) (further : Option (List Token × Start)) : Option (List Token × Start) :=
  further.map fun (us, s) => (ts ++ us, s)

def step (s : Start) : Symbol → Option (List Token × Start)
  | .literal v => s.finish.map fun last => (last ++ [.value v], none)
  | .char c =>
    match s.extend? c with
    | some further => some further
    | Option.none => s.finish.bind fun last => after last (begin? c)

def read : Start → List Symbol → Option (List Token × Start)
  | s, [] => some ([], s)
  | s, x :: rest => (s.step x).bind fun (ts, next) => after ts (next.read rest)

@[simp] theorem after_nil (further : Option (List Token × Start)) : after [] further = further := by
  simp [after]

@[simp] theorem after_none (ts : List Token) : after ts Option.none = Option.none := rfl

@[simp] theorem after_some (ts us : List Token) (s : Start)
    : after ts (some (us, s)) = some (ts ++ us, s) := rfl

@[simp] theorem after_after (ts us : List Token) (further : Option (List Token × Start))
    : after ts (after us further) = after (ts ++ us) further := by
  simp [after, Function.comp_def]

theorem after_bind (ts : List Token) (further : Option (List Token × Start))
    (symbols : List Symbol)
    : (after ts further).bind (fun (us, next) => after us (next.read symbols))
      = after ts (further.bind fun (us, next) => after us (next.read symbols)) := by
  cases further with
  | none => rfl
  | some both =>
    obtain ⟨us, s⟩ := both
    simp

/-- A text is read in two parts, the second from where the first leaves off. -/
theorem read_append (s : Start) (a b : List Symbol)
    : s.read (a ++ b) = (s.read a).bind fun (ts, next) => after ts (next.read b) := by
  induction a generalizing s with
  | nil => simp [read]
  | cons x rest ih =>
    simp only [List.cons_append, read, ih]
    cases s.step x with
    | none => rfl
    | some first => exact (after_bind first.1 _ b).symm

theorem read_cons {s next : Start} {x : Symbol} {ts : List Token} (h : s.step x = some (ts, next))
    (rest : List Symbol)
    : s.read (x :: rest) = after ts (next.read rest) := by
  rw [read, h]
  rfl

theorem read_append_of_read {s next : Start} {a : List Symbol} {ts : List Token}
    (h : s.read a = some (ts, next)) (b : List Symbol)
    : s.read (a ++ b) = after ts (next.read b) := by
  rw [read_append, h]
  rfl

end Start

/-- The tokens of a text, if it has nothing but tokens and blanks. -/
def tokens? (symbols : List Symbol) : Option (List Token) :=
  (Start.none.read symbols).bind fun (ts, last) => last.finish.map (ts ++ ·)

-----------------------------------------------------------------------------------------
-- Texts one after the other
-----------------------------------------------------------------------------------------

/-- The tokens of a text that ends with a whole token: what follows goes on with none of them. -/
def Parted (symbols : List Symbol) (ts : List Token) : Prop :=
  Start.none.read symbols = some (ts, .none)

/-- A character that goes on with no token but a name in its quotes. -/
def Breaks (c : Char) : Prop :=
  isWordChar c = false ∧ c ≠ '=' ∧ c ≠ '"'

instance (c : Char) : Decidable (Breaks c) :=
  inferInstanceAs (Decidable (_ ∧ _))

theorem tokens?_eq_some {symbols : List Symbol} {ts : List Token}
    : tokens? symbols = some ts
      ↔ ∃ complete s last,
          Start.none.read symbols = some (complete, s)
          ∧ s.finish = some last
          ∧ complete ++ last = ts := by
  simp only [tokens?, Option.bind_eq_some_iff, Option.map_eq_some_iff, Prod.exists]
  constructor
  · rintro ⟨complete, s, read, last, finished, rfl⟩
    exact ⟨complete, s, last, read, finished, rfl⟩
  · rintro ⟨complete, s, last, read, finished, rfl⟩
    exact ⟨complete, s, read, last, finished, rfl⟩

/-- What is read after the tokens of a text is read with those tokens before it. -/
theorem tokens?_of_read {a b : List Symbol} {ts us : List Token}
    (read : Start.none.read a = Start.after ts (Start.none.read b)) (rest : tokens? b = some us)
    : tokens? a = some (ts ++ us) := by
  obtain ⟨complete, s, last, readRest, finished, rfl⟩ := tokens?_eq_some.1 rest
  rw [readRest] at read
  exact tokens?_eq_some.2 ⟨ts ++ complete, s, last, read, finished, List.append_assoc ..⟩

theorem Parted.tokens? {a : List Symbol} {ts : List Token} (h : Parted a ts)
    : tokens? a = some ts :=
  tokens?_eq_some.2 ⟨ts, .none, [], h, rfl, List.append_nil ts⟩

/-- After a text that ends with a whole token, reading goes on as at the start of a text. -/
theorem Parted.read {a : List Symbol} {ts : List Token} (h : Parted a ts) (b : List Symbol)
    : Start.none.read (a ++ b) = Start.after ts (Start.none.read b) :=
  Start.read_append_of_read h b

theorem Parted.append {a b : List Symbol} {ts us : List Token} (first : Parted a ts)
    (second : Parted b us)
    : Parted (a ++ b) (ts ++ us) := by
  rw [Parted, first.read, show Start.none.read b = _ from second]
  rfl

theorem Parted.tokens?_append {a b : List Symbol} {ts us : List Token} (first : Parted a ts)
    (second : Lexical.tokens? b = some us)
    : Lexical.tokens? (a ++ b) = some (ts ++ us) :=
  tokens?_of_read (first.read b) second

/-- A character that breaks is read after an open token as after none. -/
theorem Start.step_of_breaks {s : Start} {last : List Token} {c : Char} (h : Breaks c)
    (finished : s.finish = some last)
    : s.step (.char c) = after last (Start.none.step (.char c)) := by
  obtain ⟨word, equals, quote⟩ := h
  have stops : s.extend? c = Option.none := by
    cases s with
    | none => rfl
    | word cs => simp [extend?, word]
    | operator first => simp [extend?, equals]
    | name cs => simp [finish] at finished
    | closed cs => simp [extend?, quote]
  have whole : Start.none.step (.char c) = begin? c := by
    simp [step, extend?, finish]
  rw [whole]
  simp only [step, stops, finished, Option.bind_some]

/-- A text that goes on with no token before it, as its first character shows. -/
def Separates (symbols : List Symbol) : Prop :=
  ∃ c rest, symbols = .char c :: rest ∧ Breaks c

theorem Separates.append {a : List Symbol} (h : Separates a) (b : List Symbol)
    : Separates (a ++ b) := by
  obtain ⟨c, rest, rfl, breaks⟩ := h
  exact ⟨c, rest ++ b, rfl, breaks⟩

/-- After a text with tokens, one that goes on with none of them is read as at the start. -/
theorem Separates.read {a b : List Symbol} {ts : List Token} (h : Separates b)
    (first : Lexical.tokens? a = some ts)
    : Start.none.read (a ++ b) = Start.after ts (Start.none.read b) := by
  obtain ⟨c, rest, rfl, breaks⟩ := h
  obtain ⟨complete, s, last, read, finished, rfl⟩ := tokens?_eq_some.1 first
  simp only [Start.read_append, read, Option.bind_some, Start.read,
    Start.step_of_breaks breaks finished, Start.after_bind, Start.after_after]

/-- The tokens of a text and of another that goes on with none of them. -/
theorem Separates.tokens?_append {a b : List Symbol} {ts us : List Token} (h : Separates b)
    (first : Lexical.tokens? a = some ts) (second : Lexical.tokens? b = some us)
    : Lexical.tokens? (a ++ b) = some (ts ++ us) :=
  tokens?_of_read (h.read first) second

end ColumnStore.Lexical
