import ColumnStore.Error
import ColumnStore.Json.Reader
import ColumnStore.Text.Trimming
import ColumnStore.Text.Utf8

/-! A streamed result has one row on each line. Rows are decoded as lines complete, wherever the
bytes were cut into chunks; a bad line or a failed chunk ends them.
-/

namespace ColumnStore.Row

/-- What stands for the account of why a text is no JSON. -/
def notJson : String := "<json>"

/-- The bytes before the first newline and the bytes after it, if there is a newline. -/
def cutLine? : List UInt8 → Option (List UInt8 × List UInt8)
  | [] => none
  | b :: rest =>
    if b = 10 then some ([], rest) else (cutLine? rest).map fun (line, more) => (b :: line, more)

theorem length_lt_of_cutLine? {bytes line rest : List UInt8}
    (h : cutLine? bytes = some (line, rest))
    : rest.length < bytes.length := by
  induction bytes generalizing line with
  | nil => simp [cutLine?] at h
  | cons b more ih =>
    simp only [cutLine?] at h
    split at h
    · cases h
      simp
    · obtain ⟨⟨l, r⟩, found, same⟩ := Option.map_eq_some_iff.1 h
      cases same
      simpa using Nat.lt_succ_of_lt (ih found)

/-- A stream of rows that is being read. -/
structure Decoder where
  /-- The chunks to come. -/
  source : List (Except Error (List UInt8))
  /-- The bytes that came and are not decoded yet. -/
  buffer : List UInt8 := []
  /-- Whether no more chunks are taken. -/
  ended : Bool := false

namespace Decoder

/-- What chunks weigh: their bytes and one for each of them. -/
def weight : List (Except Error (List UInt8)) → Nat
  | [] => 0
  | .ok chunk :: more => chunk.length + 1 + weight more
  | .error _ :: more => 1 + weight more

/-- What is left to be read; every step of the decoder makes it less. -/
def size (d : Decoder) : Nat :=
  weight d.source + d.buffer.length + (if d.ended then 0 else 1)

/-- A decoder with fewer bytes to decode, ended if it was, has less left. -/
theorem size_lt_of_buffer {d : Decoder} {rest : List UInt8} {ended : Bool}
    (shorter : rest.length < d.buffer.length)
    (h : (if ended then 0 else 1) ≤ (if d.ended then 0 else 1))
    : size { d with buffer := rest, ended } < d.size := by
  simp only [size]
  omega

section Items

variable (parse : List UInt8 → Except Error Row)

/-- The next item with the decoder after it. Blank lines are passed over, and a chunk is only taken
when no line is complete. A bad line or a failed chunk discards what is left; at the end of the
chunks the unfinished line is decoded too.
-/
def next? (d : Decoder) : Option (Except Error Row × Decoder) :=
  match found : cutLine? d.buffer with
  | some (line, rest) =>
    have := length_lt_of_cutLine? found
    if (Text.trimBytes line).isEmpty then next? { d with buffer := rest }
    else match parse (Text.trimBytes line) with
      | .ok row => some (.ok row, { d with buffer := rest })
      | .error e => some (.error e, { d with buffer := [], ended := true })
  | none =>
    if _ended : d.ended then
      if (Text.trimBytes d.buffer).isEmpty then none
      else some (parse (Text.trimBytes d.buffer), { d with buffer := [] })
    else match _coming : d.source with
      | [] => next? { d with ended := true }
      | .ok chunk :: source => next? { d with source, buffer := d.buffer ++ chunk }
      | .error e :: source => some (.error e, { source, ended := true })
termination_by d.size
decreasing_by all_goals simp_all [size, weight]; try omega

theorem size_lt_of_next? {d after : Decoder} {item : Except Error Row}
    (h : d.next? parse = some (item, after))
    : after.size < d.size := by
  fun_induction next? parse d with
  | case1 d line rest _ shorter _ ih =>
    exact Nat.lt_trans (ih h) (size_lt_of_buffer shorter (Nat.le_refl _))
  | case2 d line rest _ shorter =>
    cases h
    exact size_lt_of_buffer shorter (Nat.le_refl _)
  | case3 d line rest _ shorter =>
    cases h
    exact size_lt_of_buffer (by simp; omega) (by simp)
  | case4 => cases h
  | case5 d _ _ filled =>
    cases h
    refine size_lt_of_buffer (List.length_pos_iff.2 ?_) (Nat.le_refl _)
    rintro none
    simp [none, Text.trimBytes] at filled
  | case6 d _ going _ ih =>
    refine Nat.lt_trans (ih h) ?_
    simp [size, going]
  | case7 d _ _ chunk source coming ih =>
    refine Nat.lt_trans (ih h) ?_
    simp only [size, coming, weight, List.length_append]
    omega
  | case8 d _ going e source coming =>
    cases h
    simp only [size, coming, weight, going, List.length_nil]
    simp
    omega

def items (d : Decoder) : List (Except Error Row) :=
  match found : d.next? parse with
  | none => []
  | some (item, after) =>
    have := size_lt_of_next? parse found
    item :: after.items
termination_by d.size

end Items

end Decoder

/-- The rows of a stream of chunks, with what ends them early as the last item. -/
def decodeChunks (parse : List UInt8 → Except Error Row)
    (chunks : List (Except Error (List UInt8)))
    : List (Except Error Row) :=
  ({ source := chunks } : Decoder).items parse

/-- The row of a line that holds a JSON object. -/
def ofLine? (line : List UInt8) : Option Row := do
  match ← Json.parse? (← Text.Utf8.decode? line) with
  | .object members => some members
  | _ => none

/-- The row of a line. What is no object is reported with the first 200 characters of the line. -/
def ofLine (line : List UInt8) : Except Error Row :=
  match ofLine? line with
  | some row => .ok row
  | none => .error (.malformedResponse
      (notJson ++ ": " ++ String.ofList ((Text.Utf8.decodeLenient line).take 200)))

def decode (chunks : List (Except Error (List UInt8))) : List (Except Error Row) :=
  decodeChunks ofLine chunks

def collect : List (Except Error Row) → Except Error (List Row)
  | [] => .ok []
  | .error e :: _ => .error e
  | .ok row :: rest => (collect rest).map (row :: ·)

def firstValue? (rows : List Row) : Option Json :=
  (rows.head?.bind List.head?).map (·.2)

end ColumnStore.Row
