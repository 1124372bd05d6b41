import ColumnStore.Identifier.Alias

/-! Names become SQL text in double quotes, segment by segment.
A function call is taken as it stands, an alias is quoted apart, and a table name gets the
prefix of its connection.
-/

namespace ColumnStore.Identifier

/-- Whether a text is a function call, which is not quoted: it ends in a parenthesis. -/
def isExpression (cs : List Char) : Bool :=
  (Text.trimEnd cs).getLast? = some ')'

def doubleQuotes (cs : List Char) : List Char :=
  cs.flatMap fun c => if c = '"' then ['"', '"'] else [c]

/-- One segment in double quotes; the star stands for itself. -/
def segment (cs : List Char) : List Char :=
  if cs = ['*'] then cs else '"' :: doubleQuotes cs ++ ['"']

def dotted (cs : List Char) : List Char :=
  ['.'].intercalate ((cs.splitOn '.').map segment)

def withAlias (base given : List Char) : List Char :=
  base ++ " as ".toList ++ segment given

/-- A column reference: a function call, a name with an alias, or segments between dots. -/
def column (cs : List Char) : List Char :=
  if isExpression cs then cs
  else match h : splitAlias? cs with
    | some (base, given) =>
      have := length_lt_of_splitAlias? h
      withAlias (column base) given
    | none => dotted cs
termination_by cs.length

/-- A table reference: as for a column, but the part after the last dot is one segment and
carries the prefix.
-/
def table (tablePrefix cs : List Char) : List Char :=
  if isExpression cs then tablePrefix ++ cs
  else match h : splitAlias? cs with
    | some (base, given) =>
      have := length_lt_of_splitAlias? h
      withAlias (table tablePrefix base) given
    | none =>
      match Text.cutLast? '.' cs with
      | some (database, name) => column database ++ '.' :: segment (tablePrefix ++ name)
      | none => segment (tablePrefix ++ cs)
termination_by cs.length

end ColumnStore.Identifier
