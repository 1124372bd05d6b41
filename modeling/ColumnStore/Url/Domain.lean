import ColumnStore.Text.Canonical
import ColumnStore.Text.Utf8
import ColumnStore.Url.Domain.Folding
import ColumnStore.Url.Domain.Label
import ColumnStore.Url.Percent
import ColumnStore.Url.Punycode

/-! A domain is labels with dots between them. Percent forms are decoded and characters folded;
labels with wide characters are then spelled in plain ones, and a label that is spelled so already
must spell a folded text.
-/

namespace ColumnStore.Url

open Text

/-- Whether a plain character may not stand in a domain: controls, blanks and what parts a URL. -/
def isForbidden (c : Char) : Bool :=
  c.toNat ≤ 0x20 || c = '\x7F'
    || ['%', '#', '/', ':', '<', '>', '?', '@', '[', '\\', ']', '^', '|'].contains c

def folded? (cs : List Char) : Option (List Char) :=
  (cs.mapM fold?).map fun forms => canonical forms.flatten

/-- How many characters may spell a label. -/
def maxSpelledLength : Nat := 2000

/-- The text that a label spells, which has wide characters and is folded already. -/
def spelled? (spelling : List Char) : Option (List Char) :=
  if spelling.getLast?.all (· = '-') ∨ spelling.any Punycode.isWide
      ∨ maxSpelledLength < spelling.length then none
  else (Punycode.decode? spelling).filter fun text => folded? text = some text

def labelText? : List Char → Option (List Char)
  | 'x' :: 'n' :: '-' :: '-' :: spelling => spelled? spelling
  | label => some label

def plainLabel (label : List Char) : List Char :=
  if label.any Punycode.isWide then ['x', 'n', '-', '-'] ++ Punycode.encode label else label

/-- Whether the labels of a domain may stand together. -/
def areSettled (labels : List (List Char)) : Bool :=
  (labels.all fun label => !label.any Punycode.isWide || isSettled label)
    && (!labels.any (·.any turnsRight) || labels.all isDirected)

/-- The domain that a host names, in plain characters. -/
def domain? (cs : List Char) : Option (List Char) := do
  let folded ← folded? (Utf8.decodeLenient (percentDecode (Utf8.encode cs)))
  if folded.any isForbidden then none
  let labels ← (folded.splitOn '.').mapM labelText?
  if areSettled labels then return ['.'].intercalate (labels.map plainLabel) else none

end ColumnStore.Url
