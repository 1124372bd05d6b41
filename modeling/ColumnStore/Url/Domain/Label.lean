import ColumnStore.Text.Direction
import ColumnStore.Text.Joining
import ColumnStore.Text.Marks

/-! The labels of a domain must read the same wherever they stand. No mark may go over to what
stands before the label, a joiner needs letters to join, and letters of both directions do not mix.
-/

namespace ColumnStore.Url

open Text

/-- Whether the next character that counts meets a test. -/
def reaches (test : Char → Bool) (cs : List Char) : Bool :=
  (cs.dropWhile isTransparent).head?.any test

/-- Whether a joiner may stand between the characters before it, last one first, and those after
it: after a mark that joins, or, if it keeps letters apart, between letters that would join.
-/
def isJoinerFit (c : Char) (before after : List Char) : Bool :=
  match before with
  | [] => false
  | last :: _ =>
    isJoiningMark last
      || (c = '\u200C' && reaches joinsNext before && reaches joinsPrevious after)

/-- Whether every joiner in a text has its place. -/
def joinersFit (before : List Char) : List Char → Bool
  | [] => true
  | c :: rest =>
    ((c ≠ '\u200C' && c ≠ '\u200D') || isJoinerFit c before rest)
      && joinersFit (c :: before) rest

/-- How long a label with wide characters may be. -/
def maxWideLength : Nat := 1000

/-- Whether a label with wide characters reads the same wherever it stands. -/
def isSettled (label : List Char) : Bool :=
  !(label.head?.any isMark) && joinersFit [] label && label.length ≤ maxWideLength

/-- Whether a character makes the direction of a domain matter. -/
def turnsRight (c : Char) : Bool :=
  directionOf c = .right || directionOf c = .arabicNumber

/-- A text without the marks at its end. -/
def withoutLastMarks (cs : List Char) : List Char :=
  (cs.reverse.dropWhile fun c => directionOf c = .mark).reverse

/-- Whether a label has one direction: it starts with a letter, ends in one or in a number, and
holds no letter of the other direction. Among right-to-left letters, all numbers are of one kind.
-/
def isDirected (label : List Char) : Bool :=
  match label with
  | [] => true
  | first :: rest =>
    let directions := (withoutLastMarks rest).map directionOf
    let ends (allowed : List Direction) : Bool :=
      directions.getLast?.all fun d => allowed.contains d
    match directionOf first with
    | .left =>
      ends [.left, .europeanNumber]
        && directions.all fun d => d ≠ .right && d ≠ .arabicNumber
    | .right =>
      ends [.right, .europeanNumber, .arabicNumber] && directions.all (· ≠ .left)
        && !(directions.contains .europeanNumber && directions.contains .arabicNumber)
    | _ => false

end ColumnStore.Url
