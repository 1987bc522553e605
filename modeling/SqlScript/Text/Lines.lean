/-
SqlScript/Text/Lines.lean

Lines of a text.

A line ends at a line break: line feed, carriage return, the two together as one
break, vertical tab, form feed, the three information separators, next line, and
the line and paragraph separators.  Breaks belong to no line, and the end of the
text ends a line only if something follows the last break.

Text that comes from a file has had its line ends unified: a carriage return, with
or without a line feed after it, has become a line feed.
-/
namespace SqlScript.Text

/-- Whether a character ends a line. -/
def isLineBreak (c : Char) : Bool :=
  c = '\n' || c = '\r' || c = '\x0b' || c = '\x0c' || c = '\x1c' || c = '\x1d' || c = '\x1e'
    || c = '\u0085' || c = '\u2028' || c = '\u2029'

/-- Puts a character at the front of the first of some lines. -/
def extendFirst (c : Char) : List (List Char) → List (List Char)
  | [] => [[c]]
  | line :: rest => (c :: line) :: rest

/-- The lines of a text, without their breaks. -/
def lines : List Char → List (List Char)
  | [] => []
  | '\r' :: '\n' :: cs => [] :: lines cs
  | c :: cs => if isLineBreak c then [] :: lines cs else extendFirst c (lines cs)

/-- Unifies line ends: carriage return, alone or before a line feed, becomes line
feed. -/
def unifyLineEnds : List Char → List Char
  | [] => []
  | '\r' :: '\n' :: cs => '\n' :: unifyLineEnds cs
  | c :: cs => (if c = '\r' then '\n' else c) :: unifyLineEnds cs

/-- Removes line feeds and carriage returns from the end of a text. -/
def dropLineEnd (cs : List Char) : List Char :=
  (cs.reverse.dropWhile fun c => c = '\n' || c = '\r').reverse

end SqlScript.Text
