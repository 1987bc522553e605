/-
SqlScript/Text/Blank.lean

White space: the characters that separate the parts of a script line, that
surround a number, and that a condition may consist of without saying anything.

Besides the class itself this module strips a text and cuts its first word off.  A
word is a longest run of non-blank characters, so the cut loses nothing but blanks:
leading blanks, the word, and whatever follows it.
-/
import SqlScript.Text.Ranges

namespace SqlScript.Text

/-- The blank characters: tabs, line breaks and separators of every script, and
the four information separators below the space. -/
def blankRanges : Ranges :=
  [(0x9, 0xd), (0x1c, 0x20), (0x85, 0x85), (0xa0, 0xa0), (0x1680, 0x1680),
   (0x2000, 0x200a), (0x2028, 0x2029), (0x202f, 0x202f), (0x205f, 0x205f), (0x3000, 0x3000)]

theorem blankRanges_increasing : blankRanges.increasingFrom 0 = true := by decide

/-- Whether a character is white space. -/
def isBlank (c : Char) : Bool := blankRanges.has c

/-- Whether a text has nothing but white space in it. -/
def allBlank (cs : List Char) : Bool := cs.all isBlank

/-- A text without the white space on both sides. -/
def strip (cs : List Char) : List Char :=
  ((cs.dropWhile isBlank).reverse.dropWhile isBlank).reverse

/-- The first word of a text: its first longest run of non-blank characters, if
there is one. -/
def firstWord? (cs : List Char) : Option (List Char) :=
  match (cs.dropWhile isBlank).takeWhile fun c => !isBlank c with
  | [] => none
  | word => some word

theorem isBlank_space : isBlank ' ' = true := by decide

end SqlScript.Text
