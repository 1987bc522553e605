/-
SqlScript/Text/Caseless.lean

Comparison with a lower-case ASCII word without regard to case.

Two letters outside ASCII are case variants of ASCII letters: the long s of `s` and
the kelvin sign of `k`.  They match as well.
-/
namespace SqlScript.Text

/-- The lower-case ASCII letter that a character is a case variant of; any other
character is returned as it is. -/
def foldCase (c : Char) : Char :=
  if c = '\u017f' then 's'
  else if c = '\u212a' then 'k'
  else c.toLower

/-- What follows a lower-case word at the front of a text, whose case is ignored. -/
def afterCaseless? : List Char → List Char → Option (List Char)
  | [], cs => some cs
  | _ :: _, [] => none
  | w :: ws, c :: cs => if foldCase c = w then afterCaseless? ws cs else none

end SqlScript.Text
