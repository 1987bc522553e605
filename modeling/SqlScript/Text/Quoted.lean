/-
SqlScript/Text/Quoted.lean

Quoted forms of texts and of byte strings, as messages and logs show them.

A quoted text stands between single quotes, or between double quotes if it holds a
single quote and no double one.  The quote that was chosen and the backslash are
escaped by a backslash; line feed, carriage return and tab have short escapes; any
other character that is not printable is shown by its code point in hexadecimal.
A quoted byte string follows the same rule with a `b` in front, and every byte
outside printable ASCII is shown in hexadecimal.
-/
import SqlScript.Text.Printable

namespace SqlScript.Text

/-- The quote for a text: double only if the text has single quotes and no double
ones. -/
def chooseQuote (cs : List Char) : Char :=
  if cs.contains '\'' && !cs.contains '"' then '"' else '\''

/-- The lower-case hexadecimal digits of `n`, padded with zeros to `width`. -/
def hexDigits (width n : Nat) : List Char :=
  let ds := Nat.toDigits 16 n
  List.replicate (width - ds.length) '0' ++ ds

/-- A character shown by its code point. -/
def codeEscape (c : Char) : List Char :=
  if c.toNat ≤ 0xff then '\\' :: 'x' :: hexDigits 2 c.toNat
  else if c.toNat ≤ 0xffff then '\\' :: 'u' :: hexDigits 4 c.toNat
  else '\\' :: 'U' :: hexDigits 8 c.toNat

/-- A character inside a text that stands between the given quotes. -/
def escapeChar (quote c : Char) : List Char :=
  if c = quote ∨ c = '\\' then ['\\', c]
  else if c = '\n' then ['\\', 'n']
  else if c = '\r' then ['\\', 'r']
  else if c = '\t' then ['\\', 't']
  else if isPrintable c then [c]
  else codeEscape c

/-- A text between quotes. -/
def quoted (s : String) : String :=
  let cs := s.toList
  let quote := chooseQuote cs
  String.ofList (quote :: (cs.flatMap (escapeChar quote) ++ [quote]))

/-- A byte inside a byte string that stands between the given quotes. -/
def escapeByte (quote : Char) (b : UInt8) : List Char :=
  let c := Char.ofNat b.toNat
  if c = quote ∨ c = '\\' then ['\\', c]
  else if c = '\n' then ['\\', 'n']
  else if c = '\r' then ['\\', 'r']
  else if c = '\t' then ['\\', 't']
  else if 0x20 ≤ b.toNat ∧ b.toNat < 0x7f then [c]
  else '\\' :: 'x' :: hexDigits 2 b.toNat

/-- A byte string between quotes. -/
def quotedBytes (bs : List UInt8) : String :=
  let quote := chooseQuote (bs.map fun b => Char.ofNat b.toNat)
  String.ofList ('b' :: quote :: (bs.flatMap (escapeByte quote) ++ [quote]))

end SqlScript.Text
