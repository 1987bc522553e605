/-
SqlScript/Text/Percent.lean

Texts in which bytes are written as a percent sign and two hexadecimal digits.

Encoding writes so the UTF-8 bytes of every character that is not safe.  ASCII letters,
ASCII digits and four marks are always safe; others may be added.  Decoding undoes this
wherever two hexadecimal digits follow a percent sign; bytes that encode nothing are
replaced.
-/
import SqlScript.Text.Utf8

namespace SqlScript.Text

/-! ### Decoding -/

/-- The value of a hexadecimal digit. -/
def hexValue? (c : Char) : Option Nat :=
  if '0' ≤ c ∧ c ≤ '9' then some (c.toNat - '0'.toNat)
  else if 'a' ≤ c ∧ c ≤ 'f' then some (c.toNat - 'a'.toNat + 10)
  else if 'A' ≤ c ∧ c ≤ 'F' then some (c.toNat - 'A'.toNat + 10)
  else none

/-- The bytes that an ASCII text stands for. -/
def percentBytes : List Char → List UInt8
  | [] => []
  | '%' :: a :: b :: cs =>
    match hexValue? a, hexValue? b with
    | some high, some low => (16 * high + low).toUInt8 :: percentBytes cs
    | _, _ => '%'.toNat.toUInt8 :: percentBytes (a :: b :: cs)
  | c :: cs => c.toNat.toUInt8 :: percentBytes cs

/-- Whether a character is in ASCII. -/
def isAscii (c : Char) : Bool := c.toNat < 0x80

/-- The text that a text with percent signs stands for.  Each run of ASCII characters is
decoded on its own. -/
def percentDecode (cs : List Char) : List Char :=
  (cs.splitBy fun a b => isAscii a == isAscii b).flatMap fun run =>
    if run.all isAscii then decodeReplacing (percentBytes run) else run

/-! ### Encoding -/

/-- Whether a character is always written as it is. -/
def isUnreserved (c : Char) : Bool := c.isAlphanum || "_.-~".contains c

/-- A byte as a percent sign and two digits. -/
def percentByte (b : UInt8) : List Char := '%' :: (hexDigits 2 b.toNat).map Char.toUpper

/-- Writes a text with percent signs; the characters of `safe` stay as they are. -/
def percentEncode (safe : String) (cs : List Char) : List Char :=
  cs.flatMap fun c =>
    if isUnreserved c || safe.contains c then [c]
    else (String.singleton c).toUTF8.toList.flatMap percentByte

end SqlScript.Text
