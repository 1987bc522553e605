/-
SqlScript/Number/Integer.lean

Numbers that a text as a whole stands for.

Padding may surround the number, and single underscores may stand between its digits.
An integer has a sign and digits, of which there is a greatest number.  A
floating-point number is a numeral or the name of an infinity or of no number.
-/
import SqlScript.Number.Fault
import SqlScript.Text.Blank
import SqlScript.Text.Quoted

namespace SqlScript

/-! ### Padding and underscores -/

/-- White space that may surround a number: all but the information separators. -/
def isPadding (c : Char) : Bool := Text.isBlank c && !(0x1c ≤ c.toNat && c.toNat ≤ 0x1f)

/-- Removes the padding on both sides. -/
def unpad (cs : List Char) : List Char :=
  ((cs.dropWhile isPadding).reverse.dropWhile isPadding).reverse

/-- A text without its underscores, each of which must stand between two digits.  The
flag tells whether a digit stands before the text. -/
def dropUnderscores? (afterDigit : Bool) : List Char → Option (List Char)
  | [] => some []
  | '_' :: c :: cs =>
    if afterDigit && Text.isDigit c then (dropUnderscores? true cs).map (c :: ·) else none
  | c :: cs =>
    if c = '_' then none else (dropUnderscores? (Text.isDigit c) cs).map (c :: ·)

/-! ### Integers -/

/-- Why a text is no integer. -/
inductive IntegerError where
  | malformed
  /-- It has this many digits, which is more than the limit. -/
  | tooLong (digits : Nat)
  deriving DecidableEq, Repr

/-- The integer that a text stands for. -/
def readInteger (cs : List Char) : Except IntegerError Int :=
  let signed := Numeral.sign (unpad cs)
  match dropUnderscores? false signed.2 with
  | none => .error .malformed
  | some ds =>
    if ds.isEmpty || !ds.all Text.isDigit then .error .malformed
    else if integerLimit < ds.length then .error (.tooLong ds.length)
    else .ok (if signed.1 then -(Text.digitsValue ds : Int) else Text.digitsValue ds)

/-- The greatest length of a text that is shown in a message about it. -/
def shownLength : Nat := 200

/-- The wording of an error about a text. -/
def IntegerError.message (text : String) : IntegerError → String
  | .malformed =>
    "invalid literal for int() with base 10: "
      ++ String.ofList ((Text.quoted text).toList.take shownLength)
  | .tooLong digits => (NumberFault.longNumeral digits).message

/-! ### Floating-point numbers -/

/-- The names of what is no finite number. -/
def floatNames : List (List Char) := ["inf".toList, "infinity".toList, "nan".toList]

/-- Whether a text stands for a floating-point number. -/
def isFloat (cs : List Char) : Bool :=
  match dropUnderscores? false (unpad cs) with
  | none => false
  | some ds =>
    (Numeral.ofText? ds).isSome || floatNames.contains ((Numeral.sign ds).2.map Char.toLower)

end SqlScript
