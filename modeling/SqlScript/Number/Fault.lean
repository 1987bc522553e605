/-
SqlScript/Number/Fault.lean

What can go wrong with numbers: integers too long to be read or written, results
too large for binary64, infinities where an integer is needed, and signals where a
number is needed.
-/
import SqlScript.Number.Numeral

namespace SqlScript

/-- Why a number could not be computed, converted or written. -/
inductive NumberFault where
  /-- An integer is too long to be read; the number of its digits. -/
  | longNumeral (digits : Nat)
  /-- An integer is too long to be written. -/
  | longInteger
  /-- An integer is too large for binary64. -/
  | largeInteger
  /-- A quotient of integers is too large for binary64. -/
  | largeQuotient
  /-- An infinite binary64 number has no integer part. -/
  | infiniteFloat
  /-- An infinite decimal has no integer part. -/
  | infiniteDecimal
  /-- A signal has no binary64 number. -/
  | signalConverted
  /-- A signal cannot be compared. -/
  | signalCompared
  deriving DecidableEq, Repr

/-- The wording of a fault. -/
def NumberFault.message : NumberFault → String
  | .longNumeral digits =>
    "Exceeds the limit (" ++ Text.natText integerLimit
      ++ " digits) for integer string conversion: value has " ++ Text.natText digits
      ++ " digits; use sys.set_int_max_str_digits() to increase the limit"
  | .longInteger =>
    "Exceeds the limit (" ++ Text.natText integerLimit
      ++ " digits) for integer string conversion;"
      ++ " use sys.set_int_max_str_digits() to increase the limit"
  | .largeInteger => "int too large to convert to float"
  | .largeQuotient => "integer division result too large for a float"
  | .infiniteFloat => "cannot convert float infinity to integer"
  | .infiniteDecimal => "cannot convert Infinity to integer"
  | .signalConverted => "cannot convert signaling NaN to float"
  | .signalCompared => "[<class 'decimal.InvalidOperation'>]"

end SqlScript
