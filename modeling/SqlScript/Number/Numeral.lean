/-
SqlScript/Number/Numeral.lean

Numerals: the written forms of numbers.

A numeral is an optional sign, digits with an optional decimal point (at least one
digit on one side of it), and an optional power of ten.  `Numeral.scan?` takes the
longest numeral off the front of a text and returns what follows it, so that a
text such as `12abc` has the numeric prefix `12`.

A numeral without a point and a power is an integer, of at most `integerLimit`
digits; every numeral is also a binary64 number, the nearest one.
-/
import SqlScript.Number.Binary64

namespace SqlScript

/-- The greatest number of digits of an integer that is read from a text or
written to one. -/
def integerLimit : Nat := 4300

/-- A number as it is written. -/
structure Numeral where
  /-- Whether a minus sign stands in front. -/
  negative : Bool
  /-- The digits before the point. -/
  whole : List Char
  /-- The digits after the point, if there is a point. -/
  fraction : Option (List Char)
  /-- The power of ten: whether it is negative, and its digits. -/
  power : Option (Bool × List Char)
  deriving Repr, DecidableEq

namespace Numeral

/-- Takes an optional sign off the front: whether it is a minus, and the rest. -/
def sign : List Char → Bool × List Char
  | '-' :: cs => (true, cs)
  | '+' :: cs => (false, cs)
  | cs => (false, cs)

/-- Takes the longest run of digits off the front. -/
def digits (cs : List Char) : List Char × List Char :=
  (cs.takeWhile Text.isDigit, cs.dropWhile Text.isDigit)

/-- Takes digits with an optional point off the front; at least one digit is
required on one of the two sides. -/
def body? (cs : List Char) : Option ((List Char × Option (List Char)) × List Char) :=
  match digits cs with
  | ([], '.' :: rest) =>
    match digits rest with
    | ([], _) => none
    | (ds, rest) => some (([], some ds), rest)
  | ([], _) => none
  | (ds, '.' :: rest) => some ((ds, some (digits rest).1), (digits rest).2)
  | (ds, rest) => some ((ds, none), rest)

/-- Takes a power of ten off the front, if a complete one stands there. -/
def power? : List Char → Option (Bool × List Char) × List Char
  | c :: cs =>
    if c = 'e' ∨ c = 'E' then
      match digits (sign cs).2 with
      | ([], _) => (none, c :: cs)
      | (ds, rest) => (some ((sign cs).1, ds), rest)
    else (none, c :: cs)
  | [] => (none, [])

/-- Takes the longest numeral off the front of a text. -/
def scan? (cs : List Char) : Option (Numeral × List Char) :=
  match body? (sign cs).2 with
  | none => none
  | some ((whole, fraction), rest) =>
    some (⟨(sign cs).1, whole, fraction, (power? rest).1⟩, (power? rest).2)

/-- The numeral that a text consists of. -/
def ofText? (cs : List Char) : Option Numeral :=
  match scan? cs with
  | some (n, []) => some n
  | _ => none

/-- All digits of a numeral as one number. -/
def coefficient (n : Numeral) : Nat := Text.digitsValue (n.whole ++ n.fraction.getD [])

/-- The power of ten that the coefficient is multiplied with. -/
def exponent (n : Numeral) : Int :=
  let power : Int := match n.power with
    | none => 0
    | some (true, ds) => -(Text.digitsValue ds : Int)
    | some (false, ds) => Text.digitsValue ds
  power - (n.fraction.getD []).length

/-- The nearest binary64 number. -/
def toBinary64 (n : Numeral) : Binary64 := .ofDecimal n.negative n.coefficient n.exponent

/-- The number a numeral stands for: an integer if it has neither point nor power
and no more digits than the limit, a binary64 number otherwise. -/
def toNumber (n : Numeral) : Number :=
  match n.fraction, n.power with
  | none, none =>
    if n.whole.length ≤ integerLimit then
      .int (if n.negative then -(Text.digitsValue n.whole : Int) else Text.digitsValue n.whole)
    else .float n.toBinary64
  | _, _ => .float n.toBinary64

end Numeral

/-- Reads a binary64 number in the form that it is shown in: a numeral, or one of
`inf`, `-inf` and `nan`. -/
def Binary64.ofText? (s : String) : Option Binary64 :=
  if s = "nan" then some .nan
  else if s = "inf" then some (.infinite false)
  else if s = "-inf" then some (.infinite true)
  else (Numeral.ofText? s.toList).map Numeral.toBinary64

end SqlScript
