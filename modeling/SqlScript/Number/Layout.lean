/-
SqlScript/Number/Layout.lean

Decimal texts of binary64 numbers.

Three forms occur.  The *shortest* form has the fewest digits that read back as the
same number, and of several such decimals the nearest one.  The *general* form has
at most six significant digits, without trailing zeros.  The *fixed* form has six
places after the point.  The last two round the exact value, half to even.

Digits and layout are separate: `shortest` and `significant` give a coefficient
and the place of its decimal point, and a `Layout` says up to where such digits are
written positionally and when a power of ten takes over.
-/
import SqlScript.Number.Numeral

namespace SqlScript.Number

/-! ### Digits and the place of the point -/

/-- Decimal digits, the first one not zero, and the number of them that stand
before the decimal point (negative: so many zeros follow the point first). -/
structure Digits where
  digits : List Char
  point : Int
  deriving Repr, DecidableEq

/-- Removes the zeros at the end. -/
def dropZeros (ds : List Char) : List Char := (ds.reverse.dropWhile (· = '0')).reverse

/-- The digits of `coefficient * 10 ^ exponent`, for a positive coefficient. -/
def Digits.of (coefficient : Nat) (exponent : Int) : Digits where
  digits := dropZeros (Text.natDigits coefficient)
  point := Text.digitCount coefficient + exponent

/-- The candidate of `count` digits for the shortest form of the positive number
`x`, whose magnitude is `num / den`: of its two neighbours among the decimals of
that many digits, one that reads back, and the nearer one if both do. -/
def candidate? (x : Binary64) (num den : Nat) (count : Nat) : Option Digits :=
  let unit := pointPosition num den - count
  let units := scaled 10 num den (-unit)
  let low := units.1 / units.2
  let reads (n : Nat) : Bool := Binary64.ofDecimal false n unit == x
  let nearest := roundDiv units.1 units.2
  if reads nearest then some (.of nearest unit)
  else if reads low then some (.of low unit)
  else if reads (low + 1) then some (.of (low + 1) unit)
  else none

/-- The fewest digits that read back as the positive number `m * 2 ^ e`.  Seventeen
always do. -/
def shortest (m : Nat) (e : Int) : Digits :=
  let x := Binary64.finite false m e
  let ratio := Binary64.magnitude m e
  match (List.range 17).findSome? fun i => candidate? x ratio.1 ratio.2 (i + 1) with
  | some ds => ds
  | none => ⟨['0'], 1⟩

/-- The positive number `m * 2 ^ e` rounded to `count` significant digits. -/
def significant (count : Nat) (m : Nat) (e : Int) : Digits :=
  let ratio := Binary64.magnitude m e
  let unit := pointPosition ratio.1 ratio.2 - count
  let units := scaled 10 ratio.1 ratio.2 (-unit)
  .of (roundDiv units.1 units.2) unit

/-! ### Layout -/

/-- How digits are laid out as a text. -/
structure Layout where
  /-- Positional while the point is at most this far to the right. -/
  farthest : Int
  /-- Whether an integer keeps a point and a zero. -/
  keepsPoint : Bool

/-- The layout of the shortest form. -/
def Layout.shortest : Layout := ⟨16, true⟩

/-- The layout of the general form with six digits. -/
def Layout.general : Layout := ⟨6, false⟩

/-- A run of zeros. -/
def zeros (n : Nat) : List Char := List.replicate n '0'

/-- Digits written out around the decimal point. -/
def Digits.positional (ds : Digits) (keepsPoint : Bool) : List Char :=
  if ds.point ≤ 0 then '0' :: '.' :: (zeros (-ds.point).toNat ++ ds.digits)
  else if ds.digits.length ≤ ds.point.toNat then
    ds.digits ++ zeros (ds.point.toNat - ds.digits.length)
      ++ (if keepsPoint then ['.', '0'] else [])
  else ds.digits.take ds.point.toNat ++ '.' :: ds.digits.drop ds.point.toNat

/-- A power of ten with a sign and at least two digits. -/
def powerText (e : Int) : List Char :=
  let ds := Text.natDigits e.natAbs
  'e' :: (if e < 0 then '-' else '+') :: (if ds.length < 2 then '0' :: ds else ds)

/-- Digits written as one digit, the others after the point, and a power of ten. -/
def Digits.scientific (ds : Digits) : List Char :=
  match ds.digits with
  | [] => []
  | [d] => d :: powerText (ds.point - 1)
  | d :: rest => d :: '.' :: (rest ++ powerText (ds.point - 1))

/-- Positional from `0.0001` up to the layout's limit, with a power of ten beyond. -/
def Layout.write (layout : Layout) (ds : Digits) : List Char :=
  if -4 < ds.point ∧ ds.point ≤ layout.farthest then ds.positional layout.keepsPoint
  else ds.scientific

/-- Puts a minus sign in front of a negative number. -/
def signed (negative : Bool) (cs : List Char) : String :=
  String.ofList (if negative then '-' :: cs else cs)

end SqlScript.Number

namespace SqlScript.Binary64

open SqlScript.Number

/-- The shortest text that reads back as the number. -/
def shortestText : Binary64 → String
  | .nan => "nan"
  | .infinite s => signed s "inf".toList
  | .finite s m e =>
    signed s (if m = 0 then "0.0".toList else Layout.shortest.write (shortest m e))

/-- The number to six significant digits, without trailing zeros. -/
def generalText : Binary64 → String
  | .nan => "nan"
  | .infinite s => signed s "inf".toList
  | .finite s m e =>
    signed s (if m = 0 then ['0'] else Layout.general.write (significant 6 m e))

/-- The number to six places after the point. -/
def fixedText : Binary64 → String
  | .nan => "nan"
  | .infinite s => signed s "inf".toList
  | .finite s m e =>
    let ratio := magnitude m e
    let ds := Text.natDigits (roundDiv (ratio.1 * Nat.pow 10 6) ratio.2)
    let padded := zeros (7 - ds.length) ++ ds
    signed s (padded.take (padded.length - 6) ++ '.' :: padded.drop (padded.length - 6))

end SqlScript.Binary64
