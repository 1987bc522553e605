/-
SqlScript/Number/Decimal.lean

Decimal numbers as databases return them: a coefficient and a power of ten, kept
apart, so that `1.50` and `1.5` are different values of equal size.

The text of a decimal shows exactly these two parts.  It is positional while the
exponent is not positive and at most five zeros follow the point, and has a power
of ten otherwise.

A decimal without a value has a sign and digits of its own, which mean nothing but are
shown.  It may be a signal; then it can be shown, but neither converted nor compared.
-/
import SqlScript.Number.Layout
import SqlScript.Text.Blank

namespace SqlScript

/-- A decimal number. -/
inductive Decimal where
  /-- A decimal without a value. -/
  | nan (negative signals : Bool) (mark : Nat)
  /-- An infinity. -/
  | infinite (negative : Bool)
  /-- `± coefficient * 10 ^ exponent`. -/
  | finite (negative : Bool) (coefficient : Nat) (exponent : Int)
  deriving DecidableEq, Repr, Inhabited

namespace Decimal

open SqlScript.Number

/-- The mark of a decimal without a value, whose name stands before it. -/
def mark? (name cs : List Char) : Option Nat :=
  if (cs.take name.length).map Char.toLower = name ∧ (cs.drop name.length).all Text.isDigit then
    some (Text.digitsValue (cs.drop name.length))
  else none

/-- Reads the text of a decimal.  White space around it, underscores in it and the case
of its letters do not matter. -/
def ofText? (s : String) : Option Decimal :=
  let cs := ((s.toList.dropWhile Text.isBlank).reverse.dropWhile Text.isBlank).reverse.filter
    (· ≠ '_')
  let signed := Numeral.sign cs
  if signed.2.map Char.toLower ∈ ["inf".toList, "infinity".toList] then
    some (.infinite signed.1)
  else
    match mark? "nan".toList signed.2, mark? "snan".toList signed.2 with
    | some mark, _ => some (.nan signed.1 false mark)
    | none, some mark => some (.nan signed.1 true mark)
    | none, none =>
      (Numeral.ofText? cs).map fun n => .finite n.negative n.coefficient n.exponent

/-- The text of a decimal without a value. -/
def nanText (negative signals : Bool) (mark : Nat) : String :=
  signed negative
    ((if signals then "sNaN".toList else "NaN".toList)
      ++ (if mark = 0 then [] else Text.natDigits mark))

/-- The coefficient written out around the decimal point, every digit kept. -/
def positional (coefficient : Nat) (exponent : Int) : List Char :=
  if 0 ≤ exponent then
    Text.natDigits coefficient ++ (if coefficient = 0 then [] else zeros exponent.toNat)
  else
    let places := (-exponent).toNat
    let ds := Text.natDigits coefficient
    let padded := zeros (places + 1 - ds.length) ++ ds
    padded.take (padded.length - places) ++ '.' :: padded.drop (padded.length - places)

/-- One digit, the others after the point, and a power of ten. -/
def scientific (coefficient : Nat) (exponent : Int) : List Char :=
  let ds := Text.natDigits coefficient
  let power := exponent + ds.length - 1
  let mark := 'E' :: (if power < 0 then '-' else '+') :: Text.natDigits power.natAbs
  match ds with
  | [] => []
  | [d] => d :: mark
  | d :: rest => d :: '.' :: (rest ++ mark)

/-- The text of a decimal. -/
def text : Decimal → String
  | .nan s q k => nanText s q k
  | .infinite s => signed s "Infinity".toList
  | .finite s c e =>
    signed s <|
      if e ≤ 0 ∧ -6 < (Text.digitCount c : Int) + e then positional c e else scientific c e

/-- The text of a decimal without a power of ten, whatever its exponent. -/
def fixedText : Decimal → String
  | .nan s q k => nanText s q k
  | .infinite s => signed s "Infinity".toList
  | .finite s c e => signed s (positional c e)

/-- Whether a decimal is zero, of either sign and any exponent. -/
def isZero : Decimal → Bool
  | .finite _ c _ => c == 0
  | _ => false

/-- Whether a decimal is a signal. -/
def signals : Decimal → Bool
  | .nan _ s _ => s
  | _ => false

/-- The nearest binary64 number. -/
def toBinary64 : Decimal → Binary64
  | .nan .. => .nan
  | .infinite s => .infinite s
  | .finite s c e => .ofDecimal s c e

/-- The integer part of a finite decimal, toward zero. -/
def truncate? : Decimal → Option Int
  | .finite s c e =>
    let ratio := scaled 10 c 1 e
    some (if s then -(ratio.1 / ratio.2 : Nat) else (ratio.1 / ratio.2 : Nat))
  | _ => none

end Decimal

end SqlScript
