/-
SqlScript/Number/Binary64.lean

Floating-point numbers of the binary64 format, as exact fractions.

A finite number is a sign, a significand below `2 ^ 53` and a power of two that is
at least `2 ^ (-1074)`; the significand reaches `2 ^ 52` unless the exponent is the
least one.  Zero has two signs.  Each arithmetic operation computes the exact
result as a fraction of natural numbers and rounds it once (`ofRatio`), to nearest
with ties to even, which is what the format prescribes for every operation.  An
exact result too large for the format becomes infinite.

Comparison never rounds: numbers are compared as the exact dyadic fractions they
are, so that an integer of any size can be compared with a floating-point number.
-/
import SqlScript.Number.Rounding

namespace SqlScript

/-- A number of the binary64 format. -/
inductive Binary64 where
  /-- The result of an operation without a value. -/
  | nan
  /-- An infinity. -/
  | infinite (negative : Bool)
  /-- `± significand * 2 ^ exponent`. -/
  | finite (negative : Bool) (significand : Nat) (exponent : Int)
  deriving DecidableEq, Repr, Inhabited

namespace Binary64

open SqlScript.Number

/-- The least exponent of the format. -/
def minExponent : Int := -1074

/-- The greatest exponent of the format. -/
def maxExponent : Int := 971

/-- A zero with the given sign. -/
def zero (negative : Bool) : Binary64 := .finite negative 0 minExponent

/-! ### Rounding into the format -/

/-- The exponent of the unit in the last place at `num / den`: 52 binary places
below the leading bit, and never below the least exponent. -/
def unitExponent (num den : Nat) : Int :=
  let guess : Int := (num.log2 : Int) - den.log2
  let low := scaled 2 1 1 guess
  let lead := if low.1 * den ≤ num * low.2 then guess else guess - 1
  max (lead - 52) minExponent

/-- The number nearest to `± num / den`, for a positive denominator. -/
def ofRatio (negative : Bool) (num den : Nat) : Binary64 :=
  if num = 0 then zero negative
  else
    let unit := unitExponent num den
    let units := scaled 2 num den (-unit)
    let significand := roundDiv units.1 units.2
    let carried := significand = Nat.pow 2 53
    let exponent := if carried then unit + 1 else unit
    if maxExponent < exponent then .infinite negative
    else .finite negative (if carried then Nat.pow 2 52 else significand) exponent

/-- The number nearest to `± m * 2 ^ e`. -/
def ofDyadic (negative : Bool) (m : Nat) (e : Int) : Binary64 :=
  let ratio := scaled 2 m 1 e
  ofRatio negative ratio.1 ratio.2

/-- The number nearest to `± coefficient * 10 ^ exponent`.  Exponents far outside
the format are settled by the position of the leading digit alone, so that no huge
power is computed for them. -/
def ofDecimal (negative : Bool) (coefficient : Nat) (exponent : Int) : Binary64 :=
  if coefficient = 0 then zero negative
  else
    let point := (Text.digitCount coefficient : Int) + exponent
    if 310 < point then .infinite negative
    else if point < -325 then zero negative
    else
      let ratio := scaled 10 coefficient 1 exponent
      ofRatio negative ratio.1 ratio.2

/-- The number nearest to an integer, unless that is beyond the format. -/
def ofInt? (n : Int) : Option Binary64 :=
  match ofRatio (n < 0) n.natAbs 1 with
  | .infinite _ => none
  | x => some x

/-- The number nearest to the quotient of two integers, unless that is beyond the
format.  A zero quotient is negative when exactly one of the two is. -/
def quotient? (a b : Int) : Option Binary64 :=
  match ofRatio ((a < 0) != (b < 0)) a.natAbs b.natAbs with
  | .infinite _ => none
  | x => some x

/-! ### Signs, zeros and integers -/

/-- Whether a number is zero, of either sign. -/
def isZero : Binary64 → Bool
  | .finite _ m _ => m == 0
  | _ => false

/-- Whether a number is below zero; a zero is not, and neither is `nan`. -/
def isNegative : Binary64 → Bool
  | .finite s m _ => s && m != 0
  | .infinite s => s
  | .nan => false

/-- The number with the other sign. -/
def neg : Binary64 → Binary64
  | .nan => .nan
  | .infinite s => .infinite (!s)
  | .finite s m e => .finite (!s) m e

/-- The magnitude of a finite number as a fraction. -/
def magnitude (m : Nat) (e : Int) : Nat × Nat := scaled 2 m 1 e

/-- The integer a number is, if it is one. -/
def toInt? : Binary64 → Option Int
  | .finite s m e =>
    let ratio := magnitude m e
    if ratio.1 % ratio.2 = 0 then
      some (if s then -(ratio.1 / ratio.2 : Nat) else (ratio.1 / ratio.2 : Nat))
    else none
  | _ => none

/-- The integer part of a finite number, toward zero. -/
def truncate? : Binary64 → Option Int
  | .finite s m e =>
    let ratio := magnitude m e
    some (if s then -(ratio.1 / ratio.2 : Nat) else (ratio.1 / ratio.2 : Nat))
  | _ => none

/-! ### Arithmetic -/

/-- A signed significand at an exponent that is not above its own. -/
def aligned (negative : Bool) (m : Nat) (e low : Int) : Int :=
  let n : Int := (m * Nat.pow 2 (e - low).toNat : Nat)
  if negative then -n else n

/-- The sum.  A zero sum is negative only if both terms are. -/
def add : Binary64 → Binary64 → Binary64
  | .nan, _ => .nan
  | _, .nan => .nan
  | .infinite s, .infinite t => if s = t then .infinite s else .nan
  | .infinite s, .finite .. => .infinite s
  | .finite .., .infinite t => .infinite t
  | .finite s m e, .finite t n f =>
    let low := min e f
    let sum := aligned s m e low + aligned t n f low
    if sum = 0 then zero (s && t)
    else ofDyadic (sum < 0) sum.natAbs low

/-- The difference. -/
def sub (x y : Binary64) : Binary64 := add x y.neg

/-- The product. -/
def mul : Binary64 → Binary64 → Binary64
  | .nan, _ => .nan
  | _, .nan => .nan
  | .infinite s, .infinite t => .infinite (s != t)
  | .infinite s, .finite t n _ => if n = 0 then .nan else .infinite (s != t)
  | .finite s m _, .infinite t => if m = 0 then .nan else .infinite (s != t)
  | .finite s m e, .finite t n f => ofDyadic (s != t) (m * n) (e + f)

/-- The quotient. -/
def div : Binary64 → Binary64 → Binary64
  | .nan, _ => .nan
  | _, .nan => .nan
  | .infinite _, .infinite _ => .nan
  | .infinite s, .finite t _ _ => .infinite (s != t)
  | .finite s _ _, .infinite t => zero (s != t)
  | .finite s m e, .finite t n f =>
    if n = 0 then (if m = 0 then .nan else .infinite (s != t))
    else
      let ratio := scaled 2 m n (e - f)
      ofRatio (s != t) ratio.1 ratio.2

/-- The remainder of the division toward zero: it has the sign of the dividend. -/
def rem : Binary64 → Binary64 → Binary64
  | .nan, _ => .nan
  | _, .nan => .nan
  | .infinite _, _ => .nan
  | .finite s m e, .infinite _ => .finite s m e
  | .finite s m e, .finite _ n f =>
    if n = 0 then .nan
    else
      let low := min e f
      ofDyadic s ((m * Nat.pow 2 (e - low).toNat) % (n * Nat.pow 2 (f - low).toNat)) low

/-- The remainder of the division toward the floor: it has the sign of the divisor,
a zero remainder included. -/
def mod (x y : Binary64) : Binary64 :=
  let r := rem x y
  if r.isZero then
    match y with
    | .finite t _ _ => zero t
    | .infinite t => zero t
    | .nan => .nan
  else if y.isNegative != r.isNegative then add r y
  else r

end Binary64

/-! ### Numbers of conditions -/

/-- A number as conditions compute with it: an integer of any size or a
floating-point number. -/
inductive Number where
  | int (n : Int)
  | float (x : Binary64)
  deriving DecidableEq, Repr, Inhabited

namespace Number

/-- Where a number lies on the extended line. -/
inductive Extent where
  /-- Below every integer. -/
  | bottom
  /-- At `m * 2 ^ e`. -/
  | dyadic (m e : Int)
  /-- Above every integer. -/
  | top

/-- The place of a number; `nan` has none. -/
def extent? : Number → Option Extent
  | .int n => some (.dyadic n 0)
  | .float .nan => none
  | .float (.infinite s) => some (if s then .bottom else .top)
  | .float (.finite s m e) => some (.dyadic (if s then -(m : Int) else m) e)

/-- The exact order of two places. -/
def Extent.compare : Extent → Extent → Ordering
  | .bottom, .bottom => .eq
  | .bottom, _ => .lt
  | _, .bottom => .gt
  | .top, .top => .eq
  | .top, _ => .gt
  | _, .top => .lt
  | .dyadic m e, .dyadic n f =>
    let low := min e f
    let scale (k : Int) : Int := Nat.pow 2 (k - low).toNat
    Ord.compare (m * scale e) (n * scale f)

/-- The exact order of two numbers; none if one of them is `nan`. -/
def compare? (a b : Number) : Option Ordering :=
  match a.extent?, b.extent? with
  | some p, some q => some (p.compare q)
  | _, _ => none

/-- Whether a number is zero. -/
def isZero : Number → Bool
  | .int n => n == 0
  | .float x => x.isZero

/-- The number with the other sign. -/
def neg : Number → Number
  | .int n => .int (-n)
  | .float x => .float x.neg

end Number

end SqlScript
