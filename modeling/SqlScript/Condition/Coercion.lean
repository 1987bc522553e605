/-
SqlScript/Condition/Coercion.lean

Values as numbers, as texts and as truth values, and as literals of conditions.

Coercion is loose.  As a number, a text counts for the numeral at its front (after
white space) and for zero if there is none.  As a text, an absent value is empty,
and a whole number has no point.  False are absent values, zero, the empty text and
the text `0`.

`literal?` writes a value so that it can stand in a condition.  An absent value is
written as the blank policy says; a floating-point number has six places; whatever
is not a number is written as a quoted text.

A signal can be written, but it is neither a number nor a truth value.  A list counts for
its text, as a number and as a truth value too, so it is neither if it cannot be written.
-/
import SqlScript.Condition.Parser
import SqlScript.Command
import SqlScript.Text.Blank

namespace SqlScript.Condition

/-- The number at the front of a text, after white space; zero if there is none. -/
def leadingNumber (cs : List Char) : Number :=
  match Numeral.scan? (cs.dropWhile Text.isBlank) with
  | none => .int 0
  | some (n, _) => n.toNumber

/-- A value as a number. -/
def toNumber : Value → Number
  | .null => .int 0
  | .bool b => .int (if b then 1 else 0)
  | .int n => .int n
  | .float x => .float x
  | .decimal d => .float d.toBinary64
  | .text s => leadingNumber s.toList
  | v => leadingNumber v.display.toList

/-- Whether a value is a signal. -/
def signals : Value → Bool
  | .decimal d => d.signals
  | _ => false

/-- Whether a value counts for its plain text, and an integer in it is too long for one. -/
def unwritable : Value → Bool
  | .list vs => Value.anyOverlong vs
  | _ => false

/-- A value as a number, unless it is a signal or a list that cannot be written. -/
def number? (v : Value) : Except NumberFault Number :=
  if signals v then .error .signalConverted
  else if unwritable v then .error .longInteger
  else .ok (toNumber v)

/-- A value as a text, unless an integer in it is too long. -/
def toText? : Value → Except NumberFault String
  | .null => .ok ""
  | .bool b => .ok (if b then "1" else "")
  | .float x =>
    match x.toInt? with
    | some n => .ok (Text.intText n)
    | none => .ok x.shortestText
  | v => v.text?

/-- Whether a value is true. -/
def truthy : Value → Bool
  | .null => false
  | .bool b => b
  | .int n => n != 0
  | .float x => !x.isZero
  | .decimal d => !d.isZero
  | .text s => s != "" && s != "0"
  | .bytes _ => true
  | .list _ => true

/-- Whether a value is true, unless it is a signal or a list that cannot be written. -/
def truth? (v : Value) : Except NumberFault Bool :=
  if signals v then .error .signalCompared
  else if unwritable v then .error .longInteger
  else .ok (truthy v)

/-- A number as a value. -/
def ofNumber : Number → Value
  | .int n => .int n
  | .float x => .float x

/-! ### Literals -/

/-- A value as a literal of a condition, unless an integer in it is too long. -/
def literal? (blank : Blank) : Value → Except NumberFault String
  | .null => .ok blank.literal
  | .bool b => .ok (if b then "1" else "0")
  | .int n => Value.text? (.int n)
  | .float x => .ok x.fixedText
  | .decimal d => .ok d.fixedText
  | v =>
    match toText? v with
    | .error f => .error f
    | .ok s => .ok (String.ofList (quote s.toList))

end SqlScript.Condition
