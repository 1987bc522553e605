/-
SqlScript/Engine/Operand.lean

Operands of instructions: instruction addresses, script names and settings.

An address is the first word of the statement.  If that word is the bind marker,
the address is the first bound value, and the others remain for the instruction that
is addressed.  Any value that has an integer part is an address; a text must be an
integer as a whole, with white space around it, a sign and single underscores between
digits allowed.
-/
import SqlScript.Failure
import SqlScript.Number.Integer
import SqlScript.Template
import SqlScript.Text.Blank
import SqlScript.Text.Caseless

namespace SqlScript

/-! ### Addresses -/

/-- A value as an address.  An infinite number is a fault of its own, and so is a value
that is no address and too long to be shown. -/
def Value.toAddress (v : Value) : Except Failure Int :=
  let invalid : Except Failure Int :=
    .error (if v.overlong then .fault (.number .longInteger) else .of (.invalidIndex v))
  let orInvalid (n : Option Int) : Except Failure Int :=
    match n with
    | some n => .ok n
    | none => invalid
  match v with
  | .bool b => .ok (if b then 1 else 0)
  | .int n => .ok n
  | .float (.infinite _) => .error (.fault (.number .infiniteFloat))
  | .float x => orInvalid x.truncate?
  | .decimal (.infinite _) => .error (.fault (.number .infiniteDecimal))
  | .decimal d => orInvalid d.truncate?
  | .text s => orInvalid (readInteger s.toList).toOption
  | .bytes bs =>
    if bs.all (· < 0x80) then orInvalid (readInteger (bs.map fun b => Char.ofNat b.toNat)).toOption
    else invalid
  | .null => invalid
  | .list _ => invalid

/-- The value that an instruction takes its address from, and the bound values that
remain. -/
def addressValue (word : List Char) (args : List Value) (marker : List Char) :
    Value × List Value :=
  match args with
  | [] => (.text (String.ofList word), [])
  | first :: rest =>
    if word = marker then (first, rest) else (.text (String.ofList word), args)

/-- The address in a statement, and the bound values that remain. -/
def addressOperand (r : Resolved) (marker : String) : Except Failure (Int × List Value) :=
  match Text.firstWord? r.text.toList with
  | none => .error (.of .missingIndex)
  | some word =>
    let operand := addressValue word r.args marker.toList
    match operand.1.toAddress with
    | .error f => .error f
    | .ok target => .ok (target, operand.2)

/-! ### Settings -/

/-- The name of a policy and nothing but white space after it. -/
def policy? (cs : List Char) : Option Blank :=
  [Blank.empty, .null, .zero].find? fun b =>
    match Text.afterCaseless? b.name.toList cs with
    | some rest => Text.allBlank rest
    | none => false

/-- What follows the word `blank` and an equals sign, both of which may be missing;
the sign cannot stand without the word. -/
def afterBlankWord (cs : List Char) : List Char :=
  match Text.afterCaseless? "blank".toList cs with
  | none => cs
  | some rest =>
    match rest.dropWhile Text.isBlank with
    | '=' :: rest => rest.dropWhile Text.isBlank
    | rest => rest

/-- The blank policy that a setting chooses. -/
def setting? (text : List Char) : Option Blank :=
  policy? (afterBlankWord (text.dropWhile Text.isBlank))

end SqlScript
