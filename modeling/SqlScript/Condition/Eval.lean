/-
SqlScript/Condition/Eval.lean

The value of a condition.

The connectives look at their right operand only if the left one does not decide,
and their value is the operand that decides.  All other operators evaluate both
operands, the left one first.  Arithmetic on integers is exact, except that division
gives the nearest binary64 number; with a floating-point number on one side, an
integer on the other is rounded to one, and must not be too large for that.
Comparisons are exact in every case.

A tree has a value however deep it is.  A host that limits how deeply its functions call
each other cannot evaluate a tree that is deeper; such a limit is a resource of the host
and is left out here.
-/
import SqlScript.Condition.Coercion

namespace SqlScript.Condition

/-! ### Operators -/

/-- Two numbers as binary64 numbers. -/
def bothFloats (a b : Number) : Except Fault (Binary64 × Binary64) :=
  let toFloat : Number → Except Fault Binary64
    | .float x => .ok x
    | .int n =>
      match Binary64.ofInt? n with
      | some x => .ok x
      | none => .error (.number .largeInteger)
  match toFloat a with
  | .error f => .error f
  | .ok x =>
    match toFloat b with
    | .error f => .error f
    | .ok y => .ok (x, y)

/-- An operation on integers. -/
def intArith (op : Arith) (a b : Int) : Except Fault Number :=
  match op with
  | .add => .ok (.int (a + b))
  | .sub => .ok (.int (a - b))
  | .mul => .ok (.int (a * b))
  | .mod => .ok (.int (a.fmod b))
  | .div =>
    match Binary64.quotient? a b with
    | some x => .ok (.float x)
    | none => .error (.number .largeQuotient)

/-- An operation on binary64 numbers. -/
def floatArith (op : Arith) (x y : Binary64) : Binary64 :=
  match op with
  | .add => x.add y
  | .sub => x.sub y
  | .mul => x.mul y
  | .div => x.div y
  | .mod => x.mod y

/-- An operation on numbers. -/
def arith (op : Arith) (a b : Number) : Except Fault Number :=
  if op = .div ∧ b.isZero then .error (.evaluation .divisionByZero)
  else if op = .mod ∧ b.isZero then .error (.evaluation .modulusByZero)
  else
    match a, b with
    | .int m, .int n => intArith op m n
    | _, _ =>
      match bothFloats a b with
      | .error f => .error f
      | .ok (x, y) => .ok (.float (floatArith op x y))

/-- A comparison of numbers.  A number without a value differs from every number and
compares in no other way. -/
def compareNumbers (r : Relation) (a b : Number) : Bool :=
  match a.compare? b with
  | some order => r.holds order
  | none => r = .ne

/-- The order of two texts by code points. -/
def compareTexts (a b : String) : Ordering :=
  if a < b then .lt else if a = b then .eq else .gt

/-- Two values as numbers, the left one first. -/
def bothNumbers (left right : Value) : Except Fault (Number × Number) :=
  match number? left, number? right with
  | .ok a, .ok b => .ok (a, b)
  | .error f, _ => .error (.number f)
  | _, .error f => .error (.number f)

/-- Applies an operator to the values of its operands. -/
def apply (op : BinaryOp) (left right : Value) : Except Fault Value :=
  match op with
  | .concat =>
    match toText? left, toText? right with
    | .ok a, .ok b => .ok (.text (a ++ b))
    | .error f, _ => .error (.number f)
    | _, .error f => .error (.number f)
  | .text r =>
    match toText? left, toText? right with
    | .ok a, .ok b => .ok (.bool (r.holds (compareTexts a b)))
    | .error f, _ => .error (.number f)
    | _, .error f => .error (.number f)
  | .number r =>
    match bothNumbers left right with
    | .error f => .error f
    | .ok (a, b) => .ok (.bool (compareNumbers r a b))
  | .arith o =>
    match bothNumbers left right with
    | .error f => .error f
    | .ok (a, b) =>
      match arith o a b with
      | .ok n => .ok (ofNumber n)
      | .error f => .error f
  | op =>
    match bothNumbers left right with
    | .error f => .error f
    | .ok _ => .error (.evaluation (.unknownOperator op.name))

/-! ### Trees -/

/-- The value of a prefix operator on the value of its operand. -/
def applyUnary (op : UnaryOp) (v : Value) : Except Fault Value :=
  match op with
  | .not =>
    match truth? v with
    | .error f => .error (.number f)
    | .ok b => .ok (.bool !b)
  | .neg =>
    match number? v with
    | .error f => .error (.number f)
    | .ok n => .ok (ofNumber n.neg)

/-- The value of a condition. -/
def Tree.eval : Tree → Except Fault Value
  | .literal v => .ok v
  | .stray v => .error (.evaluation (.unknownNode v))
  | .unary op t =>
    match t.eval with
    | .error f => .error f
    | .ok v => applyUnary op v
  | .binary .and l r =>
    match l.eval with
    | .error f => .error f
    | .ok v =>
      match truth? v with
      | .error f => .error (.number f)
      | .ok b => if b then r.eval else .ok v
  | .binary .or l r =>
    match l.eval with
    | .error f => .error f
    | .ok v =>
      match truth? v with
      | .error f => .error (.number f)
      | .ok b => if b then .ok v else r.eval
  | .binary op l r =>
    match l.eval with
    | .error f => .error f
    | .ok v =>
      match r.eval with
      | .error f => .error f
      | .ok w => apply op v w

/-- Whether a condition holds.  A condition without any text does not. -/
def holds (text : String) : Except Fault Bool :=
  if Text.allBlank text.toList then .ok false
  else
    match parse text with
    | .error f => .error f
    | .ok tree =>
      match tree.eval with
      | .error f => .error f
      | .ok v =>
        match truth? v with
        | .error f => .error (.number f)
        | .ok b => .ok b

end SqlScript.Condition
