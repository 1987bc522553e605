/-
SqlScript/Fault.lean

Faults: what ends an evaluation without being an error of a script.

Conditions have two kinds of their own, those of their form and those of their
evaluation.  A run turns these into errors of the instruction that holds the
condition.  Faults of numbers, a breakdown of the database, a path that is too long and
a damaged file are not turned into anything: they end a run as they are.
-/
import SqlScript.Archive.Gzip
import SqlScript.Condition.Token

namespace SqlScript

namespace Condition

/-- What is wrong with the form of a condition. -/
inductive FormError where
  /-- A character starts no token. -/
  | illegal (c : Char) (pos : Nat)
  /-- A token cannot stand where it does. -/
  | unexpected (token : Token)
  /-- The condition ends too early. -/
  | unexpectedEnd
  deriving Repr

/-- The wording of an error of form. -/
def FormError.message : FormError → String
  | .illegal c pos =>
    "Illegal character '" ++ String.singleton c ++ "' at position " ++ Text.natText pos
  | .unexpected token =>
    "Syntax error at '" ++ token.value.plain ++ "' (position " ++ Text.natText token.pos ++ ")"
  | .unexpectedEnd => "Unexpected end of condition"

/-- Why a condition has no value. -/
inductive EvalError where
  | divisionByZero
  | modulusByZero
  | unknownOperator (name : String)
  /-- A bare value stands where a node should be. -/
  | unknownNode (v : Value)
  deriving Repr

/-- The name of the type of a value. -/
def typeName : Value → String
  | .null => "NoneType"
  | .bool _ => "bool"
  | .int _ => "int"
  | .float _ => "float"
  | .text _ => "str"
  | .bytes _ => "bytes"
  | .decimal _ => "Decimal"
  | .list _ => "list"

/-- The wording of an error of evaluation. -/
def EvalError.message : EvalError → String
  | .divisionByZero => "Division by zero"
  | .modulusByZero => "Modulus by zero"
  | .unknownOperator name => "Unknown operator: " ++ name
  | .unknownNode v => "Unknown condition node: " ++ typeName v

end Condition

/-- What ends an evaluation without being an error of a script. -/
inductive Fault where
  /-- A condition is malformed. -/
  | form (e : Condition.FormError)
  /-- A condition has no value. -/
  | evaluation (e : Condition.EvalError)
  /-- A number is beyond its limits. -/
  | number (f : NumberFault)
  /-- The database broke down. -/
  | crash (message : String)
  /-- A path, or a name in it, is too long. -/
  | longName (path : String)
  /-- A packed file is damaged. -/
  | damaged (d : Archive.Damage)
  deriving Repr

/-- The wording of a fault. -/
def Fault.message : Fault → String
  | .form e => e.message
  | .evaluation e => e.message
  | .number f => f.message
  | .crash message => message
  | .longName path => "[Errno 36] File name too long: " ++ Text.quoted path
  | .damaged d => d.message

end SqlScript
