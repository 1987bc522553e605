/-
SqlScript/Failure.lean

Failures: an error of a script, which carries its context, or a fault, which does not.
-/
import SqlScript.Error
import SqlScript.Fault

namespace SqlScript

/-- Why something failed: an error of the script, or a fault that no script is to
blame for. -/
inductive Failure where
  | error (e : ProcedureError)
  | fault (f : Fault)
  deriving Repr

namespace Failure

/-- An error without context. -/
def of (cause : Cause) : Failure := .error { cause := cause }

/-- A failure with the missing parts of its context filled in; a fault has no
context. -/
def attach (c : Context) : Failure → Failure
  | .error e => .error (e.attach c)
  | .fault f => .fault f

end Failure

end SqlScript
