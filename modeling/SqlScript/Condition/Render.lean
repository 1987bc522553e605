/-
SqlScript/Condition/Render.lean

Conditions of instructions: statements whose placeholders are filled with the
literals of the values they resolve to.
-/
import SqlScript.Condition.Eval
import SqlScript.Template

namespace SqlScript.Condition

/-- The condition of a statement with given arguments, unless one of them cannot be
written. -/
def render (statement : String) (args : List Value) (blank : Blank) :
    Except NumberFault String :=
  match args.mapM (literal? blank) with
  | .error f => .error f
  | .ok literals => .ok (fillPlaceholders statement literals)

end SqlScript.Condition
