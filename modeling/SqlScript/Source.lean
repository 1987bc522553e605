/-
SqlScript/Source.lean

Sources: where the texts of scripts come from, by name.

A source does not change during a run, so it is a function.  The simplest one is a
list of scripts held in memory.
-/
import SqlScript.Failure

namespace SqlScript

/-- The text of a script by its name, or why there is none. -/
abbrev Source := String → Except Failure String

/-- The text of a script; an error names the script. -/
def Source.fetch (source : Source) (name : String) : Except Failure String :=
  match source name with
  | .ok text => .ok text
  | .error f => .error (f.attach { source := some name })

/-- Scripts held in memory, the newest first. -/
abbrev Scripts := List (String × String)

namespace Scripts

/-- Adds a script; it takes the place of an older one of its name. -/
def add (scripts : Scripts) (name text : String) : Scripts := (name, text) :: scripts

/-- Scripts of which later ones take the places of earlier ones. -/
def ofList (pairs : List (String × String)) : Scripts :=
  pairs.foldl (fun scripts p => scripts.add p.1 p.2) []

/-- Scripts in memory as a source. -/
def toSource (scripts : Scripts) : Source := fun name =>
  match scripts.lookup name with
  | some text => .ok text
  | none => .error (.of (.noSuchScript name))

end Scripts

end SqlScript
