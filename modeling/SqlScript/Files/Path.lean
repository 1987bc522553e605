/-
SqlScript/Files/Path.lean

Paths of files.

A path is absolute or relative and has parts between slashes.  Empty parts and parts
of one dot are dropped when it is read; parts of two dots are kept, since what they
mean depends on the files.  Two slashes at the front are kept apart from one.
-/
namespace SqlScript.Files

/-- A path. -/
structure Path where
  /-- Empty for a relative path, otherwise one or two slashes. -/
  root : String
  parts : List String
  deriving DecidableEq, Repr, Inhabited

namespace Path

/-- The pieces of a text between slashes. -/
def splitSlash : List Char → List (List Char)
  | [] => [[]]
  | c :: cs =>
    if c = '/' then [] :: splitSlash cs
    else
      match splitSlash cs with
      | [] => [[c]]
      | piece :: rest => (c :: piece) :: rest

/-- The root of a path that is written so. -/
def rootOf : List Char → String
  | ['/', '/'] => "//"
  | '/' :: '/' :: c :: _ => if c = '/' then "/" else "//"
  | '/' :: _ => "/"
  | _ => ""

/-- Reads a path. -/
def ofString (s : String) : Path where
  root := rootOf s.toList
  parts := ((splitSlash s.toList).filter fun p => p ≠ [] ∧ p ≠ ['.']).map String.ofList

/-- The text of a path; the empty relative path is a dot. -/
def toString (p : Path) : String :=
  if p.root = "" ∧ p.parts = [] then "." else p.root ++ "/".intercalate p.parts

/-- Whether a path does not depend on the current directory. -/
def isAbsolute (p : Path) : Bool := p.root ≠ ""

/-- A path relative to another one; an absolute path is itself. -/
def join (base p : Path) : Path :=
  if p.isAbsolute then p else { base with parts := base.parts ++ p.parts }

/-- A path without its last part. -/
def parent (p : Path) : Path := { p with parts := p.parts.dropLast }

/-- The last part of a path. -/
def name (p : Path) : String := p.parts.getLast?.getD ""

/-- The end of a name from its last dot on.  A dot at the front or at the end starts
no suffix. -/
def suffix (p : Path) : String :=
  let cs := p.name.toList
  let tail := cs.reverse.takeWhile (· ≠ '.')
  if tail.length + 1 < cs.length ∧ tail ≠ [] then String.ofList ('.' :: tail.reverse) else ""

/-- The path with a text added to the end of what it is written as. -/
def append (p : Path) (ending : String) : Path := ofString (p.toString ++ ending)

/-- What is left of a list after another one at its front. -/
def after? : List String → List String → Option (List String)
  | [], xs => some xs
  | _ :: _, [] => none
  | b :: bs, x :: xs => if b = x then after? bs xs else none

/-- The path from a base to a path that lies under it. -/
def relativeTo? (p base : Path) : Option Path :=
  if p.root = base.root then (after? base.parts p.parts).map fun parts => ⟨"", parts⟩
  else none

end Path

end SqlScript.Files
