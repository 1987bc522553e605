/-
SqlScript/Program/Reader.lean

Reading scripts, and writing them.

A line is an instruction if it consists of the marker, one blank, a keyword, one
blank and the statement, which is the rest of the line.  Every other line is free
text.  A line with a keyword that is no command is dropped too, but noted.

`printLines` is the other direction: the text of instructions, one a line.
-/
import SqlScript.Program
import SqlScript.Text.Blank
import SqlScript.Text.Lines
import SqlScript.Text.Word

namespace SqlScript

/-- The marker that instructions start with unless another one is chosen. -/
def defaultMarker : String := "!"

/-- What a line of a script is. -/
inductive LineReading where
  /-- Free text. -/
  | free
  /-- It has the form of an instruction, but its keyword is no command. -/
  | unknown (keyword : String)
  /-- An instruction. -/
  | instruction (i : Instruction)
  deriving DecidableEq, Repr

/-- The instruction of a line that is one. -/
def LineReading.toInstruction? : LineReading → Option Instruction
  | .instruction i => some i
  | _ => none

namespace Program

/-- What follows a prefix of a text, if the text starts with it. -/
def afterMarker? : List Char → List Char → Option (List Char)
  | [], cs => some cs
  | _ :: _, [] => none
  | m :: ms, c :: cs => if m = c then afterMarker? ms cs else none

/-- Takes one blank off the front. -/
def afterBlank? : List Char → Option (List Char)
  | [] => none
  | c :: cs => if Text.isBlank c then some cs else none

/-- The keyword and the statement of a line that has the form of an instruction. -/
def lineParts? (marker line : List Char) : Option (List Char × List Char) := do
  let rest ← afterMarker? marker (Text.dropLineEnd line)
  let rest ← afterBlank? rest
  let keyword := rest.takeWhile Text.isWord
  if keyword.isEmpty then none
  else
    let rest ← afterBlank? (rest.dropWhile Text.isWord)
    some (keyword, rest.takeWhile (· ≠ '\n'))

/-- Reads one line. -/
def readLine (marker line : List Char) (number : Option Int) : LineReading :=
  match lineParts? marker line with
  | none => .free
  | some (keyword, statement) =>
    match Command.ofKeyword? (String.ofList keyword) with
    | none => .unknown (String.ofList keyword)
    | some command => .instruction ⟨command, String.ofList statement, number⟩

/-- Reads lines that are numbered from `number` on. -/
def readLines (marker : List Char) : Int → List (List Char) → List (Int × LineReading)
  | _, [] => []
  | number, line :: rest =>
    (number, readLine marker line (some number)) :: readLines marker (number + 1) rest

/-- What each line of a script is. -/
def readings (marker text : String) : List (Int × LineReading) :=
  readLines marker.toList 1 (Text.lines text.toList)

/-- The keywords that are no commands, with their lines. -/
def unknownKeywords (readings : List (Int × LineReading)) : List (String × Int) :=
  readings.filterMap fun r =>
    match r.2 with
    | .unknown keyword => some (keyword, r.1)
    | _ => none

/-- The program of a script. -/
def parse (marker text source : String) : Program where
  source := source
  instructions := (readings marker text).filterMap fun r => r.2.toInstruction?

/-! ### Writing -/

/-- The line of an instruction. -/
def printLine (marker : List Char) (i : Instruction) : List Char :=
  marker ++ ' ' :: (i.command.keyword.toList ++ ' ' :: i.statement.toList)

/-- The text of some instructions, one a line. -/
def printLines (marker : List Char) (is : List Instruction) : List Char :=
  ['\n'].intercalate (is.map (printLine marker))

end Program

end SqlScript
