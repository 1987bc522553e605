/-
SqlScript/Client/Rehearsal.lean

Rehearsals: runs against a database that answers from a list of rules.

A rule applies to the statements that contain its pattern; the first that applies
answers.  Its answers are used one after the other, and the last one for ever.  A
statement to which no rule applies succeeds without rows.  The state of the database
is how often each rule has been used.
-/
import SqlScript.Client

namespace SqlScript

/-- A cell of an answer. -/
inductive Cell where
  | value (v : Value)
  /-- The bound value at a position. -/
  | arg (i : Nat)
  deriving Repr

/-- An answer of a rule. -/
inductive Answer where
  | rows (columns : List String) (cells : List (List Cell))
  /-- No rows; so many were affected. -/
  | count (n : Int)
  /-- The statement is rejected. -/
  | fail (message : String)
  /-- The connection breaks down. -/
  | crash (message : String)
  deriving Repr

/-- A rule: a pattern and the answers to statements that contain it. -/
structure Rule where
  pattern : String
  answers : List Answer
  deriving Repr

/-- A rule, and how often it has been used. -/
structure UsedRule where
  rule : Rule
  uses : Nat := 0
  deriving Repr

/-- The state of a rehearsal's database. -/
abbrev Rehearsal := List UsedRule

namespace Rehearsal

/-- The state before any statement. -/
def ofRules (rules : List Rule) : Rehearsal := rules.map fun r => ⟨r, 0⟩

/-- Whether a text contains another one. -/
def contains (pattern : List Char) : List Char → Bool
  | [] => pattern.isEmpty
  | c :: cs => pattern.isPrefixOf (c :: cs) || contains pattern cs

/-- The answer that a rule gives after so many uses. -/
def answerAt (answers : List Answer) (uses : Nat) : Answer :=
  match answers[uses]? with
  | some a => a
  | none => answers.getLast?.getD (.count (-1))

/-- The reply of an answer to bound values. -/
def reply (args : List Value) : Answer → Reply
  | .rows columns cells =>
    .result (.ofCells columns (cells.map fun row => row.map fun
      | .value v => v
      | .arg i => args[i]?.getD .null))
  | .count n => .result { rowcount := n }
  | .fail message => .rejected message
  | .crash message => .crash message

/-- The answer to a statement, and the state after it. -/
def answer (statement : List Char) : Rehearsal → Answer × Rehearsal
  | [] => (.count (-1), [])
  | r :: rest =>
    if contains r.rule.pattern.toList statement then
      (answerAt r.rule.answers r.uses, { r with uses := r.uses + 1 } :: rest)
    else
      let found := answer statement rest
      (found.1, r :: found.2)

/-- Sends a statement. -/
def query (statement : String) (args : List Value) (state : Rehearsal) : Reply × Rehearsal :=
  let found := answer statement.toList state
  (reply args found.1, found.2)

end Rehearsal

end SqlScript
