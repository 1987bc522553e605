/-
SqlScript/Client.lean

Clients: what a run needs of a database.

A client has a state that each statement may change, so that the answer to a
statement can depend on all statements before it.  A statement is answered by a
result, by a rejection with a message, or by a breakdown of the connection, which is
no answer of the database at all.
-/
import SqlScript.Resultset

namespace SqlScript

/-- How a database reacts to a statement. -/
inductive Reply where
  | result (r : Resultset)
  /-- The statement is rejected. -/
  | rejected (message : String)
  /-- The connection breaks down. -/
  | crash (message : String)
  deriving Repr, Inhabited

/-- A connection to a database with states `σ`. -/
structure Client (σ : Type) where
  /-- What stands for a bound value in a statement. -/
  bindMarker : String
  /-- A value as a literal of the database's language. -/
  quote : Value → String
  /-- Whether the client notes each statement in the log. -/
  logsQueries : Bool
  /-- Sends a statement with the values to bind. -/
  query : String → List Value → σ → Reply × σ

end SqlScript
