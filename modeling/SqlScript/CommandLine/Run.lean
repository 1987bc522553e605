/-
SqlScript/CommandLine/Run.lean

What the command does: it runs one script file in one transaction.

The surroundings of a run of the command are given: the tree of files, the database
and how connecting and committing go.  What the run amounts to is then a function of
these and the arguments: an exit code or what ended it without one, the texts written
to the two output streams, and the calls that the database received.  The transaction
ends in exactly one way once a connection is open: it is committed if loading, running
and printing went well, and rolled back otherwise.
-/
import SqlScript.Client.Address
import SqlScript.Client.Style
import SqlScript.CommandLine.Options
import SqlScript.Files.Tree
import SqlScript.Report.Table
import SqlScript.Session

namespace SqlScript.CommandLine

/-! ### Surroundings and accounts -/

/-- The surroundings of a run of the command. -/
structure Host (σ : Type) where
  tree : Files.Tree
  /-- The database address from the environment. -/
  url : Option String := none
  /-- Why no connection can be opened, if none can. -/
  connectError : Option String := none
  /-- Why nothing can be committed, if nothing can. -/
  commitError : Option String := none
  /-- The database: how it answers, and its state. -/
  query : String → List Value → σ → Reply × σ
  database : σ

/-- A call that the database received. -/
inductive Call where
  | statement (text : String) (args : List Value)
  | commit
  | rollback
  deriving Repr

/-- What ends the command before the script is loaded. -/
inductive Breakdown where
  /-- An assignment is left out. -/
  | assignment
  /-- The root directory is left out. -/
  | root
  /-- A fault of the address of the database. -/
  | address (f : AddressFault)
  deriving DecidableEq, Repr

/-- The wording of a breakdown. -/
def Breakdown.message : Breakdown → String
  | .assignment => "'list' object has no attribute 'partition'"
  | .root => "expected str, bytes or os.PathLike object, not list"
  | .address f => f.message

/-- How a run of the command ended. -/
inductive Ending where
  | exit (code : Nat)
  | fault (f : Fault)
  | breakdown (b : Breakdown)
  | cutOff
  deriving Repr

/-- What a run of the command amounts to. -/
structure Account where
  ending : Ending
  stdout : String := ""
  stderr : String := ""
  calls : List Call := []
  deriving Repr

/-- A run that ends at once with an error. -/
def Account.refuse (message : String) : Account where
  ending := .exit 1
  stderr := message ++ "\n"

/-! ### Parts of the arguments -/

/-- The name and the value of an assignment; the name must not be empty. -/
def assignment? (s : String) : Option (String × Value) :=
  match cutEquals? s.toList with
  | some (c :: name, value) =>
    some (String.ofList (c :: name), .text (String.ofList value))
  | _ => none

/-- What is wrong with assignments. -/
inductive AssignmentError where
  | malformed (s : String)
  | nothing
  deriving DecidableEq, Repr

/-- The wording of an error. -/
def AssignmentError.message : AssignmentError → String
  | .malformed s => "Expected NAME=VALUE, got " ++ Text.quoted s
  | .nothing => Breakdown.assignment.message

/-- The parameters of assignments; the first that is none is the error. -/
def assignments : List Given → Except AssignmentError Bindings :=
  go []
where
  /-- Goes through the assignments with the parameters so far. -/
  go (b : Bindings) : List Given → Except AssignmentError Bindings
    | [] => .ok b
    | .nothing :: _ => .error .nothing
    | .text s :: rest =>
      match assignment? s with
      | none => .error (.malformed s)
      | some (name, value) => go (b.set name value) rest

/-- A given value as an argument of the script; nothing is an empty list. -/
def Given.toValue : Given → Value
  | .text s => .text s
  | .nothing => .list []

/-- The path of the script. -/
def Options.scriptPath (o : Options) : Files.Path := .ofString o.script

/-- The root directory: the one that is given, or else the one that holds the script. -/
def Options.rootPath? (o : Options) : Option Files.Path :=
  match o.root with
  | none => some o.scriptPath.parent
  | some (.text s) => some (.ofString s)
  | some .nothing => none

/-- The address of the database unless another one is given. -/
def defaultUrl : String := "sqlite://"

/-! ### The run -/

/-- The path of the script relative to the root, if it lies under it, and its
absolute path otherwise. -/
def scriptName (tree : Files.Tree) (script root : Files.Path) : String :=
  ((script.relativeTo? root).getD (tree.resolve script)).toString

/-- Loads the script and runs it. -/
def loadAndRun {σ : Type} (setup : Setup σ) (fuel : Nat) (name : String) (args : List Value)
    (custom : Bindings) (w : World σ) : Result σ (Option Resultset) :=
  match Machine.load setup name none {} w with
  | ⟨.failed f, m, w⟩ => ⟨.failed f, m, w⟩
  | ⟨.cutOff, m, w⟩ => ⟨.cutOff, m, w⟩
  | ⟨.done _, m, w⟩ => m.run setup fuel none args custom none w

/-- Prints the result of a run, and its captures if these are asked for. -/
def printAll (showCaptures : Bool) (result : Option Resultset) (captures : Captures) :
    Report.Printed :=
  (Report.printResult result).andThen
    (if showCaptures then Report.printCaptures 0 captures else {})

/-- The account of a transaction from how its run ended.  What cannot be printed for the
length of a number ends the command as a fault, be it a result or a parameter of an error. -/
def conclude {σ : Type} (commitError : Option String) (verbose showCaptures : Bool)
    (ended : Result σ (Option Resultset)) : Account :=
  let events := ended.world.trace.reverse
  let log := if verbose then Report.unlines (events.filterMap (Event.logLine? true)) else ""
  let sent := (events.filterMap Event.query?).map fun q => Call.statement q.1 q.2
  match ended.outcome with
  | .cutOff => { ending := .cutOff, stderr := log, calls := sent }
  | .failed (.fault f) => { ending := .fault f, stderr := log, calls := sent ++ [.rollback] }
  | .failed (.error e) =>
    if Value.anyOverlong e.context.parameters then
      { ending := .fault (.number .longInteger), stderr := log, calls := sent ++ [.rollback] }
    else
      { ending := .exit 1
        stderr := log ++ "Error: " ++ e.message ++ "\n"
        calls := sent ++ [.rollback] }
  | .done result =>
    let printed := printAll showCaptures result ended.machine.captures
    match printed.fault, commitError with
    | some f, _ =>
      { ending := .fault (.number f)
        stdout := printed.text
        stderr := log
        calls := sent ++ [.rollback] }
    | none, some message =>
      { ending := .exit 1
        stdout := printed.text
        stderr := log ++ "Database error: " ++ message ++ "\n"
        calls := sent ++ [.commit] }
    | none, none =>
      { ending := .exit 0, stdout := printed.text, stderr := log, calls := sent ++ [.commit] }

/-- Runs the script file in one transaction with an open connection. -/
def runConnected {σ : Type} (host : Host σ) (fuel : Nat) (o : Options) (root : Files.Path)
    (custom : Bindings) : Account :=
  let setup : Setup σ :=
    { client := .ofStyle .qmark host.query, source := Files.scripts host.tree root }
  conclude host.commitError o.verbose o.showCaptures
    (loadAndRun setup fuel (scriptName host.tree o.scriptPath root) (o.args.map Given.toValue)
      custom { database := host.database })

/-- The account of an address that leads to no database. -/
def Account.refuseAddress (address reason : String) : Account :=
  .refuse ("Error: cannot create engine for " ++ address ++ ": " ++ reason)

/-- Opens the database and runs the script file. -/
def runFile {σ : Type} (host : Host σ) (fuel : Nat) (o : Options) (custom : Bindings) : Account :=
  match o.rootPath? with
  | none => { ending := .breakdown .root }
  | some root =>
    match o.url.getD (.text (host.url.getD defaultUrl)) with
    | .nothing => .refuseAddress "[]" "Expected string or URL object, got []"
    | .text address =>
      match openAddress address with
      | .error (.error e) => .refuseAddress address e.message
      | .error (.fault f) => { ending := .breakdown (.address f) }
      | .ok () =>
        match host.connectError with
        | some message => .refuse ("Database error: " ++ message)
        | none => runConnected host fuel o root custom

/-- Carries out the command. -/
def execute {σ : Type} (host : Host σ) (fuel : Nat) (argv : List String) : Account :=
  match Options.parse argv with
  | .error .help => { ending := .exit 0, stdout := help }
  | .error (.usage e) => { ending := .exit 2, stderr := e.report }
  | .ok o =>
    match host.tree.has o.scriptPath with
    | .error f => { ending := .fault f }
    | .ok false => .refuse ("Error: File not found: " ++ o.scriptPath.toString)
    | .ok true =>
      match assignments o.assignments with
      | .error .nothing => { ending := .breakdown .assignment }
      | .error e => .refuse ("Error: " ++ e.message)
      | .ok custom => runFile host fuel o custom

end SqlScript.CommandLine
