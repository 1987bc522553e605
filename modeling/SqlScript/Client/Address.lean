/-
SqlScript/Client/Address.lean

Which addresses lead to a database.

The address is read, then its plugins are looked up, of which there are none, then its
dialect and the driver for it.  There is a driver for files; the others are known by
name and missing.  An address of a file has no user, host or socket.  Last come the
parameters that the driver takes, each of which has a kind.

`openAddress` either accepts an address or tells the first thing that is wrong with it.
Most of these are errors, which are reported; faults end the program.
-/
import SqlScript.Text.Blank
import SqlScript.Url

namespace SqlScript

/-! ### Failures -/

/-- Why an address leads to no database. -/
inductive AddressError where
  | url (e : UrlError)
  | plugin (name : String)
  /-- The name of a dialect has more than two parts. -/
  | longDialect
  | dialect (name : String)
  /-- A file has no user, host or socket. -/
  | notFile (u : Url)
  | notFlag (text : String)
  | notInteger (text : String) (e : IntegerError)
  | notFloat (text : String)
  deriving DecidableEq, Repr

/-- The wording of an error. -/
def AddressError.message : AddressError → String
  | .url e => e.message
  | .plugin name => "Can't load plugin: sqlalchemy.plugins:" ++ name
  | .longDialect => "too many values to unpack (expected 2)"
  | .dialect name => "Can't load plugin: sqlalchemy.dialects:" ++ name
  | .notFile u =>
    "Invalid SQLite URL: " ++ u.render ++ "\n" ++
    "Valid SQLite URL forms are:\n" ++
    " sqlite:///:memory: (or, sqlite://)\n" ++
    " sqlite:///relative/path/to/file.db\n" ++
    " sqlite:////absolute/path/to/file.db"
  | .notFlag text => "String is not true/false: " ++ Text.quoted text
  | .notInteger text e => e.message text
  | .notFloat text => "could not convert string to float: " ++ Text.quoted text

/-- What ends the program while an address is looked at. -/
inductive AddressFault where
  /-- The module of a driver is missing. -/
  | driver (name : String)
  /-- A parameter that is an integer has several values. -/
  | severalIntegers
  /-- A parameter that is a floating-point number has several values. -/
  | severalFloats
  /-- Parameters are to be added to the name of a file, and there is none. -/
  | noFile
  deriving DecidableEq, Repr

/-- The wording of a fault. -/
def AddressFault.message : AddressFault → String
  | .driver name => "No module named " ++ Text.quoted name
  | .severalIntegers =>
    "int() argument must be a string, a bytes-like object or a real number, not 'tuple'"
  | .severalFloats => "float() argument must be a string or a real number, not 'tuple'"
  | .noFile => "unsupported operand type(s) for +=: 'NoneType' and 'str'"

/-- What is wrong with an address. -/
inductive AddressFailure where
  | error (e : AddressError)
  | fault (f : AddressFault)
  deriving DecidableEq, Repr

/-! ### Dialects -/

/-- The driver that an address asks for. -/
inductive Driver where
  /-- The one for files. -/
  | file
  /-- One that is known and missing, by its module. -/
  | missing (name : String)
  deriving DecidableEq, Repr

/-- The drivers for one kind of server. -/
def mysqlDrivers : List (String × Driver) :=
  [("base", .missing "MySQLdb"), ("mysqldb", .missing "MySQLdb"), ("pymysql", .missing "pymysql"),
   ("aiomysql", .missing "aiomysql"), ("asyncmy", .missing "asyncmy"),
   ("cymysql", .missing "cymysql"), ("mysqlconnector", .missing "mysql"),
   ("mariadbconnector", .missing "mariadb"), ("pyodbc", .missing "pyodbc")]

/-- The drivers that are known, by dialect.  The first of each dialect is taken if none is
asked for. -/
def knownDrivers : List (String × List (String × Driver)) :=
  [("sqlite",
     [("base", .file), ("pysqlite", .file), ("aiosqlite", .missing "aiosqlite"),
      ("pysqlcipher", .missing "pysqlcipher3")]),
   ("postgresql",
     [("base", .missing "psycopg"), ("psycopg", .missing "psycopg"),
      ("psycopg_async", .missing "psycopg"), ("psycopg2", .missing "psycopg2"),
      ("psycopg2cffi", .missing "psycopg2cffi"), ("asyncpg", .missing "asyncpg"),
      ("pg8000", .missing "pg8000")]),
   ("mysql", mysqlDrivers),
   ("mariadb", mysqlDrivers),
   ("oracle",
     [("base", .missing "oracledb"), ("oracledb", .missing "oracledb"),
      ("oracledb_async", .missing "oracledb"), ("cx_oracle", .missing "cx_Oracle")]),
   ("mssql",
     [("base", .missing "pyodbc"), ("pyodbc", .missing "pyodbc"), ("pymssql", .missing "pymssql"),
      ("aioodbc", .missing "aioodbc")])]

/-- The driver of a dialect, which may be asked for after a plus sign. -/
def findDriver (dialect : String) : Except AddressError Driver :=
  let missing : AddressError := .dialect (dialect.map fun c => if c = '+' then '.' else c)
  let find (name driver : List Char) : Except AddressError Driver :=
    match (knownDrivers.lookup (String.ofList name)).bind (·.lookup (String.ofList driver)) with
    | some d => .ok d
    | none => .error missing
  match dialect.toList.splitOn '+' with
  | [name] => find name "base".toList
  | [name, driver] => find name driver
  | _ => .error .longDialect

/-! ### Parameters -/

/-- What the value of a parameter is. -/
inductive ParameterKind where
  | flag
  | integer
  | float
  | text
  deriving DecidableEq, Repr

/-- The parameters that the driver for files takes, in the order in which they are looked
at. -/
def parameterKinds : List (String × ParameterKind) :=
  [("uri", .flag), ("timeout", .float), ("isolation_level", .text), ("detect_types", .integer),
   ("check_same_thread", .flag), ("cached_statements", .integer)]

/-- The words for yes. -/
def yesWords : List String := ["true", "yes", "on", "y", "t", "1"]

/-- The words for no. -/
def noWords : List String := ["false", "no", "off", "n", "f", "0"]

/-- The word that a text stands for: case and surrounding white space do not matter. -/
def flagWord (s : String) : String := (String.ofList (Text.strip s.toList)).toLower

/-- Looks at the values of a parameter; several of them are a list. -/
def checkValues (kind : ParameterKind) (values : List String) : Except AddressFailure Unit :=
  match kind, values with
  | .text, _ => .ok ()
  | .flag, [s] =>
    if (yesWords ++ noWords).contains (flagWord s) then .ok ()
    else .error (.error (.notFlag (flagWord s)))
  | .flag, _ => .ok ()
  | .integer, [s] =>
    match readInteger s.toList with
    | .ok _ => .ok ()
    | .error e => .error (.error (.notInteger s e))
  | .integer, _ => .error (.fault .severalIntegers)
  | .float, [s] => if isFloat s.toList then .ok () else .error (.error (.notFloat s))
  | .float, _ => .error (.fault .severalFloats)

/-- Looks at the parameters of an address. -/
def checkParameters (u : Url) : List (String × ParameterKind) → Except AddressFailure Unit
  | [] => .ok ()
  | (name, kind) :: rest =>
    match u.query.lookup name with
    | none => checkParameters u rest
    | some values =>
      match checkValues kind values with
      | .error e => .error e
      | .ok () => checkParameters u rest

/-- Whether the file of an address is itself an address; several values mean yes. -/
def Url.namesUri (u : Url) : Bool :=
  match u.query.lookup "uri" with
  | none => false
  | some [s] => yesWords.contains (flagWord s)
  | some _ => true

/-- Whether an address has parameters that the driver does not take for itself. -/
def Url.hasOtherParameters (u : Url) : Bool :=
  u.query.any fun p => (parameterKinds.lookup p.1).isNone

/-! ### Opening -/

/-- Whether an address has a user, a password, a host or a socket. -/
def Url.namesServer (u : Url) : Bool :=
  let isGiven (part : Option String) : Bool := part.any (· ≠ "")
  isGiven u.user || isGiven u.password || isGiven u.host || u.socket.any (· ≠ 0)

/-- Looks at the address of a file. -/
def openFile (u : Url) : Except AddressFailure Unit :=
  if u.namesServer then .error (.error (.notFile u))
  else
    match checkParameters u parameterKinds with
    | .error e => .error e
    | .ok () =>
      if u.namesUri && u.hasOtherParameters && u.database.isNone then .error (.fault .noFile)
      else .ok ()

/-- Looks at an address. -/
def openUrl (u : Url) : Except AddressFailure Unit :=
  match u.query.lookup "plugin" with
  | some (name :: _) => .error (.error (.plugin name))
  | _ =>
    match findDriver u.dialect with
    | .error e => .error (.error e)
    | .ok (.missing name) => .error (.fault (.driver name))
    | .ok .file => openFile { u with query := u.query.filter fun p => p.1 ≠ "plugins" }

/-- Looks at the text of an address. -/
def openAddress (address : String) : Except AddressFailure Unit :=
  match Url.parse address with
  | .error e => .error (.error (.url e))
  | .ok u => openUrl u

end SqlScript
