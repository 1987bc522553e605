/-
SqlScript/CommandLine/Options.lean

Options of the command line.

Each argument is first classified on its own: an operand, the two dashes after which
everything is an operand, a known option, or something that looks like an option and
is none.  A long option may be shortened as long as it stays unambiguous.  A value
follows its option as the next operand, after an equals sign, or directly after a
short option.  What is attached to a short option without a value, with or without an
equals sign, is the letter of another short option and what is attached to that.

The arguments are then taken from left to right.  The first operand is the script.
What is left over is refused, but only after everything else was found to be right.
-/
import SqlScript.Text.Digit
import SqlScript.Text.Quoted

namespace SqlScript.CommandLine

/-! ### Options -/

/-- The options. -/
inductive Opt where
  | help
  | url
  | root
  | arg
  | set
  | showCaptures
  | verbose
  deriving DecidableEq, Repr

/-- Every option. -/
def Opt.all : List Opt := [.help, .url, .root, .arg, .set, .showCaptures, .verbose]

/-- The ways to write an option. -/
def Opt.spellings : Opt → List String
  | .help => ["-h", "--help"]
  | .url => ["--url"]
  | .root => ["--root"]
  | .arg => ["-a", "--arg"]
  | .set => ["-s", "--set"]
  | .showCaptures => ["--show-captures"]
  | .verbose => ["-v", "--verbose"]

/-- Whether an option has a value. -/
def Opt.takesValue : Opt → Bool
  | .url | .root | .arg | .set => true
  | _ => false

/-- Every way to write an option, with the option. -/
def spelled : List (List Char × Opt) :=
  Opt.all.flatMap fun o => o.spellings.map fun s => (s.toList, o)

/-- The option that is written so. -/
def option? (s : List Char) : Option Opt := spelled.lookup s

/-- The value of an option. -/
inductive Given where
  | text (s : String)
  /-- Two dashes that are attached to their option are left out of the value, and nothing
  is left of it. -/
  | nothing
  deriving DecidableEq, Repr

/-- The value that is attached to an option. -/
def Given.ofAttached (cs : List Char) : Given :=
  if cs = ['-', '-'] then .nothing else .text (String.ofList cs)

/-- What the command line asks for. -/
structure Options where
  script : String
  url : Option Given := none
  root : Option Given := none
  args : List Given := []
  assignments : List Given := []
  showCaptures : Bool := false
  verbose : Bool := false
  deriving DecidableEq, Repr

/-! ### Errors -/

/-- What is wrong with a command line. -/
inductive UsageError where
  | ambiguous (option : String) (candidates : List String)
  | valueMissing (o : Opt)
  | valueIgnored (o : Opt) (value : String)
  | scriptMissing
  | unrecognized (args : List String)
  deriving DecidableEq, Repr

/-- The wording of an error. -/
def UsageError.message : UsageError → String
  | .ambiguous option candidates =>
    "ambiguous option: " ++ option ++ " could match " ++ ", ".intercalate candidates
  | .valueMissing o => "argument " ++ "/".intercalate o.spellings ++ ": expected one argument"
  | .valueIgnored o value =>
    "argument " ++ "/".intercalate o.spellings ++ ": ignored explicit argument "
      ++ Text.quoted value
  | .scriptMissing => "the following arguments are required: script"
  | .unrecognized args => "unrecognized arguments: " ++ " ".intercalate args

/-- Why no options came out of a command line. -/
inductive Refusal where
  | usage (e : UsageError)
  /-- The description was asked for. -/
  | help
  deriving DecidableEq, Repr

/-! ### Classification -/

/-- What an argument is. -/
inductive Shape where
  | operand
  /-- The two dashes. -/
  | dashes
  /-- An option, with what is attached to it; short options have one dash. -/
  | option (o : Opt) (short : Bool) (attached : Option (List Char))
  /-- It looks like an option and is none. -/
  | unknown
  deriving DecidableEq, Repr

/-- Cuts a text at its first equals sign. -/
def cutEquals? (s : List Char) : Option (List Char × List Char) :=
  match s.dropWhile (· ≠ '=') with
  | [] => none
  | _ :: value => some (s.takeWhile (· ≠ '='), value)

/-- Whether an option that is written so has one dash. -/
def isShort : List Char → Bool
  | '-' :: '-' :: _ => false
  | _ => true

/-- The long options that start so, with their spellings. -/
def completions (start : List Char) : List (List Char × Opt) :=
  spelled.filter fun p => start.isPrefixOf p.1

/-- Whether a text is a negative number: a minus sign and digits, which may have a
point before the last of them.  A line feed may follow. -/
def isNegativeNumber (s : List Char) : Bool :=
  let s := if s.getLast? = some '\n' then s.dropLast else s
  match s with
  | '-' :: rest =>
    match rest.dropWhile Text.isDigit with
    | [] => !rest.isEmpty
    | '.' :: places => !places.isEmpty && places.all Text.isDigit
    | _ => false
  | _ => false

/-- An argument that starts with a dash and is no complete option. -/
def classifyOther (s : List Char) : Except UsageError Shape :=
  let other : Shape :=
    if isNegativeNumber s || s.contains ' ' then .operand else .unknown
  if isShort s then
    match option? (s.take 2) with
    | some o => .ok (.option o true (some (s.drop 2)))
    | none => .ok other
  else
    let attached := (cutEquals? s).map (·.2)
    match completions (s.takeWhile (· ≠ '=')) with
    | [] => .ok other
    | [(_, o)] => .ok (.option o false attached)
    | several =>
      .error (.ambiguous (String.ofList s) (several.map fun p => String.ofList p.1))

/-- Classifies an argument that does not come after two dashes. -/
def classify (s : List Char) : Except UsageError Shape :=
  if s.head? ≠ some '-' then .ok .operand
  else
    match option? s with
    | some o => .ok (.option o (isShort s) none)
    | none =>
      if s.length = 1 then .ok .operand
      else
        match (cutEquals? s).bind fun p => (option? p.1).map fun o => (o, p.1, p.2) with
        | some (o, spelling, value) => .ok (.option o (isShort spelling) (some value))
        | none => classifyOther s

/-- Classifies all arguments. -/
def classifyAll : List String → Except UsageError (List (String × Shape))
  | [] => .ok []
  | s :: rest =>
    if s = "--" then .ok ((s, .dashes) :: rest.map fun r => (r, .operand))
    else
      match classify s.toList with
      | .error e => .error e
      | .ok shape =>
        match classifyAll rest with
        | .error e => .error e
        | .ok shapes => .ok ((s, shape) :: shapes)

/-! ### Taking arguments -/

/-- What has been taken so far. -/
structure Taken where
  script : Option String := none
  options : Options := { script := "" }
  left : List String := []
  deriving Repr

/-- Takes an option with its value. -/
def Taken.give (t : Taken) (o : Opt) (value : Given) : Except Refusal Taken :=
  match o with
  | .help => .error .help
  | .url => .ok { t with options := { t.options with url := some value } }
  | .root => .ok { t with options := { t.options with root := some value } }
  | .arg => .ok { t with options := { t.options with args := t.options.args ++ [value] } }
  | .set =>
    .ok { t with options := { t.options with assignments := t.options.assignments ++ [value] } }
  | .showCaptures => .ok { t with options := { t.options with showCaptures := true } }
  | .verbose => .ok { t with options := { t.options with verbose := true } }

/-- Takes options without values, and then one with its value. -/
def Taken.giveAll (t : Taken) (flags : List Opt) (last : Opt × Given) : Except Refusal Taken :=
  match flags with
  | [] => t.give last.1 last.2
  | o :: rest =>
    match t.give o .nothing with
    | .error e => .error e
    | .ok t => t.giveAll rest last

/-- What an option and what is attached to it amount to: options without values, and the
option that comes after them. -/
structure Joined where
  flags : List Opt
  last : Opt
  /-- What is attached to the last option, which then has a value. -/
  value : Option (List Char)
  deriving DecidableEq, Repr

/-- Takes apart an option and what is attached to it.  What is attached to a short option
without a value starts with the letter of another one. -/
def unjoin (o : Opt) (short : Bool) (attached : List Char) : Except UsageError Joined :=
  if o.takesValue then .ok ⟨[], o, some attached⟩
  else
    let ignored : UsageError := .valueIgnored o (String.ofList attached)
    match attached with
    | [] => .error ignored
    | c :: rest =>
      match if short then option? ['-', c] else none with
      | none => .error ignored
      | some next =>
        if rest.isEmpty then .ok ⟨[o], next, none⟩
        else
          match unjoin next true rest with
          | .error e => .error e
          | .ok j => .ok { j with flags := o :: j.flags }

/-- Takes the arguments from left to right. -/
def takeAll : List (String × Shape) → Taken → Except Refusal Taken
  | [], t => .ok t
  | (s, .operand) :: rest, t =>
    match t.script with
    | some _ => takeAll rest { t with left := t.left ++ [s] }
    | none =>
      match rest with
      | (_, .dashes) :: rest => takeAll rest { t with script := some s }
      | rest => takeAll rest { t with script := some s }
  | (s, .dashes) :: rest, t =>
    match t.script, rest with
    | none, (script, .operand) :: rest => takeAll rest { t with script := some script }
    | _, rest => takeAll rest { t with left := t.left ++ [s] }
  | (s, .unknown) :: rest, t => takeAll rest { t with left := t.left ++ [s] }
  | (_, .option o short attached) :: rest, t =>
    let joined : Except UsageError Joined :=
      match attached with
      | none => .ok ⟨[], o, none⟩
      | some cs => unjoin o short cs
    match joined with
    | .error e => .error (.usage e)
    | .ok ⟨flags, last, some cs⟩ =>
      match t.giveAll flags (last, .ofAttached cs) with
      | .error e => .error e
      | .ok t => takeAll rest t
    | .ok ⟨flags, last, none⟩ =>
      if last.takesValue then
        match rest with
        | (value, .operand) :: rest =>
          match t.giveAll flags (last, .text value) with
          | .error e => .error e
          | .ok t => takeAll rest t
        | _ => .error (.usage (.valueMissing last))
      else
        match t.giveAll flags (last, .nothing) with
        | .error e => .error e
        | .ok t => takeAll rest t

/-- Reads a command line. -/
def Options.parse (argv : List String) : Except Refusal Options :=
  match classifyAll argv with
  | .error e => .error (.usage e)
  | .ok shapes =>
    match takeAll shapes {} with
    | .error e => .error e
    | .ok t =>
      match t.script with
      | none => .error (.usage .scriptMissing)
      | some script =>
        if t.left.isEmpty then .ok { t.options with script := script }
        else .error (.usage (.unrecognized t.left))

/-! ### Texts -/

/-- How the command is used. -/
def usage : String :=
  "usage: sqlproc [-h] [--url URL] [--root ROOT] [-a ARGS] [-s NAME=VALUE]\n" ++
  "               [--show-captures] [-v]\n" ++
  "               script\n"

/-- The description of the command. -/
def help : String :=
  usage ++ "\n" ++
  "Run a procedural SQL script against a database\n" ++
  "\n" ++
  "positional arguments:\n" ++
  "  script                Path to the script file\n" ++
  "\n" ++
  "options:\n" ++
  "  -h, --help            show this help message and exit\n" ++
  "  --url URL             SQLAlchemy database URL (default: $SQLPROC_URL or in-\n" ++
  "                        memory SQLite)\n" ++
  "  --root ROOT           Directory included scripts are resolved against\n" ++
  "                        (default: the script's directory)\n" ++
  "  -a ARGS, --arg ARGS   Positional parameter ($0, $1, ...); repeat for more\n" ++
  "  -s NAME=VALUE, --set NAME=VALUE\n" ++
  "                        Custom parameter ($!NAME); repeat for more\n" ++
  "  --show-captures       Print every captured resultset after the run\n" ++
  "  -v, --verbose         Log each dispatched instruction\n"

/-- What is written about a wrong command line. -/
def UsageError.report (e : UsageError) : String :=
  usage ++ "sqlproc: error: " ++ e.message ++ "\n"

end SqlScript.CommandLine
