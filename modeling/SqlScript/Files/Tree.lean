/-
SqlScript/Files/Tree.lean

Trees of files, and scripts in them.

A tree lists files by the parts of their absolute paths, and directories that may be
empty; whatever encloses a listed thing is a directory too.  A path is followed part
by part, each but the last of which must be a directory; two dots lead to the
enclosing directory.  A name or a path that is too long cannot be looked up at all.

A script is looked up under a root directory.  If its name has no suffix and there is
no such file, the endings `.sql` and `.sql.gz` are tried.  The text of a script is
UTF-8, packed if the file's suffix is `.gz`, and its line ends are unified.
-/
import SqlScript.Archive.Gzip
import SqlScript.Files.Path
import SqlScript.Source
import SqlScript.Text.Lines
import SqlScript.Text.Utf8

namespace SqlScript.Files

/-! ### Trees -/

/-- What a file holds. -/
inductive Content where
  | raw (bytes : List UInt8)
  /-- A text, encoded and then packed. -/
  | packed (text : List Char)
  deriving Repr

/-- A tree of files and the current directory in it. -/
structure Tree where
  /-- Files by the parts of their paths, the newest first. -/
  files : List (List String × Content) := []
  /-- Directories that are listed. -/
  directories : List (List String) := []
  current : List String := []
  deriving Repr

/-- What stands at a path. -/
inductive Entry where
  | file (c : Content)
  | directory
  deriving Repr

namespace Tree

/-- Whether the parts of a path are those of a directory. -/
def isDirectory (t : Tree) (place : List String) : Bool :=
  place.isEmpty || place.isPrefixOf t.current
    || t.directories.any (fun d => place.isPrefixOf d)
    || t.files.any (fun f => place.isPrefixOf f.1 && place.length < f.1.length)

/-- Why a path leads nowhere. -/
inductive Miss where
  /-- Nothing is there. -/
  | absent
  /-- It is too long, or a name in it is. -/
  | tooLong
  deriving DecidableEq, Repr

/-- The greatest size of a name, in bytes. -/
def maxNameSize : Nat := 255

/-- The greatest size of a path, in bytes. -/
def maxPathSize : Nat := 4095

/-- Follows the parts of a path from a place. -/
def follow (t : Tree) : List String → List String → Except Miss (List String)
  | place, [] => .ok place
  | place, part :: rest =>
    if t.isDirectory place then
      if maxNameSize < part.utf8ByteSize then .error .tooLong
      else t.follow (if part = ".." then place.dropLast else place ++ [part]) rest
    else .error .absent

/-- Where a path leads.  Two slashes at the front stand for a root of its own, with
nothing in it, and a zero character is in no name. -/
def locate (t : Tree) (p : Path) : Except Miss (List String) :=
  if p.toString.contains '\x00' then .error .absent
  else if maxPathSize < p.toString.utf8ByteSize then .error .tooLong
  else if p.root = "//" then ({} : Tree).follow [] p.parts
  else t.follow (if p.isAbsolute then [] else t.current) p.parts

/-- What stands at a path. -/
def entry (t : Tree) (p : Path) : Except Miss Entry :=
  match t.locate p with
  | .error m => .error m
  | .ok place =>
    if t.isDirectory place then .ok .directory
    else
      match t.files.lookup place with
      | some c => .ok (.file c)
      | none => .error .absent

/-- What the file at a path holds, if there is a file. -/
def file? (t : Tree) (p : Path) : Option Content :=
  match t.entry p with
  | .ok (.file c) => some c
  | _ => none

/-- Whether something that a test is true of stands at a path. -/
def test (t : Tree) (p : Path) (is : Entry → Bool) : Except Fault Bool :=
  match t.entry p with
  | .ok e => .ok (is e)
  | .error .absent => .ok false
  | .error .tooLong => .error (.longName p.toString)

/-- Whether there is a file at a path. -/
def isFile (t : Tree) (p : Path) : Except Fault Bool :=
  t.test p fun e =>
    match e with
    | .file _ => true
    | .directory => false

/-- Whether anything stands at a path. -/
def has (t : Tree) (p : Path) : Except Fault Bool := t.test p fun _ => true

/-- The absolute path of a path, two dots resolved. -/
def resolve (t : Tree) (p : Path) : Path :=
  let start := if p.isAbsolute then [] else t.current
  ⟨"/", p.parts.foldl (fun place part => if part = ".." then place.dropLast else place ++ [part])
    start⟩

/-- Adds a file. -/
def addFile (t : Tree) (place : List String) (c : Content) : Tree :=
  { t with files := (place, c) :: t.files }

/-- Adds a directory. -/
def addDirectory (t : Tree) (place : List String) : Tree :=
  { t with directories := place :: t.directories }

end Tree

/-! ### Texts of files -/

/-- Why a file has no text. -/
inductive TextError where
  /-- Its bytes encode none. -/
  | notUtf8 (e : Text.Utf8Error)
  /-- It cannot be unpacked. -/
  | notUnpacked (e : Archive.GzipError)
  deriving Repr

/-- The text that bytes encode. -/
def decode (bytes : List UInt8) : Except TextError (List Char) :=
  match Text.decodeUtf8 bytes with
  | .ok cs => .ok cs
  | .error e => .error (.notUtf8 e)

/-- The text of a file that is read as a packed one. -/
def packedText : Content → Except TextError (List Char)
  | .packed text => .ok text
  | .raw bytes =>
    match Archive.unpack bytes with
    | .ok bytes => decode bytes
    | .error e => .error (.notUnpacked e)

/-- The text of a file that is read as it is.  The mark of a packed file is no text. -/
def plainText : Content → Except TextError (List Char)
  | .packed _ => decode Archive.mark
  | .raw bytes => decode bytes

/-- The failure to read the file at a path.  Damage is a fault of its own. -/
def TextError.failure (path : Path) : TextError → Failure
  | .notUtf8 e => .of (.cannotRead path.toString e.message)
  | .notUnpacked (.damaged d) => .fault (.damaged d)
  | .notUnpacked e => .of (.cannotRead path.toString e.message)

/-! ### Scripts in files -/

/-- The endings that are tried for a name without a suffix. -/
def scriptEndings : List String := [".sql", ".sql.gz"]

/-- The first of some paths at which there is a file, and otherwise a default. -/
def firstFile (t : Tree) (default : Path) : List Path → Except Fault Path
  | [] => .ok default
  | p :: rest =>
    match t.isFile p with
    | .error f => .error f
    | .ok true => .ok p
    | .ok false => firstFile t default rest

/-- The path that the name of a script stands for, under a root directory. -/
def scriptPath (t : Tree) (root : Path) (name : String) : Except Fault Path :=
  let path := root.join (.ofString name)
  let endings := if path.suffix = "" then scriptEndings else []
  firstFile t path (path :: endings.map path.append)

/-- The text of the script at a path. -/
def readScript (t : Tree) (path : Path) : Except Failure String :=
  match t.file? path with
  | none => .error (.of (.cannotOpen path.toString))
  | some content =>
    match (if path.suffix = ".gz" then packedText content else plainText content) with
    | .error e => .error (e.failure path)
    | .ok cs => .ok (String.ofList (Text.unifyLineEnds cs))

/-- The scripts of a tree under a root directory. -/
def scripts (t : Tree) (root : Path) : Source := fun name =>
  match scriptPath t root name with
  | .error f => .error (.fault f)
  | .ok path => readScript t path

end SqlScript.Files
