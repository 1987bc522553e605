/-
SqlScript/Main.lean

The command itself.

It reads the files that the script and its includes can touch into a tree, lets
`CommandLine.execute` decide everything, and writes what comes out of that.  Which
scripts a program includes is known before it runs, so the files can be read
beforehand, one level of includes after the other; no run goes deeper than the limit
of nested includes.

No database driver is part of this program.  Statements are rehearsed: each one
succeeds without rows.
-/
import SqlScript.Client.Rehearsal
import SqlScript.CommandLine.Run
import SqlScript.Program.Includes

namespace SqlScript.CommandLine

/-- Adds what stands at a path to a tree: a file, a directory, or nothing.  What is
there and cannot be read as a file is taken for a directory. -/
def readPath (tree : Files.Tree) (path : Files.Path) : IO Files.Tree := do
  let place := (tree.resolve path).parts
  try
    let bytes ← IO.FS.readBinFile path.toString
    return tree.addFile place (.raw bytes.toList)
  catch _ =>
    try
      let _ ← IO.FS.realPath path.toString
      return tree.addDirectory place
    catch _ => return tree

/-- Adds the files that names of scripts may stand for. -/
def readNames (root : Files.Path) (names : List String) (tree : Files.Tree) :
    IO Files.Tree := do
  let mut tree := tree
  for name in names do
    let path := root.join (.ofString name)
    tree ← readPath tree path
    for ending in Files.scriptEndings do
      tree ← readPath tree (path.append ending)
  return tree

/-- Adds the files of some scripts and of all that these include, so many levels
deep. -/
def readScripts (root : Files.Path) : Nat → List String → Files.Tree → IO Files.Tree
  | 0, _, tree => return tree
  | levels + 1, names, tree => do
    let tree ← readNames root names tree
    let included := names.flatMap fun name =>
      match Files.scripts tree root name with
      | .error _ => []
      | .ok text =>
        (Program.parse defaultMarker text name).includeNames BindStyle.qmark.marker
    readScripts root levels included.eraseDups tree

/-- The files that the options ask for. -/
def readTree (current : List String) (o : Options) : IO Files.Tree := do
  let tree ← readPath { current := current } o.scriptPath
  match o.rootPath? with
  | none => return tree
  | some root =>
    readScripts root (defaultIncludeDepth + 1) [scriptName tree o.scriptPath root] tree

end SqlScript.CommandLine

open SqlScript SqlScript.CommandLine in
/-- Runs the command with the arguments it was given. -/
def main (argv : List String) : IO UInt32 := do
  let current := (Files.Path.ofString ((← IO.getEnv "PWD").getD "/")).parts
  let tree ← match Options.parse argv with
    | .ok o => readTree current o
    | .error _ => pure { current := current }
  let host : Host Rehearsal :=
    { tree := tree
      url := ← IO.getEnv "SQLPROC_URL"
      query := Rehearsal.query
      database := [] }
  let account := execute host 1000000000 argv
  IO.print account.stdout
  IO.eprint account.stderr
  match account.ending with
  | .exit code => return code.toUInt32
  | .fault f =>
    IO.eprintln f.message
    return 1
  | .breakdown b =>
    IO.eprintln b.message
    return 1
  | .cutOff =>
    IO.eprintln "the run was cut off"
    return 1
